import RowBinding.Proofs.CommandLine.Agreement
import RowBinding.Proofs.CommandLine.Effects
import RowBinding.Proofs.Request.Code

/-!
# Naming options override the naming file

The options that shape the naming policy replace parts of what the naming file says. A run with
them answers as a run whose naming file already holds the replaced policy, whatever form the first
file has: what is read from it is a policy, and only the policy matters.
-/
namespace RowBinding.CommandLine
open Column Config

/-- The arguments that ask for naming options. -/
def namingArguments (o : NamingOptions) : List String :=
  (o.file.map ("--naming=" ++ ·)).toList
    ++ (if o.columnNames then ["--column-names"] else [])
    ++ (o.separator.map ("--separator=" ++ ·)).toList
    ++ (o.columnCase.map ("--case=" ++ ·.word)).toList

def namingSettings (o : NamingOptions) : List Setting :=
  (o.file.map fun path => ⟨.naming, some path⟩).toList
    ++ (if o.columnNames then [⟨.columnNames, none⟩] else [])
    ++ (o.separator.map fun s => ⟨.separator, some s⟩).toList
    ++ (o.columnCase.map fun c => ⟨.columnCase, some c.word⟩).toList

/-- The options of the subcommand that say nothing about names. -/
def otherOptions : List OptionName := [.verbose, .input, .output, .reader, .object]

/-- What is asked for by naming options beside settings that say nothing about names. -/
def rowInvocation (ss : List Setting) (o : NamingOptions) : Invocation where
  task := .readRows ((valueOf? ss .reader).getD "rs") ((valueOf? ss .object).getD "obj") o
  input := valueOf? ss .input
  output := valueOf? ss .output

section Settings
variable {ss more : List Setting} {n : OptionName}

theorem valueOf?_append_left (h : ∀ x ∈ more, x.name ≠ n) :
    valueOf? (ss ++ more) n = valueOf? ss n := by
  rw [valueOf?, List.find?_append, find?_eq_none_of_name h, Option.or_none, valueOf?]

theorem valueOf?_append_right (h : ∀ x ∈ ss, x.name ≠ n) :
    valueOf? (ss ++ more) n = valueOf? more n := by
  rw [valueOf?, List.find?_append, find?_eq_none_of_name h, Option.none_or, valueOf?]

theorem acceptable_append (h : ∀ x ∈ ss, ∀ y ∈ more, x.name ≠ y.name) :
    acceptable (ss ++ more) = (acceptable ss && acceptable more) := by
  have hnames : ∀ a ∈ ss.map Setting.name, ∀ b ∈ more.map Setting.name, a ≠ b := by
    simpa using h
  rw [Bool.eq_iff_iff]
  simp only [acceptable, List.map_append, List.nodup_append, List.all_append, Bool.and_eq_true,
    decide_eq_true_eq]
  tauto

end Settings

section Naming
variable {o : NamingOptions} {ss : List Setting} {others : List String}

theorem spellsToEnd_namingArguments (o : NamingOptions) :
    SpellsToEnd (namingArguments o) (namingSettings o) := by
  have value {n : OptionName} (hn : n.isFlag = false) (v : Option String) :
      SpellsAll (v.map ("--" ++ n.long ++ "=" ++ ·)).toList
        (v.map fun v => ⟨n, some v⟩).toList := by
    cases v with
    | none => exact .nil
    | some v => exact (Spells.alone (.longValue hn v)).all
  have hflag : SpellsAll (if o.columnNames then ["--column-names"] else [])
      (if o.columnNames then [⟨.columnNames, none⟩] else []) := by
    split
    · exact (Spells.alone (.longFlag (o := .columnNames) rfl)).all
    · exact .nil
  have hcase : SpellsAll (o.columnCase.map ("--case=" ++ ·.word)).toList
      (o.columnCase.map fun c => ⟨.columnCase, some c.word⟩).toList := by
    have hword := value (n := .columnCase) rfl (o.columnCase.map ColumnCase.word)
    rwa [Option.map_map, Option.map_map] at hword
  rw [namingArguments, namingSettings]
  simp only [List.append_assoc]
  exact (value (n := .naming) rfl o.file).append_toEnd (hflag.append_toEnd
    ((value (n := .separator) rfl o.separator).append_toEnd hcase.toEnd))

theorem name_of_namingSettings (o : NamingOptions) :
    ∀ x ∈ namingSettings o, x.name ∈ Subcommand.readRows.options ∧ x.name ∉ otherOptions := by
  obtain ⟨file, names, sep, case⟩ := o
  cases file <;> cases names <;> cases sep <;> cases case <;>
    simp [namingSettings, otherOptions, Subcommand.options]

theorem acceptable_namingSettings (o : NamingOptions) :
    acceptable (namingSettings o) = o.file.all (· ≠ "") := by
  obtain ⟨file, names, sep, case⟩ := o
  cases file <;> cases names <;> cases sep <;> cases case <;>
    simp [namingSettings, acceptable, OptionName.accepts, ofWord?_word_columnCase]

/-- The naming options are read from their settings, and the rest from the others. -/
theorem ofSettings_append_namingSettings (hothers : ∀ x ∈ ss, x.name ∈ otherOptions)
    (o : NamingOptions) :
    Invocation.ofSettings .readRows (ss ++ namingSettings o) = rowInvocation ss o := by
  have hleft (n : OptionName) (hn : n ∈ otherOptions) :
      valueOf? (ss ++ namingSettings o) n = valueOf? ss n :=
    valueOf?_append_left fun x hx heq => (name_of_namingSettings o x hx).2 (heq ▸ hn)
  have hright (n : OptionName) (hn : n ∉ otherOptions) :
      valueOf? (ss ++ namingSettings o) n = valueOf? (namingSettings o) n :=
    valueOf?_append_right fun x hx heq => hn (heq ▸ hothers x hx)
  have hgiven : isGiven ss .columnNames = false := by
    rw [isGiven, List.any_eq_false]
    intro x hx heq
    have hname := hothers x hx
    rw [beq_iff_eq.1 heq] at hname
    exact absurd hname (by decide)
  have hnaming : isGiven (ss ++ namingSettings o) .columnNames =
      isGiven (namingSettings o) .columnNames := by
    rw [isGiven, List.any_append, ← isGiven, ← isGiven, hgiven, Bool.false_or]
  simp only [Invocation.ofSettings, rowInvocation, taskOf, hnaming, hleft .reader (by decide),
    hleft .object (by decide), hleft .input (by decide), hleft .output (by decide),
    hright .naming (by decide), hright .separator (by decide), hright .columnCase (by decide)]
  obtain ⟨file, names, sep, case⟩ := o
  cases file <;> cases names <;> cases sep <;> cases case <;>
    simp [namingSettings, valueOf?, isGiven, ofWord?_word_columnCase]

theorem asked_namingArguments (h : SpellsAll others ss)
    (hothers : ∀ x ∈ ss, x.name ∈ otherOptions) (o : NamingOptions) :
    Asked.ofArguments? ("rs-to-obj" :: (others ++ namingArguments o)) =
      if acceptable ss && o.file.all (· ≠ "") then some (.invocation (rowInvocation ss o))
      else none := by
  have hspells := h.append_toEnd (spellsToEnd_namingArguments o)
  have hknown : ∀ x ∈ ss ++ namingSettings o, x.name ∈ Subcommand.readRows.options := by
    refine List.forall_mem_append.2 ⟨fun x hx => ?_, fun x hx => (name_of_namingSettings o x hx).1⟩
    have hsome : ∀ n ∈ otherOptions, n ∈ Subcommand.readRows.options := by decide
    exact hsome _ (hothers x hx)
  have hdisjoint : ∀ x ∈ ss, ∀ y ∈ namingSettings o, x.name ≠ y.name :=
    fun x hx y hy heq => (name_of_namingSettings o y hy).2 (heq ▸ hothers x hx)
  have hargs : Asked.ofArguments? (Subcommand.readRows.word :: _) = _ :=
    asked_of_spellsToEnd hspells hknown
  rwa [acceptable_append hdisjoint, acceptable_namingSettings,
    ofSettings_append_namingSettings hothers] at hargs

end Naming

/-- A policy with the parts replaced that options give. A separator also asks for its use. -/
def NamingOptions.override (o : NamingOptions) (p : NamingPolicy) : NamingPolicy where
  generateNames := o.columnNames || p.generateNames
  useSeparator := o.separator.isSome || p.useSeparator
  separator := o.separator.getD p.separator
  columnCase := o.columnCase.getD p.columnCase

theorem setAll_parts (o : NamingOptions) (p : NamingPolicy) : p.setAll o.parts = o.override p := by
  obtain ⟨file, names, sep, case⟩ := o
  cases names <;> cases sep <;> cases case <;> rfl

/-- The policy of the naming file comes first, and the other options replace parts of it. -/
theorem policy_eq_map_override (o : NamingOptions) (read : FileReader) :
    o.policy read = (({ file := o.file } : NamingOptions).policy read).map o.override := by
  have hnone (p : NamingPolicy) : p.setAll ({ file := o.file } : NamingOptions).parts = p := rfl
  simp only [NamingOptions.policy, hnone, setAll_parts]
  cases o.file with
  | none => rfl
  | some path =>
    simp only [bind, Except.bind]
    cases read.readText path with
    | error e => rfl
    | ok text => cases hread : readPolicy text <;> simp only [hread] <;> rfl

/-- The code for reading rows with a naming policy, where other settings say the rest. -/
def rowCode (ss : List Setting) (p : NamingPolicy) (stdin : ByteArray) (read : FileReader) :
    Except RunError String := do
  let text ← (rowInvocation ss {}).inputText stdin read
  (Request.read ⟨(valueOf? ss .reader).getD "rs", (valueOf? ss .object).getD "obj", text,
    some p⟩).generate.mapError .failure

theorem result_rowInvocation {o : NamingOptions} {p : NamingPolicy} {read : FileReader}
    (h : o.policy read = .ok p) (ss : List Setting) (stdin : ByteArray) :
    (rowInvocation ss o).result stdin read = rowCode ss p stdin read := by
  simp only [Invocation.result, rowInvocation, h]
  rfl

/-- Two trees of files from which the same input is read, and where the same output can be
written or is refused in the same words. -/
structure AlikeFor (ss : List Setting) (files files' : Files) : Prop where
  input : ∀ path ∈ valueOf? ss .input, files.read path = files'.read path
  output : ∀ path ∈ valueOf? ss .output, ∀ text,
    (files.write path text).map (fun _ => ()) = (files'.write path text).map fun _ => ()

/-- Two runs over different files give the same answer: they end alike, and they change nothing or
write the same text at the same path. -/
def AnswerAlike (files files' : Files) (o o' : Outcome) : Prop :=
  o.exitCode = o'.exitCode ∧ o.stdout = o'.stdout ∧ o.note = o'.note ∧
    (o.files = files ∧ o'.files = files' ∨
      ∃ path text, files.write path text = .ok o.files ∧ files'.write path text = .ok o'.files)

/-- Over the same files the same answer is the same outcome. -/
theorem AnswerAlike.eq {files : Files} {o o' : Outcome} (h : AnswerAlike files files o o') :
    o = o' := by
  obtain ⟨hexit, hstdout, hnote, hfiles⟩ := h
  have hsame : o.files = o'.files := by
    obtain ⟨hkept, hkept'⟩ | ⟨path, text, hwrite, hwrite'⟩ := hfiles
    · rw [hkept, hkept']
    · exact Except.ok.inj (hwrite.symm.trans hwrite')
  cases o
  cases o'
  cases hexit
  cases hstdout
  cases hnote
  cases hsame
  rfl

section Alike
variable {ss : List Setting} {files files' : Files} {o o' : NamingOptions} {stdin : ByteArray}

theorem AlikeFor.refl (ss : List Setting) (files : Files) : AlikeFor ss files files where
  input _ _ := rfl
  output _ _ _ := rfl

theorem AlikeFor.inputText_eq (h : AlikeFor ss files files') :
    (rowInvocation ss o).inputText stdin files.read =
      (rowInvocation ss o').inputText stdin files'.read := by
  simp only [Invocation.inputText, rowInvocation]
  cases hinput : valueOf? ss .input with
  | none => rfl
  | some path => simp only [FileReader.readText, h.input path hinput]

theorem AlikeFor.result_eq (h : AlikeFor ss files files')
    (hpolicy : o.policy files.read = o'.policy files'.read) :
    (rowInvocation ss o).result stdin files.read =
      (rowInvocation ss o').result stdin files'.read := by
  have hinput : (rowInvocation ss o).inputText stdin files.read =
      (rowInvocation ss o').inputText stdin files'.read := h.inputText_eq
  rw [Invocation.result, Invocation.result, hinput]
  simp only [rowInvocation, hpolicy]

/-- Two attempts that come to the same, but for what they give, fail alike or both succeed. -/
theorem alike_of_map_eq {ε α : Type} {x y : Except ε α}
    (h : x.map (fun _ => ()) = y.map fun _ => ()) :
    (∃ e, x = .error e ∧ y = .error e) ∨ ∃ a b, x = .ok a ∧ y = .ok b := by
  cases x with
  | error e =>
    cases y with
    | error e' =>
      cases h
      exact .inl ⟨e, rfl, rfl⟩
    | ok b => cases h
  | ok a =>
    cases y with
    | error e' => cases h
    | ok b => exact .inr ⟨a, b, rfl, rfl⟩

/-- The answer is determined by the result: where it goes is the same for both. -/
theorem AlikeFor.answerAlike (h : AlikeFor ss files files')
    (hresult : (rowInvocation ss o).result stdin files.read =
      (rowInvocation ss o').result stdin files'.read) :
    AnswerAlike files files' ((rowInvocation ss o).run stdin files)
      ((rowInvocation ss o').run stdin files') := by
  rw [Invocation.run, Invocation.run, hresult]
  cases (rowInvocation ss o').result stdin files'.read with
  | error e => exact ⟨rfl, rfl, rfl, .inl ⟨rfl, rfl⟩⟩
  | ok text =>
    simp only [rowInvocation]
    cases houtput : valueOf? ss .output with
    | none => exact ⟨rfl, rfl, rfl, .inl ⟨rfl, rfl⟩⟩
    | some path =>
      obtain ⟨cause, hwrite, hwrite'⟩ | ⟨written, written', hwrite, hwrite'⟩ :=
        alike_of_map_eq (h.output path houtput text)
      · simp only [hwrite, hwrite']
        exact ⟨rfl, rfl, rfl, .inl ⟨rfl, rfl⟩⟩
      · simp only [hwrite, hwrite']
        exact ⟨rfl, rfl, rfl, .inr ⟨path, text, hwrite, hwrite'⟩⟩

end Alike

section Run
variable {o o' : NamingOptions} {ss : List Setting} {others : List String} {stdin : ByteArray}
  {files files' : Files}

/-- Only the policy that naming options come to matters. -/
theorem answerAlike_of_policy (h : SpellsAll others ss)
    (hothers : ∀ x ∈ ss, x.name ∈ otherOptions) (halike : AlikeFor ss files files')
    (hfile : o.file.all (· ≠ "") = o'.file.all (· ≠ ""))
    (hpolicy : o.policy files.read = o'.policy files'.read) :
    AnswerAlike files files'
      (run ("rs-to-obj" :: (others ++ namingArguments o)) stdin files)
      (run ("rs-to-obj" :: (others ++ namingArguments o')) stdin files') := by
  rw [run, run, asked_namingArguments h hothers, asked_namingArguments h hothers, hfile]
  by_cases hacc : (acceptable ss && o'.file.all (· ≠ "")) = true
  · rw [if_pos hacc, if_pos hacc]
    exact halike.answerAlike (halike.result_eq hpolicy)
  · rw [if_neg hacc, if_neg hacc]
    exact ⟨rfl, rfl, rfl, .inl ⟨rfl, rfl⟩⟩

/-- Without a policy a run fails. -/
theorem failed_of_policy (h : SpellsAll others ss) (hothers : ∀ x ∈ ss, x.name ∈ otherOptions)
    {e : RunError} (hpolicy : o.policy files.read = .error e) :
    ∃ code note, code ≠ 0 ∧
      run ("rs-to-obj" :: (others ++ namingArguments o)) stdin files = ⟨code, "", note, files⟩ := by
  rw [run, asked_namingArguments h hothers]
  by_cases hacc : (acceptable ss && o.file.all (· ≠ "")) = true
  · rw [if_pos hacc]
    obtain ⟨e', hfailed⟩ | ⟨text, hresult, -⟩ := run_cases (rowInvocation ss o) stdin files
    · exact ⟨1, _, Nat.one_ne_zero, hfailed⟩
    · simp only [Invocation.result, rowInvocation, hpolicy] at hresult
      obtain ⟨_, -, herror⟩ := bind_eq_ok_iff.1 hresult
      cases herror
  · rw [if_neg hacc]
    exact ⟨2, none, Nat.succ_ne_zero 1, rfl⟩

theorem file_ne_empty_of_policy {p : NamingPolicy}
    (h : ({ file := o.file } : NamingOptions).policy files.read = .ok p) :
    o.file.all (· ≠ "") = true := by
  cases hfile : o.file with
  | none => rfl
  | some path =>
    rw [hfile] at h
    rw [Option.all_some, decide_eq_true_eq]
    cases hread : files.read? path with
    | none =>
      simp only [NamingOptions.policy, FileReader.readText, Files.read, hread] at h
      cases h
    | some bytes => exact ne_empty_of_read? hread

end Run

/-- Naming options override what the naming file says: they replace their parts of the policy that
is read from it and keep the others, and the code is generated with the replaced policy. Where no
policy is read, they do not help. -/
theorem naming_options_override_file (o : NamingOptions) {others : List String}
    {ss : List Setting} (h : SpellsAll others ss) (hothers : ∀ x ∈ ss, x.name ∈ otherOptions)
    (stdin : ByteArray) (files : Files) :
    let base : NamingOptions := { file := o.file }
    let arguments (o : NamingOptions) := "rs-to-obj" :: (others ++ namingArguments o)
    let answer (o : NamingOptions) (files : Files) := run (arguments o) stdin files
    (∀ p, base.policy files.read = .ok p →
      (acceptable ss = true →
        Invocation.ofArguments? (arguments o) = some (rowInvocation ss o) ∧
        (rowInvocation ss o).result stdin files.read =
          rowCode ss (o.override p) stdin files.read) ∧
      (∀ path files', files'.read? path = some (writePolicy (o.override p)).toUTF8 →
        AlikeFor ss files files' →
        AnswerAlike files files' (answer o files) (answer { file := some path } files')) ∧
      (o.override p = p → answer o files = answer base files)) ∧
    ∀ e, base.policy files.read = .error e →
      answer o files = answer base files ∧ (answer o files).exitCode ≠ 0 ∧
        (answer o files).stdout = "" ∧ (answer o files).files = files := by
  intro base arguments answer
  have hsame (hpolicy : o.policy files.read = base.policy files.read) :
      answer o files = answer base files := by
    have halike : AnswerAlike files files (answer o files) (answer base files) :=
      answerAlike_of_policy h hothers (.refl ss files) rfl hpolicy
    exact halike.eq
  constructor
  · intro p hp
    have hpolicy : o.policy files.read = .ok (o.override p) := by
      rw [policy_eq_map_override, hp]
      rfl
    have hfile : o.file.all (· ≠ "") = true := file_ne_empty_of_policy hp
    refine ⟨?_, ?_, ?_⟩
    · intro hacc
      have hasked := asked_namingArguments h hothers o
      rw [hacc, hfile, Bool.and_self, if_pos rfl] at hasked
      exact ⟨ofArguments?_eq_some_iff_asked.2 hasked, result_rowInvocation hpolicy ss stdin⟩
    · intro path files' hread halike
      refine answerAlike_of_policy h hothers halike ?_ ?_
      · rw [hfile]
        simpa using ne_empty_of_read? hread
      · rw [hpolicy, policy_of_written (read?_eq_some_iff.1 hread)]
    · intro hkept
      exact hsame (by rw [hpolicy, hkept, hp])
  · intro e he
    have hpolicy : o.policy files.read = .error e := by
      rw [policy_eq_map_override, he]
      rfl
    obtain ⟨code, note, hcode, hfailed⟩ : ∃ code note, code ≠ 0 ∧ answer o files = _ :=
      failed_of_policy h hothers hpolicy
    refine ⟨hsame (by rw [hpolicy, he]), ?_⟩
    rw [hfailed]
    exact ⟨hcode, rfl, rfl⟩

theorem naming_options_override_file_in_order :
    let others := ["-r", "row"]
    let ss : List Setting := [⟨.reader, some "row"⟩]
    let stdin := "private long personId;".toUTF8
    let p : NamingPolicy := { useSeparator := true, separator := "=" }
    let merged : NamingPolicy := { p with generateNames := true, separator := "" }
    let held := "[false, true, \"=\"]"
    let files : Files := { root := [("naming.json", .file held.toUTF8)] }
    let files' : Files := { root := [("merged.json", .file (writePolicy merged).toUTF8)] }
    let flagged := run ["rs-to-obj", "-r", "row", "--naming=naming.json", "--column-names",
      "--separator="] stdin files
    let broken :=
      run ["rs-to-obj", "-r", "row", "--naming=missing.json", "--case=upper"] stdin files
    SpellsAll others ss ∧ (∀ x ∈ ss, x.name ∈ otherOptions) ∧
      ({ file := some "naming.json" } : NamingOptions).policy files.read = .ok p ∧
      files'.read? "merged.json" = some (writePolicy merged).toUTF8 ∧
      AlikeFor ss files files' ∧
      AnswerAlike files files' flagged
        (run ["rs-to-obj", "-r", "row", "--naming=merged.json"] stdin files') ∧
      flagged.exitCode = 0 ∧ broken.exitCode ≠ 0 ∧ broken.stdout = "" ∧ broken.files = files := by
  intro others ss stdin p merged held files files' flagged broken
  have hothers : ∀ x ∈ ss, x.name ∈ otherOptions := by decide
  have hspells : SpellsAll others ss :=
    (Spells.withNext (.letters (by simp) (.last rfl rfl)) (by decide)).all
  have hheld : files.read "naming.json" = .ok held.toUTF8 := rfl
  have hpolicy : ({ file := some "naming.json" } : NamingOptions).policy files.read = .ok p :=
    policy_of_readPolicy hheld (by decide +kernel)
  have hread : files'.read? "merged.json" = some (writePolicy merged).toUTF8 := rfl
  have halike : AlikeFor ss files files' := ⟨nofun, nofun⟩
  let o : NamingOptions := { file := some "naming.json", columnNames := true, separator := some "" }
  let o' : NamingOptions := { file := some "missing.json", columnCase := some .upper }
  have hmerged := ((naming_options_override_file o hspells hothers stdin files).1 p hpolicy).2.1
  have hbroken := (naming_options_override_file o' hspells hothers stdin files).2
    (.inputOutput "") rfl
  have hexit : flagged.exitCode = 0 := by decide +kernel
  exact ⟨hspells, hothers, hpolicy, hread, halike, hmerged _ files' hread halike, hexit,
    hbroken.2⟩

end RowBinding.CommandLine
