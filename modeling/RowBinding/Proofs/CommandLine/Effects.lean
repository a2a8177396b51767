import RowBinding.CommandLine.Run
import RowBinding.Proofs.CommandLine.Arguments
import RowBinding.Proofs.CommandLine.Files

/-!
# What a run changes

A run that fails changes nothing and prints nothing. A run that succeeds prints its result and a
line break, or writes the result to the one file that it was asked to write and prints nothing.
What it writes there is what it would have printed if it had not been asked to write: leaving out
the arguments that ask for the output file leaves the rest of the invocation as it was, and the
result is computed before anything is written. A run that is asked for help prints it and changes
nothing.
-/
namespace RowBinding.CommandLine

section Settings
variable {l r : List Setting} {x : Setting} {o : OptionName}

theorem valueOf?_of_ne (hx : x.name ≠ o) : valueOf? (l ++ x :: r) o = valueOf? (l ++ r) o := by
  simp [valueOf?, List.find?_append, hx]

theorem isGiven_of_ne (hx : x.name ≠ o) : isGiven (l ++ x :: r) o = isGiven (l ++ r) o := by
  have hname : (x.name == o) = false := beq_false_of_ne hx
  simp only [isGiven, List.any_append, List.any_cons, hname, Bool.false_or]

theorem taskOf_of_output (hx : x.name = .output) (s : Subcommand) :
    taskOf (l ++ x :: r) s = taskOf (l ++ r) s := by
  have hvalue (o : OptionName) (ho : OptionName.output ≠ o) :
      valueOf? (l ++ x :: r) o = valueOf? (l ++ r) o := valueOf?_of_ne (by rwa [hx])
  have hgiven : isGiven (l ++ x :: r) .columnNames = isGiven (l ++ r) .columnNames :=
    isGiven_of_ne (by rw [hx]; decide)
  cases s <;> simp [taskOf, hvalue, hgiven]

theorem acceptable_of_append (h : acceptable (l ++ x :: r) = true) :
    acceptable (l ++ r) = true ∧ x.name.accepts x.value = true ∧
      ∀ y ∈ l ++ r, y.name ≠ x.name := by
  simp only [acceptable, Bool.and_eq_true, decide_eq_true_eq, List.all_append, List.all_cons,
    List.map_append, List.map_cons] at h ⊢
  obtain ⟨hnodup, hl, hx, hr⟩ := h
  obtain ⟨hnot, hrest⟩ := List.nodup_cons.1 (List.perm_middle.nodup_iff.1 hnodup)
  refine ⟨⟨hrest, hl, hr⟩, hx, fun y hy hname => hnot ?_⟩
  rw [← hname, ← List.map_append]
  exact List.mem_map_of_mem hy

theorem find?_eq_none_of_name (h : ∀ y ∈ l, y.name ≠ o) : l.find? (·.name == o) = none := by
  simpa using h

theorem valueOf?_eq_none (h : ∀ y ∈ l, y.name ≠ o) : valueOf? l o = none := by
  rw [valueOf?, find?_eq_none_of_name h, Option.bind_none]

theorem valueOf?_of_acceptable (h : acceptable (l ++ x :: r) = true) :
    valueOf? (l ++ x :: r) x.name = x.value := by
  have hl : l.find? (·.name == x.name) = none :=
    find?_eq_none_of_name fun y hy => (acceptable_of_append h).2.2 y (List.mem_append_left r hy)
  simp [valueOf?, List.find?_append, hl]

theorem mem_of_valueOf? {v : String} (h : valueOf? l o = some v) : ⟨o, some v⟩ ∈ l := by
  obtain ⟨y, hfind, hv⟩ := Option.bind_eq_some_iff.1 h
  have hname := List.find?_some hfind
  rw [beq_iff_eq] at hname
  subst o
  rw [← hv]
  exact List.mem_of_find?_eq_some hfind

end Settings

/-- Behind grouped letters of flags stands at most one option with a value. -/
theorem Letters.exists_flags {cs : List Char} {ss : List Setting} {pending : Option OptionName}
    (h : Letters cs ss pending) :
    ∃ fs flags, FlagLetters fs flags ∧
      (ss = flags ∨ pending = none ∧ ∃ x, ss = flags ++ [x]) := by
  induction h with
  | nil => exact ⟨[], [], .nil, .inl rfl⟩
  | @flag o c _ _ _ hc hflag _ ih =>
    obtain ⟨fs, flags, hfs, h⟩ := ih
    refine ⟨c :: fs, ⟨o, none⟩ :: flags, .cons hc hflag hfs, ?_⟩
    obtain rfl | ⟨rfl, x, rfl⟩ := h
    · exact .inl rfl
    · exact .inr ⟨rfl, x, rfl⟩
  | attached | equals => exact ⟨[], [], .nil, .inr ⟨rfl, _, rfl⟩⟩
  | last => exact ⟨[], [], .nil, .inl rfl⟩

theorem Letters.exists_spellsAll {cs : List Char} {ss : List Setting} (h : Letters cs ss none) :
    ∃ kept, SpellsAll kept ss := by
  cases cs with
  | nil =>
    cases h
    exact ⟨[], .nil⟩
  | cons c cs =>
    have hspells : Spells [String.ofList ('-' :: c :: cs)] ss :=
      .alone (.letters (List.cons_ne_nil c cs) h)
    exact ⟨_, hspells.all⟩

theorem Says.exists_flags {arg : String} {ss : List Setting} {pending : Option OptionName}
    (h : Says arg ss pending) :
    ∃ kept flags, SpellsAll kept flags ∧ (∀ f ∈ flags, f.name.isFlag = true) ∧
      (ss = flags ∨ pending = none ∧ ∃ x, ss = flags ++ [x]) := by
  cases h with
  | @longFlag o hflag =>
    have hspells : Spells ["--" ++ o.long] [⟨o, none⟩] := .alone (.longFlag hflag)
    exact ⟨_, _, hspells.all, by simpa using hflag, .inl rfl⟩
  | longValue => exact ⟨[], [], .nil, by simp, .inr ⟨rfl, _, rfl⟩⟩
  | long => exact ⟨[], [], .nil, by simp, .inl rfl⟩
  | letters _ h =>
    obtain ⟨fs, flags, hfs, h⟩ := h.exists_flags
    obtain ⟨kept, hkept⟩ := hfs.letters.exists_spellsAll
    exact ⟨kept, flags, hkept, hfs.isFlag, h⟩

/-- An option with a value comes last among the settings that are spelled together with it, and
the flags before it can be spelled without it. -/
theorem Spells.exists_flags {given : List String} {ss : List Setting} {x : Setting}
    (h : Spells given ss) (hx : x ∈ ss) (hvalue : x.name.isFlag = false) :
    ∃ kept flags, SpellsAll kept flags ∧ ss = flags ++ [x] := by
  have among {flags : List Setting} {y : Setting} (hall : ∀ f ∈ flags, f.name.isFlag = true)
      (hx : x ∈ flags ++ [y]) : x = y := by
    rcases List.mem_append.1 hx with hx | hx
    · rw [hall x hx] at hvalue
      cases hvalue
    · exact List.mem_singleton.1 hx
  cases h with
  | alone hsaid =>
    obtain ⟨kept, flags, hkept, hall, rfl | ⟨-, y, rfl⟩⟩ := hsaid.exists_flags
    · rw [hall x hx] at hvalue
      cases hvalue
    · exact ⟨kept, flags, hkept, by rw [among hall hx]⟩
  | @withNext _ _ flags _ hsaid _ =>
    obtain ⟨kept, _, hkept, hall, rfl | ⟨h, -⟩⟩ := hsaid.exists_flags
    · exact ⟨kept, flags, hkept, by rw [among hall hx]⟩
    · cases h

theorem SpellsToEnd.exists_spells {args : List String} {ss : List Setting} {x : Setting}
    (h : SpellsToEnd args ss) (hx : x ∈ ss) :
    ∃ a given b gs, args = a ++ (given ++ b) ∧ Spells given gs ∧ x ∈ gs := by
  induction h with
  | nil | hyphens => cases hx
  | @cons given rest ss more h _ ih =>
    rcases List.mem_append.1 hx with hx | hx
    · exact ⟨[], given, rest, ss, rfl, h, hx⟩
    · obtain ⟨a, given', b, gs, rfl, hspells, hgs⟩ := ih hx
      exact ⟨given ++ a, given', b, gs, by simp, hspells, hgs⟩

/-- `less` are the arguments without those that ask for `path` as the output file. Flags that are
grouped with them are kept. -/
def WithoutOutput (path : String) (args less : List String) : Prop :=
  ∃ a given kept b flags, args = a ++ (given ++ b) ∧ less = a ++ (kept ++ b) ∧
    Spells given (flags ++ [⟨.output, some path⟩]) ∧ SpellsAll kept flags

section Output
variable {args less : List String} {path : String} {i : Invocation}

/-- Leaving out the output file leaves the rest of an invocation as it was. -/
theorem ofArguments?_of_withoutOutput (h : Invocation.ofArguments? args = some i)
    (hwithout : WithoutOutput path args less) :
    i.output = some path ∧ Invocation.ofArguments? less = some { i with output := none } := by
  obtain ⟨before, s, settings, hrun, hbefore, hacc, rfl⟩ := ofArguments?_eq_some_iff.1 h
  obtain ⟨a, given, kept, b, flags, rfl, rfl, hgiven, hkept⟩ := hwithout
  have hknown := hrun.known
  obtain ⟨left, right, rfl, hrest⟩ :=
    hrun.split hgiven (List.mem_append_right _ List.mem_cons_self) (by simp)
  have hflags : ∀ k ∈ flags, k.name ∈ s.options := fun k hk => hknown k (by simp [hk])
  have hless := hrest kept flags hkept hflags
  have hsettings : left ++ (flags ++ [⟨.output, some path⟩] ++ right) =
      (left ++ flags) ++ (⟨.output, some path⟩ : Setting) :: right := by simp
  rw [← List.append_assoc left] at hless
  rw [hsettings] at hacc ⊢
  obtain ⟨hacc', -, hothers⟩ := acceptable_of_append hacc
  have hinvocation : Invocation.ofSettings s (left ++ flags ++ right) =
      { Invocation.ofSettings s (left ++ flags ++ ⟨.output, some path⟩ :: right) with
        output := none } := by
    simp only [Invocation.ofSettings, taskOf_of_output, valueOf?_eq_none hothers,
      valueOf?_of_ne (x := ⟨.output, some path⟩) (o := .input) (by simp)]
  refine ⟨valueOf?_of_acceptable hacc, ?_⟩
  rw [ofArguments?_eq_some_iff]
  exact ⟨before, s, _, hless, hbefore, hacc', hinvocation.symm⟩

theorem exists_withoutOutput (h : Invocation.ofArguments? args = some i)
    (houtput : i.output = some path) : ∃ less, WithoutOutput path args less := by
  obtain ⟨before, s, settings, hrun, hbefore, hacc, rfl⟩ := ofArguments?_eq_some_iff.1 h
  obtain ⟨front, rest, rfl, -, -, hrest, -⟩ := hrun
  have hmem : ⟨.output, some path⟩ ∈ settings := mem_of_valueOf? houtput
  obtain ⟨a, given, b, gs, rfl, hspells, hgs⟩ := hrest.exists_spells hmem
  obtain ⟨kept, flags, hkept, rfl⟩ := hspells.exists_flags hgs rfl
  exact ⟨_, front ++ s.word :: a, given, kept, b, flags, by simp, rfl, hspells, hkept⟩

end Output

section Run
variable {args : List String} {i : Invocation} {stdin : ByteArray} {files : Files}

theorem run_of_ofArguments? (h : Invocation.ofArguments? args = some i) :
    run args stdin files = i.run stdin files := by
  rw [run, ofArguments?_eq_some_iff_asked.1 h]

/-- How a run can end: it fails and changes nothing, or it prints its result, or it writes its
result and prints nothing. -/
theorem run_cases (i : Invocation) (stdin : ByteArray) (files : Files) :
    (∃ e, i.run stdin files = .failed e files) ∨
    ∃ text, i.result stdin files.read = .ok text ∧
      (i.output = none ∧ i.run stdin files = ⟨0, text ++ "\n", none, files⟩ ∨
      ∃ path written, i.output = some path ∧ files.write path text = .ok written ∧
        i.run stdin files = ⟨0, "", some (writtenNote path), written⟩) := by
  rw [Invocation.run]
  cases hresult : i.result stdin files.read with
  | error e => exact .inl ⟨e, rfl⟩
  | ok text =>
    cases houtput : i.output with
    | none => exact .inr ⟨text, rfl, .inl ⟨rfl, rfl⟩⟩
    | some path =>
      cases hwrite : files.write path text with
      | error cause => exact .inl ⟨.inputOutput cause, by simp only [hwrite]⟩
      | ok written =>
        exact .inr ⟨text, rfl, .inr ⟨path, written, rfl, hwrite, by simp only [hwrite]⟩⟩

/-- An invocation's result does not depend on where it is written. -/
theorem run_without_output {text : String} (h : i.result stdin files.read = .ok text) :
    { i with output := none : Invocation }.run stdin files = ⟨0, text ++ "\n", none, files⟩ := by
  have hresult : { i with output := none : Invocation }.result stdin files.read = .ok text := h
  rw [Invocation.run, hresult]

end Run

/-- A run changes files only if it succeeds, and then only the one that it was asked to write. No
directory comes or goes. A run that is asked for help changes nothing. -/
theorem run_changes_only_output (args : List String) (stdin : ByteArray) (files : Files) :
    let o := run args stdin files
    (∀ topic, Asked.ofArguments? args = some (.help topic) →
      o = ⟨0, topic.text, none, files⟩) ∧
    (o.exitCode ≠ 0 → (o.exitCode = 1 ∨ o.exitCode = 2) ∧ o.stdout = "" ∧ o.files = files) ∧
    (o.exitCode = 0 → (∀ topic, Asked.ofArguments? args ≠ some (.help topic)) →
      ((∀ path less, ¬ WithoutOutput path args less) →
        ∃ i text, Invocation.ofArguments? args = some i ∧ i.result stdin files.read = .ok text ∧
          o = ⟨0, text ++ "\n", none, files⟩) ∧
      ∀ path less, WithoutOutput path args less →
        ∃ text place, run less stdin files = ⟨0, text ++ "\n", none, files⟩ ∧
          o.stdout = "" ∧ files.locate path = some place ∧ o.files.locate path = some place ∧
          o.files.get? place = some text.toUTF8 ∧
          (∀ other, other ≠ place → o.files.get? other = files.get? other) ∧
          ∀ other, o.files.isDirectory other = files.isDirectory other) := by
  intro o
  have ho : o = run args stdin files := rfl
  clear_value o
  rcases hasked : Asked.ofArguments? args with _ | ⟨topic | i⟩
  · rw [run, hasked] at ho
    subst o
    exact ⟨nofun, fun _ => ⟨.inr rfl, rfl, rfl⟩, nofun⟩
  · rw [run, hasked] at ho
    subst o
    refine ⟨fun topic' htopic => ?_, fun h => absurd rfl h, fun _ hhelp => absurd rfl (hhelp topic)⟩
    cases htopic
    rfl
  · have hargs := ofArguments?_eq_some_iff_asked.2 hasked
    rw [run_of_ofArguments? hargs] at ho
    refine ⟨nofun, ?_⟩
    obtain ⟨e, hfailed⟩ | ⟨text, hresult, ⟨hnone, hok⟩ | ⟨path, written, hsome, hwrite, hok⟩⟩ :=
      run_cases i stdin files
    · rw [hfailed] at ho
      subst o
      exact ⟨fun _ => ⟨.inl rfl, rfl, rfl⟩, nofun⟩
    · rw [hok] at ho
      subst o
      refine ⟨fun h => absurd rfl h, fun _ _ => ⟨fun _ => ⟨i, text, hargs, hresult, rfl⟩, ?_⟩⟩
      intro path less hwithout
      rw [(ofArguments?_of_withoutOutput hargs hwithout).1] at hnone
      cases hnone
    · rw [hok] at ho
      subst o
      refine ⟨fun h => absurd rfl h, fun _ _ => ⟨fun hall => ?_, fun path' less hwithout => ?_⟩⟩
      · obtain ⟨less, hless⟩ := exists_withoutOutput hargs hsome
        exact absurd hless (hall path less)
      · obtain ⟨hpath, hless⟩ := ofArguments?_of_withoutOutput hargs hwithout
        rw [hsome] at hpath
        cases hpath
        obtain ⟨place, hplace, hput, hothers, hdirectories, hplace'⟩ := exists_of_write hwrite
        refine ⟨text, place, ?_, rfl, hplace, hplace', hput, hothers, hdirectories⟩
        rw [run_of_ofArguments? hless]
        exact run_without_output hresult

theorem run_changes_only_output_in_empty_directory :
    let args := ["rs-to-obj", "-vo", "../out/code.txt"]
    let stdin := "private long id;".toUTF8
    let files : Files := {
      root := [("tmp", .directory [("work", .directory []), ("out", .directory [])])]
      directory := ["tmp", "work"] }
    (run args stdin files).exitCode = 0 ∧
      (∀ topic, Asked.ofArguments? args ≠ some (.help topic)) ∧
      WithoutOutput "../out/code.txt" args ["rs-to-obj", "-v"] ∧
      ∃ text place, run ["rs-to-obj", "-v"] stdin files = ⟨0, text ++ "\n", none, files⟩ ∧
        (run args stdin files).stdout = "" ∧ files.locate "../out/code.txt" = some place ∧
        (run args stdin files).files.locate "../out/code.txt" = some place ∧
        (run args stdin files).files.get? place = some text.toUTF8 ∧
        (∀ other, other ≠ place →
          (run args stdin files).files.get? other = files.get? other) ∧
        ∀ other, (run args stdin files).files.isDirectory other = files.isDirectory other := by
  intro args stdin files
  have hexit : (run args stdin files).exitCode = 0 := by decide +kernel
  have hasked : Asked.ofArguments? args = some (.invocation ⟨.readRows "rs" "obj" {}, none,
      some "../out/code.txt"⟩) := by decide
  have hhelp : ∀ topic, Asked.ofArguments? args ≠ some (.help topic) := by
    rw [hasked]
    exact nofun
  have hwithout : WithoutOutput "../out/code.txt" args ["rs-to-obj", "-v"] := by
    have hflag : Letters ['v'] [⟨.verbose, none⟩] none := .flag rfl rfl .nil
    have hletters : Letters ['v', 'o'] [⟨.verbose, none⟩] (some .output) :=
      .flag rfl rfl (.last rfl rfl)
    refine ⟨["rs-to-obj"], ["-vo", "../out/code.txt"], ["-v"], [], [⟨.verbose, none⟩], rfl, rfl,
      ?_, ?_⟩
    · exact .withNext (.letters (by simp) hletters) (by decide)
    · exact (Spells.alone (.letters (by simp) hflag)).all
  exact ⟨hexit, hhelp, hwithout,
    ((run_changes_only_output args stdin files).2.2 hexit hhelp).2 _ _ hwithout⟩

end RowBinding.CommandLine
