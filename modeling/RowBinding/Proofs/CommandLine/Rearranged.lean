import RowBinding.CommandLine.Run
import RowBinding.Proofs.CommandLine.Effects
import RowBinding.Proofs.CommandLine.Mentioned

/-!
# The order and the spelling of options

Options may be given in any order, each in any of its spellings, and the flag for verbose output
may stand before the subcommand, between options or in front of a letter. What an invocation asks
for does not depend on it. No option with a value may be given twice: arguments that give it twice
are refused, unless reading stops before the second time because help is asked for.
-/
namespace RowBinding.CommandLine

section Order
variable {ss ss' : List Setting}

theorem acceptable_perm (h : ss.Perm ss') : acceptable ss = acceptable ss' := by
  rw [acceptable, acceptable, h.all_eq, decide_eq_decide.2 (h.map Setting.name).nodup_iff]

theorem valueOf?_eq_some_iff (hacc : acceptable ss = true) {o : OptionName} {v : String} :
    valueOf? ss o = some v ↔ ⟨o, some v⟩ ∈ ss := by
  constructor
  · exact mem_of_valueOf?
  · intro hmem
    obtain ⟨l, r, rfl⟩ := List.append_of_mem hmem
    exact valueOf?_of_acceptable hacc

theorem valueOf?_perm (hacc : acceptable ss = true) (h : ss.Perm ss') (o : OptionName) :
    valueOf? ss o = valueOf? ss' o := by
  apply Option.ext
  intro v
  rw [valueOf?_eq_some_iff hacc, valueOf?_eq_some_iff (acceptable_perm h ▸ hacc), h.mem_iff]

theorem isGiven_perm (h : ss.Perm ss') (o : OptionName) : isGiven ss o = isGiven ss' o :=
  h.any_eq

theorem ofSettings_perm (hacc : acceptable ss = true) (h : ss.Perm ss') (s : Subcommand) :
    Invocation.ofSettings s ss = Invocation.ofSettings s ss' := by
  cases s <;>
    simp only [Invocation.ofSettings, taskOf, valueOf?_perm hacc h, isGiven_perm h]

/-- Asking for verbose output changes nothing. -/
theorem ofSettings_verbose (s : Subcommand) (ss : List Setting) :
    Invocation.ofSettings s (⟨.verbose, none⟩ :: ss) = Invocation.ofSettings s ss := by
  cases s <;> rfl

end Order

/-- The arguments that give an option its value behind its long name. -/
def longSpellings (o : OptionName) (v : String) : List (List String) :=
  [["--" ++ o.long, v], ["--" ++ o.long ++ "=" ++ v]]

/-- The arguments that give an option its value behind its letter, if it has one, with the letters
of flags in front. -/
def letterSpellings (flags : String) (o : OptionName) (v : String) : List (List String) :=
  match o.letter? with
  | none => []
  | some c =>
    let start := "-" ++ flags ++ String.singleton c
    [[start, v], [start ++ v], [start ++ "=" ++ v]]

/-- A value that can stand in every spelling. -/
def IsPlainValue (v : String) : Prop := ∃ c ∈ v.toList.head?, c ≠ '-' ∧ c ≠ '='

instance (v : String) : Decidable (IsPlainValue v) :=
  decidable_of_iff (v.toList.head?.any fun c => c ≠ '-' ∧ c ≠ '=')
    (by simp [IsPlainValue, Option.any_eq_true])

section Spellings
variable {o : OptionName} {v : String} {given : List String}

theorem IsPlainValue.exists_cons (h : IsPlainValue v) :
    ∃ c cs, v.toList = c :: cs ∧ c ≠ '-' ∧ c ≠ '=' := by
  obtain ⟨c, hhead, hc⟩ := h
  obtain ⟨cs, hv⟩ := List.head?_eq_some_iff.1 hhead
  exact ⟨c, cs, hv, hc⟩

theorem IsPlainValue.mayBeValue_eq (h : IsPlainValue v) : mayBeValue v = true := by
  obtain ⟨c, cs, hv, hc, -⟩ := h.exists_cons
  rw [mayBeValue, hv]
  split
  · next heq => exact absurd (List.cons.inj heq).1 hc
  · rfl

theorem spells_of_longSpellings (ho : o.isFlag = false) (hv : IsPlainValue v)
    (h : given ∈ longSpellings o v) : Spells given [⟨o, some v⟩] := by
  simp only [longSpellings, List.mem_cons, List.not_mem_nil, or_false] at h
  obtain rfl | rfl := h
  · exact .withNext (.long ho) hv.mayBeValue_eq
  · exact .alone (.longValue ho v)

/-- The letters of an option stand behind the hyphen and the letters of flags. -/
theorem exists_of_letterSpellings {flags : String} (h : given ∈ letterSpellings flags o v) :
    ∃ c, o.letter? = some c ∧
      (given = [String.ofList ('-' :: (flags.toList ++ [c])), v] ∨
        ∃ w, (w = v.toList ∨ w = '=' :: v.toList) ∧
          given = [String.ofList ('-' :: (flags.toList ++ c :: w))]) := by
  rw [letterSpellings] at h
  split at h
  · cases h
  · next c hc =>
    simp only [List.mem_cons, List.not_mem_nil, or_false] at h
    refine ⟨c, hc, ?_⟩
    obtain rfl | rfl | rfl := h
    · exact .inl (by simp [← String.toList_inj])
    · exact .inr ⟨v.toList, .inl rfl, by simp [← String.toList_inj]⟩
    · exact .inr ⟨'=' :: v.toList, .inr rfl, by simp [← String.toList_inj]⟩

theorem spells_of_letterSpellings {flags : String} {fs : List Setting}
    (hflags : FlagLetters flags.toList fs) (ho : o.isFlag = false) (hv : IsPlainValue v)
    (h : given ∈ letterSpellings flags o v) :
    Spells given (fs ++ [⟨o, some v⟩]) := by
  obtain ⟨c, hc, rfl | ⟨w, hw, rfl⟩⟩ := exists_of_letterSpellings h
  · have hletters : Letters (flags.toList ++ [c]) (fs ++ []) (some o) :=
      hflags.append (.last hc ho)
    rw [List.append_nil] at hletters
    exact .withNext (.letters (by simp) hletters) hv.mayBeValue_eq
  · refine .alone (.letters (by simp) (hflags.append ?_))
    obtain ⟨d, ds, hchars, -, hd⟩ := hv.exists_cons
    have hvalue : String.ofList (d :: ds) = v := by
      rw [← hchars, String.ofList_toList]
    rw [hchars] at hw
    obtain rfl | rfl := hw
    · rw [← hvalue]
      exact .attached hc ho hd ds
    · rw [← hvalue]
      exact .equals hc ho (d :: ds)

end Spellings

/-- Arguments that give options one after another: an option with a value in one of its spellings,
perhaps with the flag for verbose output in front of its letter, or a flag. -/
inductive Arranged : List Setting → List String → Prop
  | nil : Arranged [] []
  | value {o : OptionName} {v : String} {given : List String} {ss : List Setting}
      {rest : List String} (hgiven : given ∈ longSpellings o v ++ letterSpellings "" o v)
      (h : Arranged ss rest) : Arranged (⟨o, some v⟩ :: ss) (given ++ rest)
  | grouped {o : OptionName} {v : String} {given : List String} {ss : List Setting}
      {rest : List String} (hgiven : given ∈ letterSpellings "v" o v) (h : Arranged ss rest) :
      Arranged (⟨.verbose, none⟩ :: ⟨o, some v⟩ :: ss) (given ++ rest)
  | verbose {arg : String} {ss : List Setting} {rest : List String}
      (harg : arg ∈ ["-v", "--verbose"]) (h : Arranged ss rest) :
      Arranged (⟨.verbose, none⟩ :: ss) (arg :: rest)
  | columnNames {ss : List Setting} {rest : List String} (h : Arranged ss rest) :
      Arranged (⟨.columnNames, none⟩ :: ss) ("--column-names" :: rest)

/-- Arguments that name a subcommand and give it what is asked for, in any order. The flag for
verbose output may also stand before the subcommand. -/
def ArrangedRun (s : Subcommand) (asked : List Setting) (args : List String) : Prop :=
  ∃ ss rest, Arranged ss rest ∧
    (args = s.word :: rest ∧ ss.Perm asked ∨
      ∃ arg ∈ ["-v", "--verbose"], args = arg :: s.word :: rest ∧
        (⟨.verbose, none⟩ :: ss).Perm asked)

/-- A setting that its option takes, with a value that can stand in every spelling. -/
def Setting.IsPlain (x : Setting) : Prop :=
  x.name.accepts x.value = true ∧ ∀ v ∈ x.value, IsPlainValue v

instance (x : Setting) : Decidable x.IsPlain :=
  inferInstanceAs (Decidable (x.name.accepts x.value = true ∧ ∀ v ∈ x.value, IsPlainValue v))

/-- A subcommand can be asked for these settings: it has the options, and each is there once. -/
structure Askable (s : Subcommand) (asked : List Setting) : Prop where
  known : ∀ x ∈ asked, x.name ∈ s.options
  distinct : (asked.map Setting.name).Nodup
  plain : ∀ x ∈ asked, x.IsPlain

section Arranged
variable {s : Subcommand} {asked ss : List Setting} {args rest : List String}

theorem isFlag_of_accepts {o : OptionName} {v : String} (h : o.accepts (some v) = true) :
    o.isFlag = false := by
  cases o <;> first | rfl | cases h

theorem says_verbose {arg : String} (h : arg ∈ ["-v", "--verbose"]) :
    Says arg [⟨.verbose, none⟩] none := by
  simp only [List.mem_cons, List.not_mem_nil, or_false] at h
  obtain rfl | rfl := h
  · have hletters : Letters ['v'] [⟨.verbose, none⟩] none := .flag rfl rfl .nil
    exact .letters (by simp) hletters
  · exact .longFlag (o := .verbose) rfl

theorem Arranged.spellsAll (h : Arranged ss rest) (hplain : ∀ x ∈ ss, x.IsPlain) :
    SpellsAll rest ss := by
  induction h with
  | nil => exact .nil
  | @value o v given ss rest hgiven _ ih =>
    obtain ⟨⟨haccepts, hv⟩, hss⟩ := List.forall_mem_cons.1 hplain
    have ho : o.isFlag = false := isFlag_of_accepts haccepts
    have hnone : FlagLetters "".toList [] := .nil
    have hspells : Spells given [⟨o, some v⟩] := by
      rcases List.mem_append.1 hgiven with hlong | hletters
      · exact spells_of_longSpellings ho (hv v rfl) hlong
      · exact spells_of_letterSpellings hnone ho (hv v rfl) hletters
    exact .cons hspells (ih hss)
  | @grouped o v given ss rest hgiven _ ih =>
    obtain ⟨-, hplain⟩ := List.forall_mem_cons.1 hplain
    obtain ⟨⟨haccepts, hv⟩, hss⟩ := List.forall_mem_cons.1 hplain
    have hflag : FlagLetters "v".toList [⟨.verbose, none⟩] := .cons rfl rfl .nil
    have hspells : Spells given ([⟨.verbose, none⟩] ++ [⟨o, some v⟩]) :=
      spells_of_letterSpellings hflag (isFlag_of_accepts haccepts) (hv v rfl) hgiven
    exact .cons hspells (ih hss)
  | verbose harg _ ih =>
    exact .cons (.alone (says_verbose harg)) (ih (List.forall_mem_cons.1 hplain).2)
  | columnNames _ ih =>
    have hflag : Says "--column-names" [⟨.columnNames, none⟩] none :=
      .longFlag (o := .columnNames) rfl
    exact .cons (.alone hflag) (ih (List.forall_mem_cons.1 hplain).2)

theorem Askable.acceptable (h : Askable s asked) : acceptable asked = true := by
  rw [CommandLine.acceptable, Bool.and_eq_true, decide_eq_true_eq, List.all_eq_true]
  exact ⟨h.distinct, fun x hx => (h.plain x hx).1⟩

theorem Askable.of_perm (h : Askable s asked) (hperm : ss.Perm asked) : Askable s ss where
  known x hx := h.known x (hperm.mem_iff.1 hx)
  distinct := (hperm.map Setting.name).nodup_iff.2 h.distinct
  plain x hx := h.plain x (hperm.mem_iff.1 hx)

theorem Askable.tail {x : Setting} (h : Askable s (x :: ss)) : Askable s ss where
  known y hy := h.known y (List.mem_cons_of_mem x hy)
  distinct := (List.nodup_cons.1 h.distinct).2
  plain y hy := h.plain y (List.mem_cons_of_mem x hy)

/-- However the settings are arranged, the same invocation is read. -/
theorem ofArguments?_of_arranged (h : Askable s asked) (hargs : ArrangedRun s asked args) :
    Invocation.ofArguments? args = some (.ofSettings s asked) := by
  obtain ⟨ss, rest, harranged, ⟨rfl, hperm⟩ | ⟨arg, harg, rfl, hperm⟩⟩ := hargs
  · have hss := h.of_perm hperm
    have hspells := (harranged.spellsAll hss.plain).toEnd
    rw [ofArguments?_eq_some_iff_asked, asked_of_spellsToEnd hspells hss.known,
      if_pos hss.acceptable, ofSettings_perm h.acceptable hperm.symm s]
  · have hall := h.of_perm hperm
    have hss := hall.tail
    have hspells := (harranged.spellsAll hss.plain).toEnd
    rw [ofSettings_perm h.acceptable hperm.symm s, ofSettings_verbose, ofArguments?_eq_some_iff]
    exact ⟨[⟨.verbose, none⟩], s, ss, ⟨[arg], rest, rfl, (Spells.alone (says_verbose harg)).all,
      by simp, hspells, hss.known⟩, rfl, hss.acceptable, rfl⟩

end Arranged

/-- All the arguments that give an option a value. -/
def spellings (o : OptionName) (v : String) : List (List String) :=
  longSpellings o v ++ letterSpellings "" o v ++ letterSpellings "v" o v

section Twice
variable {o : OptionName} {v : String} {given : List String}

/-- A letter sets its option or awaits its value, whatever stands behind it. -/
theorem exists_letters {c : Char} (hc : o.letter? = some c) (ho : o.isFlag = false)
    (w : List Char) : ∃ ss pending, Letters (c :: w) ss pending ∧
      o ∈ ss.map Setting.name ++ pending.toList := by
  match w with
  | [] => exact ⟨_, _, .last hc ho, by simp⟩
  | d :: ds =>
    by_cases hd : d = '='
    · subst d
      exact ⟨_, _, .equals hc ho ds, by simp⟩
    · exact ⟨_, _, .attached hc ho hd ds, by simp⟩

/-- Arguments whose first sets an option, or awaits its value and is followed by it. -/
def Gives (o : OptionName) (v : String) (given : List String) : Prop :=
  ∃ arg ss pending, Says arg ss pending ∧ o ∈ ss.map Setting.name ++ pending.toList ∧
    (given = [arg] ∨ pending = some o ∧ given = [arg, v])

theorem gives_of_letterSpellings {flags : String} {fs : List Setting}
    (hflags : FlagLetters flags.toList fs) (ho : o.isFlag = false)
    (h : given ∈ letterSpellings flags o v) : Gives o v given := by
  obtain ⟨c, hc, rfl | ⟨w, -, rfl⟩⟩ := exists_of_letterSpellings h
  · have hletters : Letters (flags.toList ++ [c]) (fs ++ []) (some o) :=
      hflags.append (.last hc ho)
    exact ⟨_, _, _, .letters (by simp) hletters, by simp, .inr ⟨rfl, rfl⟩⟩
  · obtain ⟨ss, pending, hletters, hmem⟩ := exists_letters hc ho w
    refine ⟨_, _, _, .letters (by simp) (hflags.append hletters), ?_, .inl rfl⟩
    rw [List.map_append, List.append_assoc]
    exact List.mem_append_right _ hmem

theorem gives_of_spellings (ho : o.isFlag = false) (h : given ∈ spellings o v) :
    Gives o v given := by
  rw [spellings, List.mem_append, List.mem_append] at h
  rcases h with (hlong | hletters) | hgrouped
  · simp only [longSpellings, List.mem_cons, List.not_mem_nil, or_false] at hlong
    obtain rfl | rfl := hlong
    · exact ⟨_, _, _, .long ho, by simp, .inr ⟨rfl, rfl⟩⟩
    · exact ⟨_, _, _, .longValue ho v, by simp, .inl rfl⟩
  · have hnone : FlagLetters "".toList [] := .nil
    exact gives_of_letterSpellings hnone ho hletters
  · have hflag : FlagLetters "v".toList [⟨.verbose, none⟩] := .cons rfl rfl .nil
    exact gives_of_letterSpellings hflag ho hgrouped

theorem Gives.mem_mentioned (h : Gives o v given) : o ∈ given.flatMap mentioned := by
  obtain ⟨arg, ss, pending, hsaid, hmem, rfl | ⟨-, rfl⟩⟩ := h
  · simpa [hsaid.mentioned_eq] using hmem
  · rw [List.flatMap_cons, hsaid.mentioned_eq]
    exact List.mem_append_left _ hmem

/-- Reading does not stop for help inside arguments that give an option: the first does not ask for
help, and the second is a value that is awaited. -/
theorem Gives.not_stopped {front q r : List String} {arg : String} (h : Gives o v given)
    (hgiven : given = q ++ arg :: r) (hsettled : Settled (front ++ q)) : ¬ AsksForHelp arg := by
  obtain ⟨first, ss, pending, hsaid, -, rfl | ⟨rfl, rfl⟩⟩ := h
  · cases q with
    | nil =>
      cases hgiven
      exact hsaid.not_asksForHelp
    | cons y q => simp at hgiven
  · match q with
    | [] =>
      cases hgiven
      exact hsaid.not_asksForHelp
    | [y] =>
      cases hgiven
      exact absurd ⟨ss, o, hsaid⟩ (hsettled first (by simp))
    | _ :: _ :: q => simp at hgiven

end Twice

theorem exists_of_append_eq_append {l m p r : List String} {arg : String}
    (h : l ++ m = p ++ arg :: r) :
    (∃ t, l = p ++ arg :: t) ∨ ∃ q, p = l ++ q ∧ m = q ++ arg :: r := by
  rcases List.append_eq_append_iff.1 h with ⟨q, hp, hm⟩ | ⟨q, hl, hr⟩
  · exact .inr ⟨q, hp, hm⟩
  · cases q with
    | nil => exact .inr ⟨[], by simpa using hl.symm, by simpa using hr.symm⟩
    | cons y t =>
      cases hr
      exact .inl ⟨t, hl⟩

/-- Arguments that give an option twice ask for nothing, unless they ask for help before the second
time. -/
theorem asked_of_twice {o : OptionName} {v v' : String} {given given' a b c : List String}
    (ho : o.isFlag = false) (h : Gives o v given) (h' : Gives o v' given')
    (hhelp : ∀ arg ∈ a ++ b, ¬ AsksForHelp arg) :
    Asked.ofArguments? (a ++ given ++ b ++ given' ++ c) = none := by
  have htwice (rest : List String) :
      1 < ((a ++ given ++ b ++ given' ++ rest).flatMap mentioned).count o := by
    have hfirst := List.count_pos_iff.2 h.mem_mentioned
    have hsecond := List.count_pos_iff.2 h'.mem_mentioned
    simp only [List.flatMap_append, List.count_append]
    omega
  rw [Option.eq_none_iff_forall_ne_some]
  rintro (topic | i) hasked
  · obtain hnone | ⟨p, arg, r, hargs, hasks, hsettled, hcount⟩ := stopped_of_help hasked
    · have hmem := List.count_pos_iff.1 (Nat.zero_lt_of_lt (htwice c))
      exact hnone o ho hmem
    · simp only [List.append_assoc] at hargs
      obtain ⟨t, rfl⟩ | ⟨q, rfl, hrest⟩ := exists_of_append_eq_append hargs
      · exact hhelp arg (by simp) hasks
      obtain ⟨t, ht⟩ | ⟨q', rfl, hrest'⟩ := exists_of_append_eq_append hrest
      · exact h.not_stopped ht hsettled hasks
      obtain ⟨t, rfl⟩ | ⟨q, rfl, hlast⟩ := exists_of_append_eq_append hrest'
      · exact hhelp arg (by simp) hasks
      simp only [← List.append_assoc] at hsettled hcount
      obtain ⟨t, ht⟩ | ⟨q', rfl, -⟩ := exists_of_append_eq_append hlast
      · exact h'.not_stopped ht hsettled hasks
      · have hone := hcount o ho
        rw [← List.append_assoc] at hone
        exact absurd (htwice q') (Nat.not_lt.2 hone)
  · have hone := count_mentioned_le_one ho (ofArguments?_eq_some_iff_asked.2 hasked)
    exact absurd (htwice c) (Nat.not_lt.2 hone)

/-- Options may be arranged in any way: a run does what is asked for. Giving an option a value
twice is refused, and nothing is changed, unless help is asked for before the second time. -/
theorem order_and_spelling_do_not_matter (stdin : ByteArray) (files : Files) :
    (∀ s asked args, Askable s asked → ArrangedRun s asked args →
      run args stdin files = (Invocation.ofSettings s asked).run stdin files) ∧
    ∀ (o : OptionName) (v v' : String) (given given' a b c : List String), o.isFlag = false →
      given ∈ spellings o v → given' ∈ spellings o v' → (∀ arg ∈ a ++ b, ¬ AsksForHelp arg) →
        run (a ++ given ++ b ++ given' ++ c) stdin files = ⟨2, "", none, files⟩ := by
  constructor
  · intro s asked args hasked hargs
    exact run_of_ofArguments? (ofArguments?_of_arranged hasked hargs)
  · intro o v v' given given' a b c ho hgiven hgiven' hhelp
    rw [run, asked_of_twice ho (gives_of_spellings ho hgiven) (gives_of_spellings ho hgiven') hhelp]

theorem order_and_spelling_do_not_matter_with_grouped_flag :
    let asked : List Setting := [⟨.reader, some "row"⟩, ⟨.columnCase, some "lower"⟩,
      ⟨.columnNames, none⟩, ⟨.object, some "person"⟩, ⟨.verbose, none⟩]
    let grouped := ["rs-to-obj", "--column-names", "-vjperson", "--case", "lower", "-r=row"]
    let before := ["-v", "rs-to-obj", "-r", "row", "--object=person", "--case=lower",
      "--column-names"]
    let twice := ["rs-to-obj", "--reader=row", "--case", "lower", "-vr", "person"]
    let stdin := "private long id;".toUTF8
    Askable .readRows asked ∧ ArrangedRun .readRows asked grouped ∧
      ArrangedRun .readRows asked before ∧
      run grouped stdin {} = run before stdin {} ∧ (run before stdin {}).exitCode = 0 ∧
      run twice stdin {} = ⟨2, "", none, {}⟩ := by
  intro asked grouped before twice stdin
  have hplain : ∀ x ∈ asked, x.IsPlain := by decide
  have hasked : Askable .readRows asked := ⟨by decide, by decide, hplain⟩
  have hgrouped : ArrangedRun .readRows asked grouped := by
    have hobject : ["-vjperson"] ∈ letterSpellings "v" .object "person" := by decide
    have hcase : ["--case", "lower"] ∈
        longSpellings .columnCase "lower" ++ letterSpellings "" .columnCase "lower" := by decide
    have hreader : ["-r=row"] ∈
        longSpellings .reader "row" ++ letterSpellings "" .reader "row" := by decide
    exact ⟨_, _, .columnNames (.grouped hobject (.value hcase (.value hreader .nil))),
      .inl ⟨rfl, by decide⟩⟩
  have hbefore : ArrangedRun .readRows asked before := by
    have hreader : ["-r", "row"] ∈
        longSpellings .reader "row" ++ letterSpellings "" .reader "row" := by decide
    have hobject : ["--object=person"] ∈
        longSpellings .object "person" ++ letterSpellings "" .object "person" := by decide
    have hcase : ["--case=lower"] ∈
        longSpellings .columnCase "lower" ++ letterSpellings "" .columnCase "lower" := by decide
    exact ⟨_, _, .value hreader (.value hobject (.value hcase (.columnNames .nil))),
      .inr ⟨"-v", by decide, rfl, by decide⟩⟩
  obtain ⟨hsame, htwice⟩ := order_and_spelling_do_not_matter stdin {}
  have hexit : (run before stdin {}).exitCode = 0 := by decide +kernel
  refine ⟨hasked, hgrouped, hbefore, ?_, hexit, ?_⟩
  · rw [hsame _ _ _ hasked hgrouped, hsame _ _ _ hasked hbefore]
  · exact htwice .reader "row" "person" ["--reader=row"] ["-vr", "person"] ["rs-to-obj"]
      ["--case", "lower"] [] rfl (by decide) (by decide) (by decide)

end RowBinding.CommandLine
