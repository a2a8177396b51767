import RowBinding.CommandLine.Invocation
import RowBinding.Proofs.CommandLine.Spelling

/-!
# What arguments are read as

Settings are read from arguments exactly if the arguments spell them one after another; two
hyphens may stand at the end. An invocation is read from arguments that spell verbose flags, name
a subcommand, and spell settings of that subcommand. Where help is asked for, the arguments before
spell settings in the same way.

Arguments that spell an option start with a hyphen, so they are never the value of another
option: wherever they stand among arguments that are read, they are read as that option, and
others may be put in their place.
-/
namespace RowBinding.CommandLine

inductive SpellsAll : List String → List Setting → Prop
  | nil : SpellsAll [] []
  | cons {given rest : List String} {ss more : List Setting} (h : Spells given ss)
      (hrest : SpellsAll rest more) : SpellsAll (given ++ rest) (ss ++ more)

/-- As `SpellsAll`, with two hyphens at the end or not. -/
inductive SpellsToEnd : List String → List Setting → Prop
  | nil : SpellsToEnd [] []
  | hyphens : SpellsToEnd ["--"] []
  | cons {given rest : List String} {ss more : List Setting} (h : Spells given ss)
      (hrest : SpellsToEnd rest more) : SpellsToEnd (given ++ rest) (ss ++ more)

theorem Spells.all {given : List String} {ss : List Setting} (h : Spells given ss) :
    SpellsAll given ss := by
  have hall := SpellsAll.cons h .nil
  rwa [List.append_nil, List.append_nil] at hall

theorem SpellsAll.append_toEnd {given rest : List String} {ss more : List Setting}
    (h : SpellsAll given ss) (hrest : SpellsToEnd rest more) :
    SpellsToEnd (given ++ rest) (ss ++ more) := by
  induction h with
  | nil => exact hrest
  | cons h _ ih =>
    rw [List.append_assoc, List.append_assoc]
    exact .cons h ih

theorem SpellsAll.toEnd {given : List String} {ss : List Setting} (h : SpellsAll given ss) :
    SpellsToEnd given ss := by
  have hend := h.append_toEnd .nil
  rwa [List.append_nil, List.append_nil] at hend

section Settings
variable {options : List OptionName} {ss : List Setting}

theorem readSettings_of_spells {given : List String} (h : Spells given ss)
    (hknown : ∀ s ∈ ss, s.name ∈ options) (rest : List String) :
    readSettings options (given ++ rest) =
      (readSettings options rest).map fun (more, asked) => (ss ++ more, asked) := by
  cases h with
  | alone hsaid =>
    have hread := readArgument_of_says hsaid ⟨hknown, by simp⟩
    simp only [List.cons_append, List.nil_append, readSettings, hread]
  | @withNext arg v ss o hsaid hv =>
    obtain ⟨hss, ho⟩ := List.forall_mem_append.1 hknown
    have hread := readArgument_of_says hsaid ⟨hss, by simpa using ho⟩
    simp [readSettings, hread, hv]

theorem readSettings_of_spellsToEnd {args : List String} (h : SpellsToEnd args ss)
    (hknown : ∀ s ∈ ss, s.name ∈ options) : readSettings options args = some (ss, false) := by
  induction h with
  | nil | hyphens => rfl
  | cons h _ ih =>
    obtain ⟨hss, hmore⟩ := List.forall_mem_append.1 hknown
    rw [readSettings_of_spells h hss, ih hmore, Option.map_some]

theorem spellsToEnd_of_readSettings {args : List String}
    (h : readSettings options args = some (ss, false)) :
    SpellsToEnd args ss ∧ ∀ s ∈ ss, s.name ∈ options := by
  fun_induction readSettings options args generalizing ss with
  | case1 =>
    cases h
    exact ⟨.nil, by simp⟩
  | case2 arg rest given hread ih =>
    obtain ⟨⟨more, _⟩, hmore, heq⟩ := Option.map_eq_some_iff.1 h
    cases heq
    obtain ⟨hrest, hknown⟩ := ih hmore
    obtain ⟨hsaid, hgiven, _⟩ := says_of_readArgument hread
    exact ⟨.cons (.alone hsaid) hrest, List.forall_mem_append.2 ⟨hgiven, hknown⟩⟩
  | case3 => cases h
  | case4 arg given o hread v rest hv ih =>
    obtain ⟨⟨more, _⟩, hmore, heq⟩ := Option.map_eq_some_iff.1 h
    cases heq
    obtain ⟨hrest, hknown⟩ := ih hmore
    obtain ⟨hsaid, hgiven, ho⟩ := says_of_readArgument hread
    have hspells := SpellsToEnd.cons (.withNext hsaid hv) hrest
    rw [List.append_assoc] at hspells
    exact ⟨hspells, List.forall_mem_append.2 ⟨hgiven, List.forall_mem_cons.2 ⟨ho o rfl, hknown⟩⟩⟩
  | case5 => cases h
  | case6 => cases h
  | case7 arg rest hread hempty =>
    cases h
    rw [List.isEmpty_iff] at hempty
    rw [hempty, eq_of_readArgument_endOfOptions hread]
    exact ⟨.hyphens, by simp⟩
  | case8 => cases h
  | case9 => cases h

/-- Where help is asked for, the settings before are spelled one after another. -/
theorem exists_help_of_readSettings {args : List String}
    (h : readSettings options args = some (ss, true)) :
    ∃ front arg rest before given, args = front ++ arg :: rest ∧ SpellsAll front before ∧
      AsksForHelp arg ∧ ss = before ++ given := by
  fun_induction readSettings options args generalizing ss with
  | case1 => cases h
  | case2 arg rest given hread ih =>
    obtain ⟨⟨more, _⟩, hmore, heq⟩ := Option.map_eq_some_iff.1 h
    cases heq
    obtain ⟨front, help, rest', before, last, rfl, hfront, hhelp, rfl⟩ := ih hmore
    exact ⟨arg :: front, help, rest', given ++ before, last, rfl,
      .cons (.alone (says_of_readArgument hread).1) hfront, hhelp, by simp⟩
  | case3 => cases h
  | case4 arg given o hread v rest hv ih =>
    obtain ⟨⟨more, _⟩, hmore, heq⟩ := Option.map_eq_some_iff.1 h
    cases heq
    obtain ⟨front, help, rest', before, last, rfl, hfront, hhelp, rfl⟩ := ih hmore
    have hspells := SpellsAll.cons (.withNext (says_of_readArgument hread).1 hv) hfront
    exact ⟨arg :: v :: front, help, rest', _, last, rfl, hspells, hhelp, by simp⟩
  | case5 => cases h
  | case6 arg rest given hread =>
    cases h
    exact ⟨[], arg, rest, [], given, rfl, .nil, asksForHelp_of_readArgument hread, rfl⟩
  | case7 => cases h
  | case8 => cases h
  | case9 => cases h

end Settings

theorem readArgument_word (options : List OptionName) (s : Subcommand) :
    readArgument options s.word = some .plain := by
  cases s <;> rfl

theorem ofWord?_eq_some_iff {w : String} {s : Subcommand} :
    Subcommand.ofWord? w = some s ↔ w = s.word := by
  constructor
  · intro h
    have hword := List.find?_some h
    rw [beq_iff_eq] at hword
    exact hword.symm
  · rintro rfl
    cases s <;> decide

section Front
variable {before : List Setting} {word : String} {rest : List String}

theorem readFront_of_spellsAll {front : List String} (h : SpellsAll front before)
    (hverbose : ∀ x ∈ before, x.name = .verbose)
    (hword : readArgument [.verbose] word = some .plain) :
    readFront (front ++ word :: rest) = some (before, some (word, rest)) := by
  induction h with
  | nil => simp only [List.nil_append, readFront, hword]
  | @cons given more ss more' h _ ih =>
    obtain ⟨hss, hmore⟩ := List.forall_mem_append.1 hverbose
    cases h with
    | alone hsaid =>
      have hread : readArgument [.verbose] _ = _ :=
        readArgument_of_says hsaid ⟨by simpa using hss, by simp⟩
      simp only [List.cons_append, List.nil_append, readFront, hread, ih hmore, Option.map_some]
    | @withNext _ v _ o hsaid _ =>
      have ho : o = .verbose := hss ⟨o, some v⟩ (by simp)
      exact absurd ho hsaid.pending_ne_verbose

/-- What is read at the front is spelled by flags, up to the first word or a request for help. -/
theorem spellsAll_of_readFront {args : List String} {found : Option (String × List String)}
    (h : readFront args = some (before, found)) :
    ∃ front flags arg rest, args = front ++ arg :: rest ∧ SpellsAll front flags ∧
      (∀ x ∈ flags, x.name = .verbose) ∧
      (before = flags ∧ found = some (arg, rest) ∨ AsksForHelp arg ∧ found = none) := by
  fun_induction readFront args generalizing before with
  | case1 => cases h
  | case2 arg args given hread ih =>
    obtain ⟨⟨more, found'⟩, hmore, heq⟩ := Option.map_eq_some_iff.1 h
    cases heq
    obtain ⟨front, flags, word, rest, rfl, hfront, hverbose, hfound⟩ := ih hmore
    obtain ⟨hsaid, hgiven, _⟩ := says_of_readArgument hread
    refine ⟨arg :: front, given ++ flags, word, rest, rfl, .cons (.alone hsaid) hfront, ?_, ?_⟩
    · exact List.forall_mem_append.2 ⟨by simpa using hgiven, hverbose⟩
    · exact hfound.imp_left fun ⟨hmore, hword⟩ => ⟨by rw [hmore], hword⟩
  | case3 arg args given hread =>
    cases h
    exact ⟨[], [], arg, args, rfl, .nil, by simp, .inr ⟨asksForHelp_of_readArgument hread, rfl⟩⟩
  | case4 arg args hread =>
    cases h
    exact ⟨[], [], arg, args, rfl, .nil, by simp, .inl ⟨rfl, rfl⟩⟩
  | case5 => cases h

end Front

/-- Arguments that spell verbose flags, then name a subcommand, then spell settings of it. -/
def SpellsRun (args : List String) (before : List Setting) (s : Subcommand)
    (settings : List Setting) : Prop :=
  ∃ front rest, args = front ++ s.word :: rest ∧
    SpellsAll front before ∧ (∀ x ∈ before, x.name = .verbose) ∧
    SpellsToEnd rest settings ∧ ∀ x ∈ settings, x.name ∈ s.options

theorem SpellsRun.known {args : List String} {before settings : List Setting} {s : Subcommand}
    (h : SpellsRun args before s settings) : ∀ x ∈ settings, x.name ∈ s.options := by
  obtain ⟨_, _, _, _, _, _, hknown⟩ := h
  exact hknown

theorem ofArguments?_eq_some_iff_asked {args : List String} {i : Invocation} :
    Invocation.ofArguments? args = some i ↔ Asked.ofArguments? args = some (.invocation i) := by
  rw [Invocation.ofArguments?]
  cases Asked.ofArguments? args with
  | none => simp
  | some asked => cases asked <;> simp [Asked.invocation?]

theorem asked_of_spells {front rest : List String} {before settings : List Setting} {s : Subcommand}
    (hfront : SpellsAll front before) (hverbose : ∀ x ∈ before, x.name = .verbose)
    (hrest : SpellsToEnd rest settings) (hknown : ∀ x ∈ settings, x.name ∈ s.options) :
    Asked.ofArguments? (front ++ s.word :: rest) =
      if acceptable before && acceptable settings then some (.invocation (.ofSettings s settings))
      else none := by
  have hread : readFront (front ++ s.word :: rest) = some (before, some (s.word, rest)) :=
    readFront_of_spellsAll hfront hverbose (readArgument_word _ s)
  have hword : Subcommand.ofWord? s.word = some s := ofWord?_eq_some_iff.2 rfl
  have hhelp : s.word ≠ helpWord := by
    cases s <;> decide
  simp only [Asked.ofArguments?, Asked.ofSubcommand?, Option.bind_eq_bind, hread, hword,
    if_neg hhelp, readSettings_of_spellsToEnd hrest hknown, Option.bind_some]
  cases acceptable before <;> cases acceptable settings <;> rfl

/-- What a subcommand can be asked for: an invocation with all of its settings, or help behind some
of them. -/
theorem ofSubcommand?_cases {s : Subcommand} {args : List String} {asked : Asked}
    (h : Asked.ofSubcommand? s args = some asked) :
    ∃ settings, acceptable settings = true ∧
      ((SpellsToEnd args settings ∧ (∀ x ∈ settings, x.name ∈ s.options) ∧
          asked = .invocation (.ofSettings s settings)) ∨
        asked = .help (.subcommand s) ∧
          ∃ front arg rest before given, args = front ++ arg :: rest ∧ SpellsAll front before ∧
            AsksForHelp arg ∧ settings = before ++ given) := by
  simp only [Asked.ofSubcommand?, Option.bind_eq_bind] at h
  obtain ⟨⟨settings, help⟩, hread, h⟩ := Option.bind_eq_some_iff.1 h
  split at h
  · next hacc =>
    refine ⟨settings, hacc, ?_⟩
    cases help with
    | false =>
      cases h
      obtain ⟨hspells, hknown⟩ := spellsToEnd_of_readSettings hread
      exact .inl ⟨hspells, hknown, rfl⟩
    | true =>
      cases h
      exact .inr ⟨rfl, exists_help_of_readSettings hread⟩
  · cases h

/-- What can be asked for: help right away, or with the word for it, or what a subcommand is asked
for. -/
theorem ofArguments?_cases {args : List String} {asked : Asked}
    (h : Asked.ofArguments? args = some asked) :
    ∃ front flags word rest, args = front ++ word :: rest ∧ SpellsAll front flags ∧
      (∀ x ∈ flags, x.name = .verbose) ∧
      ((AsksForHelp word ∧ asked = .help .program) ∨
        (word = helpWord ∧ ∃ topic, Topic.ofWords? rest = some topic ∧ asked = .help topic) ∨
        ∃ s, word = s.word ∧ acceptable flags = true ∧
          Asked.ofSubcommand? s rest = some asked) := by
  simp only [Asked.ofArguments?, Option.bind_eq_bind] at h
  obtain ⟨⟨before, found⟩, hread, hrest⟩ := Option.bind_eq_some_iff.1 h
  obtain ⟨front, flags, word, rest, rfl, hfront, hverbose, hfound⟩ := spellsAll_of_readFront hread
  refine ⟨front, flags, word, rest, rfl, hfront, hverbose, ?_⟩
  split at hrest
  · next hacc =>
    obtain ⟨rfl, rfl⟩ | ⟨hhelp, rfl⟩ := hfound
    · simp only at hrest
      split at hrest
      · next hword =>
        obtain ⟨topic, htopic, rfl⟩ := Option.map_eq_some_iff.1 hrest
        exact .inr (.inl ⟨hword, topic, htopic, rfl⟩)
      · obtain ⟨s, hs, hasked⟩ := Option.bind_eq_some_iff.1 hrest
        exact .inr (.inr ⟨s, ofWord?_eq_some_iff.1 hs, hacc, hasked⟩)
    · cases hrest
      exact .inl ⟨hhelp, rfl⟩
  · cases hrest

theorem ofArguments?_eq_some_iff {args : List String} {i : Invocation} :
    Invocation.ofArguments? args = some i ↔
      ∃ before s settings, SpellsRun args before s settings ∧ acceptable before = true ∧
        acceptable settings = true ∧ i = .ofSettings s settings := by
  rw [ofArguments?_eq_some_iff_asked]
  constructor
  · intro h
    obtain ⟨front, before, word, rest, rfl, hfront, hverbose,
      ⟨-, hhelp⟩ | ⟨-, topic, -, hhelp⟩ | ⟨s, rfl, hbefore, h⟩⟩ := ofArguments?_cases h
    · cases hhelp
    · cases hhelp
    · obtain ⟨settings, hacc, ⟨hrest, hknown, heq⟩ | ⟨hhelp, -⟩⟩ := ofSubcommand?_cases h
      · cases heq
        exact ⟨before, s, settings, ⟨front, rest, rfl, hfront, hverbose, hrest, hknown⟩, hbefore,
          hacc, rfl⟩
      · cases hhelp
  · rintro ⟨before, s, settings, ⟨front, rest, rfl, hfront, hverbose, hrest, hknown⟩, hbefore, hacc,
      rfl⟩
    rw [asked_of_spells hfront hverbose hrest hknown, hbefore, hacc]
    rfl

/-- What is asked for where a subcommand and settings of it are spelled. -/
theorem asked_of_spellsToEnd {s : Subcommand} {rest : List String} {settings : List Setting}
    (h : SpellsToEnd rest settings) (hknown : ∀ x ∈ settings, x.name ∈ s.options) :
    Asked.ofArguments? (s.word :: rest) =
      if acceptable settings then some (.invocation (.ofSettings s settings)) else none :=
  asked_of_spells .nil (by simp) h hknown

/-- Where an option's arguments stand at the front, nothing else can be read there. -/
theorem Spells.front_unique {given given' rest rest' : List String} {ss ss' : List Setting}
    (h : Spells given ss) (h' : Spells given' ss') (heq : given ++ rest = given' ++ rest') :
    ss = ss' ∧ rest = rest' := by
  cases h with
  | alone h =>
    cases h' with
    | alone h' =>
      cases heq
      exact ⟨(h.unique h').1, rfl⟩
    | withNext h' _ =>
      cases heq
      cases (h.unique h').2
  | withNext h _ =>
    cases h' with
    | alone h' =>
      cases heq
      cases (h.unique h').2
    | withNext h' _ =>
      cases heq
      obtain ⟨rfl, ho⟩ := h.unique h'
      cases ho
      exact ⟨rfl, rfl⟩

theorem Spells.exists_cons {given : List String} {ss : List Setting} (h : Spells given ss) :
    ∃ arg more, given = arg :: more ∧ mayBeValue arg = false ∧ arg ≠ "--" := by
  cases h with
  | alone h | withNext h => exact ⟨_, _, rfl, h.mayBeValue_eq, h.ne_hyphens⟩

/-- An option's arguments are read as that option wherever they stand. -/
theorem SpellsToEnd.split {a given b : List String} {ss gs : List Setting}
    (h : SpellsToEnd (a ++ (given ++ b)) ss) (hgiven : Spells given gs) :
    ∃ before after, SpellsAll a before ∧ SpellsToEnd b after ∧ ss = before ++ (gs ++ after) := by
  obtain ⟨arg, more, hcons, harg, hne⟩ := hgiven.exists_cons
  generalize hargs : a ++ (given ++ b) = args at h
  induction h generalizing a with
  | nil => simp [hcons] at hargs
  | hyphens =>
    rw [hcons] at hargs
    match a with
    | [] => exact absurd (List.cons.inj hargs).1 hne
    | x :: a => simp at hargs
  | @cons first rest fs ss hfirst hrest ih =>
    match a with
    | [] =>
      obtain ⟨rfl, rfl⟩ := hgiven.front_unique hfirst hargs
      exact ⟨[], ss, .nil, hrest, rfl⟩
    | x :: a =>
      cases hfirst with
      | alone hsaid =>
        obtain ⟨rfl, htail⟩ := List.cons.inj hargs
        obtain ⟨before, after, ha, hb, rfl⟩ := ih htail
        exact ⟨fs ++ before, after, .cons (.alone hsaid) ha, hb, by simp⟩
      | withNext hsaid hv =>
        obtain ⟨rfl, htail⟩ := List.cons.inj hargs
        match a with
        | [] =>
          rw [hcons] at htail
          cases htail
          rw [harg] at hv
          cases hv
        | v :: a =>
          obtain ⟨rfl, htail'⟩ := List.cons.inj htail
          obtain ⟨before, after, ha, hb, rfl⟩ := ih htail'
          exact ⟨_, after, .cons (.withNext hsaid hv) ha, hb, by simp⟩

/-- The arguments before a subcommand are flags, each by itself. -/
theorem SpellsAll.says_of_mem {front : List String} {before : List Setting}
    (h : SpellsAll front before) (hverbose : ∀ x ∈ before, x.name = .verbose) {arg : String}
    (harg : arg ∈ front) : ∃ ss, Says arg ss none ∧ ∀ x ∈ ss, x.name = .verbose := by
  induction h with
  | nil => cases harg
  | @cons given rest ss more h _ ih =>
    obtain ⟨hss, hmore⟩ := List.forall_mem_append.1 hverbose
    cases h with
    | @alone arg' _ hsaid =>
      rcases List.mem_cons.1 harg with rfl | harg
      · exact ⟨ss, hsaid, hss⟩
      · exact ih hmore harg
    | @withNext _ v _ o hsaid _ =>
      have ho : o = .verbose := hss ⟨o, some v⟩ (by simp)
      exact absurd ho hsaid.pending_ne_verbose

/-- Settings that are not just flags for verbose output belong to the subcommand, and other
settings of the subcommand may be put in their place. -/
theorem SpellsRun.split {a given b : List String} {before settings gs : List Setting}
    {s : Subcommand} {x : Setting} (h : SpellsRun (a ++ (given ++ b)) before s settings)
    (hgiven : Spells given gs) (hx : x ∈ gs) (hverbose : x.name ≠ .verbose) :
    ∃ left right, settings = left ++ (gs ++ right) ∧
      ∀ kept ks, SpellsAll kept ks → (∀ k ∈ ks, k.name ∈ s.options) →
        SpellsRun (a ++ (kept ++ b)) before s (left ++ (ks ++ right)) := by
  obtain ⟨front, rest, hargs, hfront, hbefore, hrest, hknown⟩ := h
  obtain ⟨arg, more, hcons, harg, -⟩ := hgiven.exists_cons
  have hnotin : arg ∉ front := by
    intro hmem
    obtain ⟨ss, hsaid, hss⟩ := hfront.says_of_mem hbefore hmem
    cases hgiven with
    | alone h =>
      cases hcons
      rw [(h.unique hsaid).1] at hx
      exact hverbose (hss x hx)
    | withNext h _ =>
      cases hcons
      cases (h.unique hsaid).2
  have hword : arg ≠ s.word := by
    intro hw
    rw [hw] at harg
    cases s <;> exact absurd harg (by decide)
  obtain ⟨a', ha, hsplit⟩ : ∃ a', a = front ++ s.word :: a' ∧ rest = a' ++ (given ++ b) := by
    rw [hcons] at hargs ⊢
    rcases List.append_eq_append_iff.1 hargs with ⟨c, hc, hc'⟩ | ⟨c, hc, hc'⟩
    · match c with
      | [] => exact absurd (List.cons.inj hc').1 hword
      | y :: c =>
        have hy : arg = y := (List.cons.inj hc').1
        exact absurd (by rw [hc, hy]; simp) hnotin
    · match c with
      | [] => exact absurd (List.cons.inj hc').1.symm hword
      | y :: c =>
        obtain ⟨rfl, htail⟩ := List.cons.inj hc'
        exact ⟨c, hc, htail⟩
  rw [hsplit] at hrest
  obtain ⟨left, right, hleft, hright, rfl⟩ := hrest.split hgiven
  refine ⟨left, right, rfl, fun kept ks hkept hks => ?_⟩
  refine ⟨front, a' ++ (kept ++ b), by rw [ha]; simp, hfront, hbefore, ?_, ?_⟩
  · exact hleft.append_toEnd (hkept.append_toEnd hright)
  · obtain ⟨hl, hr⟩ := List.forall_mem_append.1 hknown
    exact List.forall_mem_append.2 ⟨hl, List.forall_mem_append.2 ⟨hks,
      (List.forall_mem_append.1 hr).2⟩⟩

end RowBinding.CommandLine
