import RowBinding.CommandLine.Options

/-!
# How settings are spelled

An option is spelled by its long name or its letter. Its value stands behind an equals sign, right
behind the letter, or in the next argument, and letters of flags may be grouped in front.

`Says` holds between one argument and what it says, which is exactly what is read from it.
`Spells` holds between the one or two arguments that belong together and their settings.
`AsksForHelp` holds of exactly the arguments that are read as a request for help.
-/
namespace RowBinding.CommandLine

namespace OptionName

theorem long_injective {o o' : OptionName} (h : o.long = o'.long) : o = o' := by
  cases o <;> cases o' <;> first | rfl | exact absurd h (by decide)

theorem letter_injective {o o' : OptionName} {c : Char} (h : o.letter? = some c)
    (h' : o'.letter? = some c) : o = o' := by
  rw [← h'] at h
  cases o <;> cases o' <;> first | rfl | exact absurd h (by decide) | cases h'

def all : List OptionName :=
  [verbose, input, output, reader, writer, object, counter, naming, columnNames, separator,
    columnCase]

theorem mem_all (o : OptionName) : o ∈ all := by
  cases o <;> decide

theorem long_ne_nil (o : OptionName) : o.long.toList ≠ [] := by
  cases o <;> decide

theorem equals_not_mem_long (o : OptionName) : '=' ∉ o.long.toList := by
  cases o <;> decide

theorem letter_ne_hyphen {o : OptionName} {c : Char} (h : o.letter? = some c) : c ≠ '-' := by
  intro hc
  rw [hc] at h
  cases o <;> exact absurd h (by decide)

end OptionName

/-- A search that at most `o` can satisfy finds it exactly where it is. -/
theorem find?_eq_some_iff_of_unique {α : Type} {p : α → Bool} {o : α} {options : List α}
    (hunique : ∀ o', p o' → p o → o' = o) :
    options.find? p = some o ↔ o ∈ options ∧ p o := by
  constructor
  · intro h
    exact ⟨List.mem_of_find?_eq_some h, List.find?_some h⟩
  · rintro ⟨hmem, ho⟩
    cases hf : options.find? p with
    | none => exact absurd ho (List.find?_eq_none.1 hf o hmem)
    | some o' => rw [hunique o' (List.find?_some hf) ho]

section Search
variable {options : List OptionName} {o : OptionName}

theorem find?_long {name : List Char} :
    (options.find? fun o => o.long.toList == name) = some o ↔
      o ∈ options ∧ o.long.toList = name := by
  rw [find?_eq_some_iff_of_unique, beq_iff_eq]
  intro o' h' h
  rw [beq_iff_eq] at h' h
  exact OptionName.long_injective (String.toList_injective (h'.trans h.symm))

theorem find?_letter {c : Char} :
    (options.find? fun o => o.letter? == some c) = some o ↔
      o ∈ options ∧ o.letter? = some c := by
  rw [find?_eq_some_iff_of_unique, beq_iff_eq]
  intro o' h' h
  rw [beq_iff_eq] at h' h
  exact OptionName.letter_injective h' h

end Search

/-- What the letters behind a hyphen say: settings, and perhaps an option that awaits its value. -/
inductive Letters : List Char → List Setting → Option OptionName → Prop
  | nil : Letters [] [] none
  | flag {o : OptionName} {c : Char} {cs : List Char} {ss : List Setting}
      {pending : Option OptionName} (hc : o.letter? = some c) (hflag : o.isFlag = true)
      (h : Letters cs ss pending) : Letters (c :: cs) (⟨o, none⟩ :: ss) pending
  | attached {o : OptionName} {c d : Char} (hc : o.letter? = some c) (hflag : o.isFlag = false)
      (hd : d ≠ '=') (v : List Char) :
      Letters (c :: d :: v) [⟨o, some (String.ofList (d :: v))⟩] none
  | equals {o : OptionName} {c : Char} (hc : o.letter? = some c) (hflag : o.isFlag = false)
      (v : List Char) : Letters (c :: '=' :: v) [⟨o, some (String.ofList v)⟩] none
  | last {o : OptionName} {c : Char} (hc : o.letter? = some c) (hflag : o.isFlag = false) :
      Letters [c] [] (some o)

/-- Letters of flags, and the settings that they say. -/
inductive FlagLetters : List Char → List Setting → Prop
  | nil : FlagLetters [] []
  | cons {o : OptionName} {c : Char} {cs : List Char} {ss : List Setting}
      (hc : o.letter? = some c) (hflag : o.isFlag = true) (h : FlagLetters cs ss) :
      FlagLetters (c :: cs) (⟨o, none⟩ :: ss)

/-- What an argument says: settings, and perhaps an option that awaits its value. -/
inductive Says : String → List Setting → Option OptionName → Prop
  | longFlag {o : OptionName} (hflag : o.isFlag = true) : Says ("--" ++ o.long) [⟨o, none⟩] none
  | longValue {o : OptionName} (hflag : o.isFlag = false) (v : String) :
      Says ("--" ++ o.long ++ "=" ++ v) [⟨o, some v⟩] none
  | long {o : OptionName} (hflag : o.isFlag = false) : Says ("--" ++ o.long) [] (some o)
  | letters {cs : List Char} {ss : List Setting} {pending : Option OptionName} (hne : cs ≠ [])
      (h : Letters cs ss pending) : Says (String.ofList ('-' :: cs)) ss pending

/-- An argument that asks for help: by the long name, or by the letter behind letters of flags. -/
inductive AsksForHelp : String → Prop
  | long : AsksForHelp "--help"
  | letter {flags : List Char} {fs : List Setting} (h : FlagLetters flags fs) (more : List Char) :
      AsksForHelp (String.ofList ('-' :: (flags ++ 'h' :: more)))

/-- Arguments that belong together, and the settings that they spell. -/
inductive Spells : List String → List Setting → Prop
  | alone {arg : String} {ss : List Setting} (h : Says arg ss none) : Spells [arg] ss
  | withNext {arg v : String} {ss : List Setting} {o : OptionName} (h : Says arg ss (some o))
      (hv : mayBeValue v = true) : Spells [arg, v] (ss ++ [⟨o, some v⟩])

theorem cutAtEquals_of_not_mem {cs : List Char} (h : '=' ∉ cs) : cutAtEquals cs = (cs, none) := by
  induction cs with
  | nil => rfl
  | cons c cs ih =>
    rw [List.mem_cons, not_or] at h
    rw [cutAtEquals, if_neg (Ne.symm h.1), ih h.2]

theorem cutAtEquals_append {cs : List Char} (h : '=' ∉ cs) (v : List Char) :
    cutAtEquals (cs ++ '=' :: v) = (cs, some v) := by
  induction cs with
  | nil => rfl
  | cons c cs ih =>
    rw [List.mem_cons, not_or] at h
    rw [List.cons_append, cutAtEquals, if_neg (Ne.symm h.1), ih h.2]

theorem eq_of_cutAtEquals {cs name : List Char} {value : Option (List Char)}
    (h : cutAtEquals cs = (name, value)) : cs = name ++ (value.elim [] ('=' :: ·)) := by
  induction cs generalizing name with
  | nil => cases h; rfl
  | cons c cs ih =>
    rw [cutAtEquals] at h
    split at h
    · next hc =>
      cases h
      rw [hc]
      rfl
    · cases h
      rw [List.cons_append, ← ih rfl]

section Flags
variable {flags : List Char} {fs : List Setting}

theorem FlagLetters.isFlag (h : FlagLetters flags fs) : ∀ f ∈ fs, f.name.isFlag = true := by
  induction h with
  | nil => simp
  | cons _ hflag _ ih => exact List.forall_mem_cons.2 ⟨hflag, ih⟩

/-- Letters of flags may be grouped in front of other letters. -/
theorem FlagLetters.append (h : FlagLetters flags fs) {cs : List Char} {ss : List Setting}
    {pending : Option OptionName} (h' : Letters cs ss pending) :
    Letters (flags ++ cs) (fs ++ ss) pending := by
  induction h with
  | nil => exact h'
  | cons hc hflag _ ih => exact .flag hc hflag ih

theorem FlagLetters.letters (h : FlagLetters flags fs) : Letters flags fs none := by
  have hletters := h.append .nil
  rwa [List.append_nil, List.append_nil] at hletters

end Flags

section Argument
variable {options : List OptionName} {ss : List Setting} {pending : Option OptionName}

/-- All the options that are mentioned are among those that are known. -/
def Known (options : List OptionName) (ss : List Setting) (pending : Option OptionName) : Prop :=
  (∀ s ∈ ss, s.name ∈ options) ∧ ∀ o ∈ pending, o ∈ options

theorem readLetters_of_letters {cs : List Char} (h : Letters cs ss pending)
    (hknown : Known options ss pending) :
    readLetters options cs = some (.settings ss pending) := by
  induction h with
  | nil => rfl
  | flag hc hflag _ ih =>
    obtain ⟨ho, hss⟩ := List.forall_mem_cons.1 hknown.1
    simp only [readLetters, find?_letter.2 ⟨ho, hc⟩, hflag, if_true, ih ⟨hss, hknown.2⟩]
  | attached hc hflag hd v =>
    have ho := hknown.1 _ List.mem_cons_self
    simp [readLetters, find?_letter.2 ⟨ho, hc⟩, hflag, attachedValue, hd]
  | equals hc hflag v =>
    have ho := hknown.1 _ List.mem_cons_self
    simp [readLetters, find?_letter.2 ⟨ho, hc⟩, hflag, attachedValue]
  | last hc hflag =>
    have ho := hknown.2 _ rfl
    simp [readLetters, find?_letter.2 ⟨ho, hc⟩, hflag]

theorem letters_of_readLetters {cs : List Char}
    (h : readLetters options cs = some (.settings ss pending)) :
    Letters cs ss pending ∧ Known options ss pending := by
  induction cs generalizing ss with
  | nil =>
    cases h
    exact ⟨.nil, by simp, by simp⟩
  | cons c cs ih =>
    rw [readLetters] at h
    split at h
    · split at h <;> cases h
    · next o hfind =>
      obtain ⟨ho, hc⟩ := find?_letter.1 hfind
      split at h
      · next hflag =>
        split at h
        · next hread =>
          cases h
          obtain ⟨hletters, hknown⟩ := ih hread
          exact ⟨.flag hc hflag hletters, List.forall_mem_cons.2 ⟨ho, hknown.1⟩, hknown.2⟩
        · cases h
        · next hother _ => exact absurd h (hother ss pending)
      · next hflag =>
        rw [Bool.not_eq_true] at hflag
        cases cs with
        | nil =>
          cases h
          exact ⟨.last hc hflag, by simp, by simpa using ho⟩
        | cons d v =>
          cases h
          refine ⟨?_, by simpa using ho, by simp⟩
          by_cases hd : d = '='
          · subst d
            exact .equals hc hflag v
          · rw [attachedValue, if_neg hd]
            exact .attached hc hflag hd v

theorem readArgument_eq_readLong {arg : String} {cs : List Char}
    (harg : arg.toList = '-' :: '-' :: cs) (hne : cs ≠ []) :
    readArgument options arg = readLong options cs := by
  obtain ⟨c, cs', rfl⟩ := List.exists_cons_of_ne_nil hne
  rw [readArgument, harg]
  rfl

theorem readArgument_eq_readLetters {arg : String} {c : Char} {cs : List Char}
    (harg : arg.toList = '-' :: c :: cs) (hc : c ≠ '-') :
    readArgument options arg = readLetters options (c :: cs) := by
  rw [readArgument, harg]
  simp [hc]

theorem Letters.head_ne_hyphen {c : Char} {cs : List Char} (h : Letters (c :: cs) ss pending) :
    c ≠ '-' := by
  cases h with
  | flag hc | attached hc | equals hc | last hc => exact OptionName.letter_ne_hyphen hc

theorem readArgument_of_says {arg : String} (h : Says arg ss pending)
    (hknown : Known options ss pending) :
    readArgument options arg = some (.settings ss pending) := by
  cases h with
  | @longFlag o hflag =>
    have hfind := find?_long.2 ⟨hknown.1 _ List.mem_cons_self, rfl⟩
    have harg : ("--" ++ o.long).toList = '-' :: '-' :: o.long.toList := by simp
    rw [readArgument_eq_readLong harg o.long_ne_nil, readLong,
      cutAtEquals_of_not_mem o.equals_not_mem_long]
    simp only [hfind, hflag, if_true]
  | @longValue o hflag v =>
    have hfind := find?_long.2 ⟨hknown.1 _ List.mem_cons_self, rfl⟩
    have harg : ("--" ++ o.long ++ "=" ++ v).toList =
        '-' :: '-' :: (o.long.toList ++ '=' :: v.toList) := by simp
    rw [readArgument_eq_readLong harg (by simp), readLong, cutAtEquals_append o.equals_not_mem_long]
    simp [hfind, hflag]
  | @long o hflag =>
    have hfind := find?_long.2 ⟨hknown.2 _ rfl, rfl⟩
    have harg : ("--" ++ o.long).toList = '-' :: '-' :: o.long.toList := by simp
    rw [readArgument_eq_readLong harg o.long_ne_nil, readLong,
      cutAtEquals_of_not_mem o.equals_not_mem_long]
    simp [hfind, hflag]
  | @letters cs _ _ hne h =>
    obtain ⟨c, cs', rfl⟩ := List.exists_cons_of_ne_nil hne
    rw [readArgument_eq_readLetters (String.toList_ofList) h.head_ne_hyphen]
    exact readLetters_of_letters h hknown

theorem says_of_readLong {cs : List Char} (h : readLong options cs = some (.settings ss pending)) :
    Says (String.ofList ('-' :: '-' :: cs)) ss pending ∧ Known options ss pending := by
  rw [readLong] at h
  obtain ⟨name, value, hcut⟩ : ∃ name value, cutAtEquals cs = (name, value) := ⟨_, _, rfl⟩
  have hcs := eq_of_cutAtEquals hcut
  simp only [hcut] at h
  split at h
  · split at h <;> cases h
  · next o hfind =>
    obtain ⟨ho, hname⟩ := find?_long.1 hfind
    subst name
    cases value with
    | some v =>
      have harg : String.ofList ('-' :: '-' :: cs) = "--" ++ o.long ++ "=" ++ String.ofList v := by
        rw [hcs]
        apply String.toList_injective
        simp
      simp only at h
      split at h
      · cases h
      · next hflag =>
        cases h
        rw [harg]
        exact ⟨.longValue (by simpa using hflag) _, by simpa using ho, by simp⟩
    | none =>
      have harg : String.ofList ('-' :: '-' :: cs) = "--" ++ o.long := by
        rw [hcs]
        apply String.toList_injective
        simp
      simp only at h
      rw [harg]
      split at h
      · next hflag =>
        cases h
        exact ⟨.longFlag hflag, by simpa using ho, by simp⟩
      · next hflag =>
        cases h
        exact ⟨.long (by simpa using hflag), by simp, by simpa using ho⟩

theorem says_of_readArgument {arg : String}
    (h : readArgument options arg = some (.settings ss pending)) :
    Says arg ss pending ∧ Known options ss pending := by
  rw [readArgument] at h
  split at h
  · cases h
  · next cs _ hcs =>
    have harg := says_of_readLong h
    rwa [← hcs, String.ofList_toList] at harg
  · next c cs _ hcs =>
    obtain ⟨hletters, hknown⟩ := letters_of_readLetters h
    have harg := Says.letters (List.cons_ne_nil _ _) hletters
    rw [← hcs, String.ofList_toList] at harg
    exact ⟨harg, hknown⟩
  · cases h

theorem eq_help_of_readLong {cs : List Char} {given : List Setting}
    (h : readLong options cs = some (.help given)) : cs = "help".toList := by
  rw [readLong] at h
  obtain ⟨name, value, hcut⟩ : ∃ name value, cutAtEquals cs = (name, value) := ⟨_, _, rfl⟩
  simp only [hcut] at h
  split at h
  · split at h
    · next hhelp =>
      rw [eq_of_cutAtEquals hcut, hhelp.1, hhelp.2]
      rfl
    · cases h
  · repeat' split at h
    all_goals cases h

theorem exists_flags_of_readLetters {cs : List Char} {given : List Setting}
    (h : readLetters options cs = some (.help given)) :
    ∃ flags fs more, cs = flags ++ 'h' :: more ∧ FlagLetters flags fs := by
  induction cs generalizing given with
  | nil => cases h
  | cons c cs ih =>
    rw [readLetters] at h
    split at h
    · split at h
      · next hc => exact ⟨[], [], cs, by rw [hc]; rfl, .nil⟩
      · cases h
    · next o hfind =>
      split at h
      · next hflag =>
        split at h
        · cases h
        · next given' hread =>
          obtain ⟨flags, fs, more, rfl, hflags⟩ := ih hread
          exact ⟨c :: flags, ⟨o, none⟩ :: fs, more, rfl,
            .cons (find?_letter.1 hfind).2 hflag hflags⟩
        · next hother => exact absurd h (hother given)
      · split at h <;> cases h

theorem asksForHelp_of_readArgument {arg : String} {given : List Setting}
    (h : readArgument options arg = some (.help given)) : AsksForHelp arg := by
  rw [readArgument] at h
  split at h
  · cases h
  · next cs _ hcs =>
    have harg : arg = "--help" := by
      rw [← String.toList_inj, hcs, eq_help_of_readLong h]
      rfl
    rw [harg]
    exact .long
  · next c cs _ hcs =>
    obtain ⟨flags, fs, more, hletters, hflags⟩ := exists_flags_of_readLetters h
    rw [hletters] at hcs
    rw [← String.ofList_toList (s := arg), hcs]
    exact .letter hflags more
  · cases h

theorem readLetters_of_flags {flags : List Char} {fs : List Setting} (h : FlagLetters flags fs)
    (more : List Char) : readLetters OptionName.all (flags ++ 'h' :: more) = some (.help fs) := by
  induction h with
  | nil => rfl
  | cons hc hflag _ ih =>
    simp only [List.cons_append, readLetters, find?_letter.2 ⟨OptionName.mem_all _, hc⟩, hflag,
      if_true, ih]

/-- Help is what is asked for exactly by the arguments that are read so. -/
theorem asksForHelp_iff {arg : String} :
    AsksForHelp arg ↔ ∃ given, readArgument OptionName.all arg = some (.help given) := by
  constructor
  · intro h
    cases h with
    | long => exact ⟨[], rfl⟩
    | @letter flags fs hflags more =>
      obtain ⟨c, cs, hcs, hc⟩ : ∃ c cs, flags ++ 'h' :: more = c :: cs ∧ c ≠ '-' := by
        cases hflags with
        | nil => exact ⟨_, _, rfl, by decide⟩
        | cons hc => exact ⟨_, _, rfl, OptionName.letter_ne_hyphen hc⟩
      have hread := readLetters_of_flags hflags more
      rw [hcs] at hread ⊢
      exact ⟨fs, by rw [readArgument_eq_readLetters String.toList_ofList hc, hread]⟩
  · rintro ⟨given, h⟩
    exact asksForHelp_of_readArgument h

instance (arg : String) : Decidable (AsksForHelp arg) :=
  decidable_of_iff ((match readArgument OptionName.all arg with
    | some (.help _) => true
    | _ => false) = true) <| by
    rw [asksForHelp_iff]
    split <;> simp_all

theorem readLong_ne_endOfOptions (cs : List Char) :
    readLong options cs ≠ some .endOfOptions := by
  intro h
  simp only [readLong] at h
  repeat' split at h
  all_goals cases h

theorem readLetters_ne_endOfOptions (cs : List Char) :
    readLetters options cs ≠ some .endOfOptions := by
  induction cs with
  | nil => exact nofun
  | cons c cs ih =>
    intro h
    rw [readLetters] at h
    repeat' split at h
    all_goals first | cases h | exact ih h

theorem eq_of_readArgument_endOfOptions {arg : String}
    (h : readArgument options arg = some .endOfOptions) : arg = "--" := by
  rw [readArgument] at h
  split at h
  · next harg => exact String.toList_injective harg
  · exact absurd h (readLong_ne_endOfOptions _)
  · exact absurd h (readLetters_ne_endOfOptions _)
  · cases h

end Argument

section Says
variable {arg : String} {ss ss' : List Setting} {pending pending' : Option OptionName}

theorem Says.readArgument_all (h : Says arg ss pending) :
    readArgument OptionName.all arg = some (.settings ss pending) :=
  readArgument_of_says h ⟨fun s _ => s.name.mem_all, fun o _ => o.mem_all⟩

/-- An argument says one thing only. -/
theorem Says.unique (h : Says arg ss pending) (h' : Says arg ss' pending') :
    ss = ss' ∧ pending = pending' := by
  have hread := h.readArgument_all
  rw [h'.readArgument_all] at hread
  cases hread
  exact ⟨rfl, rfl⟩

/-- An argument that sets options does not ask for help. -/
theorem Says.not_asksForHelp (h : Says arg ss pending) : ¬ AsksForHelp arg := by
  intro hhelp
  obtain ⟨given, hread⟩ := asksForHelp_iff.1 hhelp
  rw [h.readArgument_all] at hread
  cases hread

theorem Says.ne_hyphens (h : Says arg ss pending) : arg ≠ "--" := by
  intro harg
  have hread := h.readArgument_all
  rw [harg] at hread
  cases hread

/-- An argument that says something cannot be a value. -/
theorem Says.mayBeValue_eq (h : Says arg ss pending) : mayBeValue arg = false := by
  cases h with
  | letters hne h =>
    obtain ⟨c, cs', rfl⟩ := List.exists_cons_of_ne_nil hne
    simp [mayBeValue]
  | _ => simp [mayBeValue]

theorem Letters.isFlag_of_pending {cs : List Char} {o : OptionName} (h : Letters cs ss pending)
    (ho : pending = some o) : o.isFlag = false := by
  induction h with
  | nil | attached | equals => cases ho
  | flag _ _ _ ih => exact ih ho
  | last _ hflag =>
    cases ho
    exact hflag

theorem Says.isFlag_of_pending {o : OptionName} (h : Says arg ss (some o)) : o.isFlag = false := by
  cases h with
  | long hflag => exact hflag
  | letters _ h => exact h.isFlag_of_pending rfl

theorem Says.pending_ne_verbose {o : OptionName} (h : Says arg ss (some o)) : o ≠ .verbose := by
  intro ho
  have hflag := h.isFlag_of_pending
  rw [ho] at hflag
  cases hflag

end Says

end RowBinding.CommandLine
