import Mathlib.Data.List.Nodup
import RowBinding.Proofs.CommandLine.Arguments

/-!
# The options that arguments mention

The names that arguments mention are the names of the settings that are read from them. These are
distinct, so no option with a value is mentioned twice by arguments that are accepted. Where help is
asked for, this holds of the arguments before.
-/
namespace RowBinding.CommandLine

/-- The options that an argument mentions: those that it sets and the one that awaits its value. -/
def mentioned (arg : String) : List OptionName :=
  match readArgument OptionName.all arg with
  | some (.settings given pending) => given.map Setting.name ++ pending.toList
  | _ => []

section Mentioned
variable {arg : String} {ss : List Setting} {pending : Option OptionName}

theorem Says.mentioned_eq (h : Says arg ss pending) :
    mentioned arg = ss.map Setting.name ++ pending.toList := by
  rw [mentioned, h.readArgument_all]

/-- A value mentions nothing. -/
theorem mentioned_of_mayBeValue (h : mayBeValue arg = true) : mentioned arg = [] := by
  have hread : readArgument OptionName.all arg = some .plain := by
    rw [mayBeValue] at h
    rw [readArgument]
    split at h
    · cases h
    · next hnot =>
      split
      · next heq => exact (hnot _ _ heq).elim
      · next heq => exact (hnot _ _ heq).elim
      · next heq => exact (hnot _ _ heq).elim
      · rfl
  rw [mentioned, hread]

theorem Spells.mentioned_eq {given : List String} (h : Spells given ss) :
    given.flatMap mentioned = ss.map Setting.name := by
  cases h with
  | alone hsaid => simp [hsaid.mentioned_eq]
  | withNext hsaid hv => simp [hsaid.mentioned_eq, mentioned_of_mayBeValue hv]

theorem SpellsAll.mentioned_eq {args : List String} (h : SpellsAll args ss) :
    args.flatMap mentioned = ss.map Setting.name := by
  induction h with
  | nil => rfl
  | cons h _ ih => rw [List.flatMap_append, List.map_append, Spells.mentioned_eq h, ih]

theorem SpellsToEnd.mentioned_eq {args : List String} (h : SpellsToEnd args ss) :
    args.flatMap mentioned = ss.map Setting.name := by
  induction h with
  | nil => rfl
  | hyphens => rfl
  | cons h _ ih => rw [List.flatMap_append, List.map_append, Spells.mentioned_eq h, ih]

theorem mentioned_word (s : Subcommand) : mentioned s.word = [] := by
  rw [mentioned, readArgument_word]

theorem SpellsRun.mentioned_eq {args : List String} {before : List Setting} {s : Subcommand}
    (h : SpellsRun args before s ss) :
    args.flatMap mentioned = before.map Setting.name ++ ss.map Setting.name := by
  obtain ⟨front, rest, rfl, hfront, -, hrest, -⟩ := h
  rw [List.flatMap_append, List.flatMap_cons, mentioned_word, List.nil_append,
    hfront.mentioned_eq, hrest.mentioned_eq]

end Mentioned

section Count
variable {args : List String} {ss : List Setting} {o : OptionName}

theorem not_mem_names_of_verbose (hverbose : ∀ x ∈ ss, x.name = .verbose) (ho : o.isFlag = false) :
    o ∉ ss.map Setting.name := by
  intro hmem
  obtain ⟨x, hx, rfl⟩ := List.mem_map.1 hmem
  rw [hverbose x hx] at ho
  cases ho

theorem count_names_le_one (hacc : acceptable ss = true) (o : OptionName) :
    (ss.map Setting.name).count o ≤ 1 := by
  rw [acceptable, Bool.and_eq_true, decide_eq_true_eq] at hacc
  exact List.nodup_iff_count_le_one.1 hacc.1 o

/-- No arguments that are accepted mention an option with a value twice. -/
theorem count_mentioned_le_one {i : Invocation} (ho : o.isFlag = false)
    (h : Invocation.ofArguments? args = some i) : (args.flatMap mentioned).count o ≤ 1 := by
  obtain ⟨before, s, settings, hrun, -, hacc, -⟩ := ofArguments?_eq_some_iff.1 h
  have hbefore : o ∉ before.map Setting.name := by
    obtain ⟨_, _, _, _, hverbose, _⟩ := hrun
    exact not_mem_names_of_verbose hverbose ho
  rw [hrun.mentioned_eq, List.count_append, List.count_eq_zero.2 hbefore, Nat.zero_add]
  exact count_names_le_one hacc o

end Count

/-- A value is awaited behind an argument. -/
def Awaits (arg : String) : Prop := ∃ ss o, Says arg ss (some o)

/-- No value is awaited behind the last argument. -/
def Settled (args : List String) : Prop := ∀ arg ∈ args.getLast?, ¬ Awaits arg

section Settled
variable {args more : List String} {ss : List Setting}

theorem not_awaits_of_mayBeValue {arg : String} (h : mayBeValue arg = true) : ¬ Awaits arg := by
  rintro ⟨ss, o, hsaid⟩
  rw [hsaid.mayBeValue_eq] at h
  cases h

theorem Settled.append (h : Settled args) (hmore : Settled more) : Settled (args ++ more) := by
  intro arg harg
  rw [List.getLast?_append, Option.mem_def, Option.or_eq_some_iff] at harg
  rcases harg with hlast | ⟨-, hlast⟩
  · exact hmore arg hlast
  · exact h arg hlast

theorem Spells.settled (h : Spells args ss) : Settled args := by
  intro arg harg
  cases h with
  | alone hsaid =>
    cases harg
    rintro ⟨ss', o, hawaits⟩
    cases (hsaid.unique hawaits).2
  | withNext _ hv =>
    cases harg
    exact not_awaits_of_mayBeValue hv

theorem SpellsAll.settled (h : SpellsAll args ss) : Settled args := by
  induction h with
  | nil => exact nofun
  | cons h _ ih => exact h.settled.append ih

theorem settled_word (s : Subcommand) : Settled [s.word] := by
  intro arg harg
  cases harg
  exact not_awaits_of_mayBeValue (by cases s <;> rfl)

/-- Where help is asked for, no option with a value is mentioned at all, or reading stops behind
arguments that await nothing and mention none twice. -/
theorem stopped_of_help {topic : Topic} (h : Asked.ofArguments? args = some (.help topic)) :
    (∀ o : OptionName, o.isFlag = false → o ∉ args.flatMap mentioned) ∨
      ∃ p arg rest, args = p ++ arg :: rest ∧ AsksForHelp arg ∧ Settled p ∧
        ∀ o : OptionName, o.isFlag = false → (p.flatMap mentioned).count o ≤ 1 := by
  obtain ⟨front, flags, word, rest, rfl, hfront, hverbose, hcases⟩ := ofArguments?_cases h
  have hnone (o : OptionName) (ho : o.isFlag = false) : o ∉ front.flatMap mentioned := by
    rw [hfront.mentioned_eq]
    exact not_mem_names_of_verbose hverbose ho
  obtain ⟨hasks, -⟩ | ⟨rfl, topic', hwords, -⟩ | ⟨s, rfl, -, hasked⟩ := hcases
  · refine .inr ⟨front, word, rest, rfl, hasks, hfront.settled, fun o ho => ?_⟩
    rw [List.count_eq_zero.2 (hnone o ho)]
    exact Nat.zero_le 1
  · have hrest : rest.flatMap mentioned = [] := by
      match rest with
      | [] => rfl
      | [w] =>
        rw [Topic.ofWords?] at hwords
        split at hwords
        · next hw =>
          rw [hw]
          rfl
        · obtain ⟨s, hs, -⟩ := Option.map_eq_some_iff.1 hwords
          rw [ofWord?_eq_some_iff.1 hs]
          exact (List.flatMap_singleton _ _).trans (mentioned_word s)
    have hword : mentioned helpWord = [] := rfl
    refine .inl fun o ho => ?_
    rw [List.flatMap_append, List.flatMap_cons, hword, hrest, List.append_nil, List.append_nil]
    exact hnone o ho
  · obtain ⟨settings, hacc, ⟨-, -, hnot⟩ | ⟨-, p, arg, r, before, given, rfl, hp, hasks, rfl⟩⟩ :=
      ofSubcommand?_cases hasked
    · cases hnot
    · have hsettled := hfront.settled.append ((settled_word s).append hp.settled)
      refine .inr ⟨front ++ ([s.word] ++ p), arg, r, by simp, hasks, hsettled, fun o ho => ?_⟩
      have hone := count_names_le_one hacc o
      rw [List.map_append, List.count_append] at hone
      rw [List.flatMap_append, List.flatMap_append, List.flatMap_singleton, mentioned_word,
        hp.mentioned_eq, List.count_append, List.count_eq_zero.2 (hnone o ho)]
      simp only [List.nil_append, Nat.zero_add]
      omega

end Settled

end RowBinding.CommandLine
