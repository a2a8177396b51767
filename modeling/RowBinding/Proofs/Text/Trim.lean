import Mathlib.Data.List.DropRight
import RowBinding.Text.Blank

/-!
# Trimmed texts

`Trimmed cs s` says that `s` is what remains of `cs` when the blanks at its ends are taken away:
`s` lies in `cs` between two texts of blanks and neither starts nor ends in a blank. There is
exactly one such `s`, so blanks put around a text do not show in its trimmed form.
-/
namespace RowBinding.Text

def IsTight (s : List Char) : Prop :=
  (∀ c ∈ s.head?, isBlank c = false) ∧ ∀ c ∈ s.getLast?, isBlank c = false

/-- `s` is `cs` without the blanks at its ends. -/
def Trimmed (cs s : List Char) : Prop :=
  IsTight s ∧ ∃ l r, cs = l ++ s ++ r ∧ (∀ c ∈ l, isBlank c) ∧ ∀ c ∈ r, isBlank c

theorem IsTight.reverse {s : List Char} (h : IsTight s) : IsTight s.reverse := by
  refine ⟨?_, ?_⟩
  · rw [List.head?_reverse]
    exact h.2
  · rw [List.getLast?_reverse]
    exact h.1

theorem isTight_of_forall {s : List Char} (h : ∀ c ∈ s, isBlank c = false) : IsTight s :=
  ⟨fun c hc => h c (List.mem_of_mem_head? hc), fun c hc => h c (List.mem_of_mem_getLast? hc)⟩

/-- Only the ends of a text count. -/
theorem IsTight.join {a b : List Char} (ha : IsTight a) (hb : IsTight b) (hane : a ≠ [])
    (hbne : b ≠ []) (m : List Char) : IsTight (a ++ m ++ b) := by
  obtain ⟨c, a, rfl⟩ := List.exists_cons_of_ne_nil hane
  refine ⟨ha.1, fun d hd => hb.2 d ?_⟩
  rwa [List.getLast?_append_of_ne_nil _ hbne] at hd

theorem IsTight.dropWhile_append {s : List Char} (h : IsTight s) (hne : s ≠ []) (r : List Char) :
    (s ++ r).dropWhile isBlank = s ++ r := by
  obtain ⟨c, cs, rfl⟩ := List.exists_cons_of_ne_nil hne
  have hc : isBlank c = false := h.1 c rfl
  rw [List.cons_append, List.dropWhile_cons_of_neg (by simp [hc])]

theorem trimBlank_of_blank {cs : List Char} (h : ∀ c ∈ cs, isBlank c) : trimBlank cs = [] := by
  rw [trimBlank, List.dropWhile_eq_nil_iff.2 h]
  rfl

theorem Trimmed.eq {cs s : List Char} (h : Trimmed cs s) : trimBlank cs = s := by
  obtain ⟨ht, l, r, rfl, hl, hr⟩ := h
  by_cases hs : s = []
  · subst s
    apply trimBlank_of_blank
    intro c hc
    rcases List.mem_append.1 hc with hc | hc
    · exact hl c (by simpa using hc)
    · exact hr c hc
  · have hrev : ∀ c ∈ r.reverse, isBlank c := fun c hc => hr c (List.mem_reverse.1 hc)
    rw [trimBlank, List.append_assoc, List.dropWhile_append_of_pos hl, ht.dropWhile_append hs,
      List.reverse_append, List.dropWhile_append_of_pos hrev]
    have hback := ht.reverse.dropWhile_append (by simpa using hs) []
    rw [List.append_nil] at hback
    rw [hback, List.reverse_reverse]

theorem isTight_trimBlank (cs : List Char) : IsTight (trimBlank cs) := by
  have hlast : ∀ c ∈ (trimBlank cs).getLast?, isBlank c = false := by
    intro c hc
    rw [trimBlank, List.getLast?_reverse] at hc
    have h := List.head?_dropWhile_not isBlank (cs.dropWhile isBlank).reverse
    rw [Option.mem_def.1 hc] at h
    exact h
  refine ⟨?_, hlast⟩
  intro c hc
  have hpre : trimBlank cs <+: cs.dropWhile isBlank := List.rdropWhile_prefix isBlank _
  have hhead : c ∈ (cs.dropWhile isBlank).head? := by
    obtain ⟨t, ht⟩ := hpre
    rw [← ht, List.head?_append, Option.mem_def.1 hc]
    rfl
  have h := List.head?_dropWhile_not isBlank cs
  rw [Option.mem_def.1 hhead] at h
  exact h

theorem trimmed_trimBlank (cs : List Char) : Trimmed cs (trimBlank cs) := by
  refine ⟨isTight_trimBlank cs, cs.takeWhile isBlank, (cs.dropWhile isBlank).rtakeWhile isBlank,
    ?_, fun c hc => List.mem_takeWhile_imp hc, fun c hc => List.mem_rtakeWhile_imp hc⟩
  have hend : trimBlank cs ++ (cs.dropWhile isBlank).rtakeWhile isBlank = cs.dropWhile isBlank :=
    List.rdropWhile_append_rtakeWhile
  rw [List.append_assoc, hend, List.takeWhile_append_dropWhile]

/-- `trimBlank` takes away the blanks at the ends, and nothing else does. -/
theorem trimmed_iff {cs s : List Char} : Trimmed cs s ↔ trimBlank cs = s := by
  refine ⟨Trimmed.eq, fun h => ?_⟩
  subst s
  exact trimmed_trimBlank cs

theorem trimBlank_pad {l r : List Char} (hl : ∀ c ∈ l, isBlank c) (hr : ∀ c ∈ r, isBlank c)
    (cs : List Char) : trimBlank (l ++ cs ++ r) = trimBlank cs := by
  obtain ⟨ht, l', r', h, hl', hr'⟩ := trimmed_trimBlank cs
  refine Trimmed.eq ⟨ht, l ++ l', r' ++ r, ?_, ?_, ?_⟩
  · conv_lhs => rw [h]
    simp only [List.append_assoc]
  · intro c hc
    rcases List.mem_append.1 hc with hc | hc
    · exact hl c hc
    · exact hl' c hc
  · intro c hc
    rcases List.mem_append.1 hc with hc | hc
    · exact hr' c hc
    · exact hr c hc

theorem trimBlank_eq_nil_iff {cs : List Char} : trimBlank cs = [] ↔ ∀ c ∈ cs, isBlank c := by
  refine ⟨fun h => ?_, trimBlank_of_blank⟩
  obtain ⟨-, l, r, rfl, hl, hr⟩ := trimmed_iff.2 h
  intro c hc
  rcases List.mem_append.1 hc with hc | hc
  · exact hl c (by simpa using hc)
  · exact hr c hc

end RowBinding.Text
