import RowBinding.Proofs.Letter.Case
import RowBinding.Proofs.Text.Wrapping
import RowBinding.Proofs.Text.Runs

/-!
# Lines

A text of one line holds no line break. Joined lines are split at line breaks into these lines
again, if each is of one line and there is at least one. If none of them is empty, the joined text
has no line but these and does not end with a line break.
-/
namespace RowBinding.Text
open Letter

def OneLine (s : String) : Prop := '\n' ∉ s.toList

instance : DecidablePred OneLine := fun _ => inferInstanceAs (Decidable (¬ _))

@[simp] theorem oneLine_append (a b : String) : OneLine (a ++ b) ↔ OneLine a ∧ OneLine b := by
  simp only [OneLine, String.toList_append, List.mem_append, not_or]

theorem OneLine.capitalize {s : String} (h : OneLine s) : OneLine (Letter.capitalize s) := by
  intro hc
  rcases mem_capitalize hc with hc | hc
  · exact h hc
  · exact absurd hc (by decide)

theorem OneLine.fill {w : Wrapping} (hw : ∀ p ∈ w.pieces, OneLine p) {s : String}
    (hs : OneLine s) : OneLine (w.fill s) := by
  intro hc
  rcases Wrapping.mem_fill hc with hc | ⟨p, hp, hc⟩
  · exact hs hc
  · exact hw p hp hc

theorem toList_joinLines (ls : List String) :
    (joinLines ls).toList = ['\n'].intercalate (ls.map String.toList) := by
  induction ls with
  | nil => rfl
  | cons l ls ih =>
    cases ls with
    | nil => simp [joinLines]
    | cons m ls =>
      rw [joinLines, String.toList_append, ih]
      simp [List.intercalate_cons_cons]

/-- Splitting at line breaks undoes joining. -/
theorem splitOn_joinLines {ls : List String} (hne : ls ≠ []) (h : ∀ l ∈ ls, OneLine l) :
    (joinLines ls).toList.splitOn '\n' = ls.map String.toList := by
  rw [toList_joinLines]
  refine List.splitOn_intercalate '\n' ?_ (by simpa using hne)
  intro cs hcs
  obtain ⟨l, hl, rfl⟩ := List.mem_map.1 hcs
  exact h l hl

/-- A text that is these lines: it is empty if there are none, and else splits into them. No line is
empty, and the last one has no line break after it. -/
structure HasLines (text : String) (ls : List String) : Prop where
  empty : ls = [] → text = ""
  split : ls ≠ [] → text.toList.splitOn '\n' = ls.map String.toList
  nonempty : ∀ l ∈ ls, l ≠ ""
  noTrailing : text.toList.getLast? ≠ some '\n'

theorem hasLines_joinLines {ls : List String} (h : ∀ l ∈ ls, OneLine l ∧ l ≠ "") :
    HasLines (joinLines ls) ls := by
  have hsplit : ls ≠ [] → (joinLines ls).toList.splitOn '\n' = ls.map String.toList :=
    fun hne => splitOn_joinLines hne fun l hl => (h l hl).1
  refine ⟨?_, hsplit, fun l hl => (h l hl).2, ?_⟩
  · intro he
    rw [he]
    rfl
  · intro hlast
    obtain ⟨cs, hcs⟩ := List.getLast?_eq_some_iff.1 hlast
    have hne : ls ≠ [] := by
      rintro rfl
      simp [joinLines] at hcs
    have hmem : [] ∈ ls.map String.toList := by
      rw [← hsplit hne, hcs, List.splitOn_eq_splitOnP, ← pieces_eq_splitOnP,
        pieces_append_cons (by decide)]
      simp [pieces]
    obtain ⟨l, hl, he⟩ := List.mem_map.1 hmem
    exact (h l hl).2 (String.toList_eq_nil_iff.1 he)

end RowBinding.Text
