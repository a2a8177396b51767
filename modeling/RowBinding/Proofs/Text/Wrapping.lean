/-!
# Texts around a text

A wrapping is a fixed text with one or more holes. Filling puts the same text into each hole, so a
filled wrapping holds that text and nothing else that the wrapping does not fix.
-/
namespace RowBinding.Text

/-- A hole between two texts, and further texts with a hole before each. -/
structure Wrapping where
  before : String
  after : String
  again : List String
deriving DecidableEq, Repr

namespace Wrapping

def fill (w : Wrapping) (s : String) : String :=
  w.again.foldl (fun filled piece => filled ++ s ++ piece) (w.before ++ s ++ w.after)

/-- The fixed texts of a wrapping, in order. -/
def pieces (w : Wrapping) : List String := w.before :: w.after :: w.again

/-- Nothing around the hole. -/
def bare : Wrapping := ⟨"", "", []⟩

theorem mem_foldl_append {s : String} {c : Char} {ps : List String} {start : String}
    (h : c ∈ (ps.foldl (fun filled piece => filled ++ s ++ piece) start).toList) :
    c ∈ start.toList ∨ c ∈ s.toList ∨ ∃ p ∈ ps, c ∈ p.toList := by
  induction ps generalizing start with
  | nil => exact .inl h
  | cons p ps ih =>
    rcases ih h with h | h | ⟨q, hq, h⟩
    · simp only [String.toList_append, List.mem_append] at h
      rcases h with (h | h) | h
      · exact .inl h
      · exact .inr (.inl h)
      · exact .inr (.inr ⟨p, by simp, h⟩)
    · exact .inr (.inl h)
    · exact .inr (.inr ⟨q, List.mem_cons_of_mem p hq, h⟩)

/-- The characters of a filled wrapping are those of the text and of the pieces. -/
theorem mem_fill {w : Wrapping} {s : String} {c : Char} (h : c ∈ (w.fill s).toList) :
    c ∈ s.toList ∨ ∃ p ∈ w.pieces, c ∈ p.toList := by
  rcases mem_foldl_append h with h | h | ⟨p, hp, h⟩
  · simp only [String.toList_append, List.mem_append] at h
    rcases h with (h | h) | h
    · exact .inr ⟨w.before, by simp [pieces], h⟩
    · exact .inl h
    · exact .inr ⟨w.after, by simp [pieces], h⟩
  · exact .inl h
  · exact .inr ⟨p, by simp [pieces, hp], h⟩

end Wrapping

end RowBinding.Text
