import RowBinding.Column.Naming
import RowBinding.Proofs.Column.Words
import RowBinding.Proofs.Letter.Ascii
import RowBinding.Proofs.Letter.Case

/-!
# Characters of column literals

The words of an identifier are made of its characters, so a column literal holds quotation marks,
characters of the identifier and of the separator, and what the case mapping puts in their place,
which is at or above the letter A. In an ASCII text a change of case puts one ASCII character in the
place of each, and the underscore in the place of no other.
-/
namespace RowBinding.Column
open Letter

theorem mem_of_mem_words {cs w : List Char} (h : w ∈ words cs) : ∀ c ∈ w, c ∈ cs := by
  intro c hc
  have hflatten : c ∈ (words cs).flatten := List.mem_flatten.2 ⟨w, h, hc⟩
  rw [flatten_words] at hflatten
  exact (List.mem_filter.1 hflatten).1

theorem mem_intercalate {s : List Char} {ws : List (List Char)} {c : Char}
    (h : c ∈ s.intercalate ws) : c ∈ s ∨ ∃ w ∈ ws, c ∈ w := by
  induction ws with
  | nil => simp at h
  | cons w ws ih =>
    cases ws with
    | nil => exact .inr ⟨w, by simp, by simpa using h⟩
    | cons v vs =>
      rw [List.intercalate_cons_cons, List.mem_append, List.mem_append] at h
      rcases h with (h | h) | h
      · exact .inr ⟨w, by simp, h⟩
      · exact .inl h
      · rcases ih h with h | ⟨u, hu, h⟩
        · exact .inl h
        · exact .inr ⟨u, List.mem_cons_of_mem w hu, h⟩

/-- What a change of case does to an ASCII character. -/
def ColumnCase.onAscii : ColumnCase → Char → Char
  | .upper => Char.toUpper
  | .lower => Char.toLower
  | .unchanged => id

namespace ColumnCase
variable (choice : ColumnCase) {c : Char}

theorem apply_of_ascii {cs : List Char} (h : ∀ c ∈ cs, c.toNat < 128) :
    choice.apply cs = cs.map choice.onAscii := by
  cases choice with
  | upper => exact upperText_of_ascii h
  | lower => exact lowerText_of_ascii h
  | unchanged => exact (List.map_id cs).symm

theorem onAscii_onAscii (hc : c.toNat < 128) :
    choice.onAscii (choice.onAscii c) = choice.onAscii c := by
  refine of_ascii (P := fun c => choice.onAscii (choice.onAscii c) = choice.onAscii c) ?_ hc
  cases choice <;> decide +kernel

/-- What holds of the first 128 characters in every case holds of every ASCII character. -/
theorem of_onAscii {P : Char → Char → Prop}
    (h : ∀ choice ∈ [upper, lower, unchanged], ∀ n < 128,
      P (Char.ofNat n) (choice.onAscii (Char.ofNat n)))
    (hc : c.toNat < 128) : P c (choice.onAscii c) := by
  refine of_ascii (P := fun c => P c (choice.onAscii c)) (h choice ?_) hc
  cases choice <;> simp

theorem onAscii_lt (hc : c.toNat < 128) : (choice.onAscii c).toNat < 128 :=
  choice.of_onAscii (P := fun _ d => d.toNat < 128) (by decide +kernel) hc

theorem onAscii_eq_underscore_iff (hc : c.toNat < 128) : choice.onAscii c = '_' ↔ c = '_' :=
  choice.of_onAscii (P := fun c d => d = '_' ↔ c = '_') (by decide +kernel) hc

end ColumnCase

variable {p : NamingPolicy} {c : Char}

theorem mem_baseName {identifier : List Char} (h : c ∈ p.baseName identifier) :
    c ∈ identifier ∨ c ∈ p.separator.toList := by
  unfold NamingPolicy.baseName at h
  split at h
  · rcases mem_intercalate h with h | ⟨w, hw, h⟩
    · exact .inr h
    · exact .inl (mem_of_mem_words hw c h)
  · exact .inl h

theorem mem_apply {choice : ColumnCase} {cs : List Char} (h : c ∈ choice.apply cs) :
    c ∈ cs ∨ 65 ≤ c.toNat := by
  cases choice with
  | upper => exact mem_upperText h
  | lower => exact mem_lowerText h
  | unchanged => exact .inl h

theorem mem_columnLiteral {identifier : String} (h : c ∈ (p.columnLiteral identifier).toList) :
    c = '"' ∨ c ∈ identifier.toList ∨ c ∈ p.separator.toList ∨ 65 ≤ c.toNat := by
  unfold NamingPolicy.columnLiteral at h
  split at h
  · rw [String.toList_ofList] at h
    rcases mem_apply h with h | h
    · simp only [List.mem_cons, List.mem_append, List.not_mem_nil, or_false] at h
      rcases h with rfl | h | rfl
      · exact .inl rfl
      · rcases mem_baseName h with h | h
        · exact .inr (.inl h)
        · exact .inr (.inr (.inl h))
      · exact .inl rfl
    · exact .inr (.inr (.inr h))
  · exact .inl (by simpa using h)

end RowBinding.Column
