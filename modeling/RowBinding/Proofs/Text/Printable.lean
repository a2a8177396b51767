import RowBinding.Text.Quoted

/-!
# Texts without control characters

A quoted text holds no control character below U+0020, whatever the text itself holds: such a
character is always written by an escape, and escapes are spelled with printable characters. So a
text made of plain words and quoted snippets stays on one line.
-/
namespace RowBinding.Text

/-- No character of the text is a control character below U+0020. -/
def IsPrintable (s : String) : Prop := ∀ c ∈ s.toList, 32 ≤ c.toNat

@[simp]
theorem isPrintable_append {s t : String} :
    IsPrintable (s ++ t) ↔ IsPrintable s ∧ IsPrintable t := by
  simp only [IsPrintable, String.toList_append, List.forall_mem_append]

theorem le_toNat_hexDigit : ∀ d < 16, 32 ≤ (hexDigit d).toNat := by decide

theorem le_toNat_of_mem_hexDigits {k n : Nat} {d : Char} (hd : d ∈ hexDigits k n) :
    32 ≤ d.toNat := by
  induction k generalizing n with
  | zero => cases hd
  | succ k ih =>
    rw [hexDigits, List.mem_append, List.mem_singleton] at hd
    obtain hd | rfl := hd
    · exact ih hd
    · exact le_toNat_hexDigit _ (Nat.mod_lt _ (by omega))

/-- Escapes are printable, and no character below U+0020 stands for itself. -/
theorem le_toNat_of_mem_quoteChar {c d : Char} (hd : d ∈ quoteChar c) : 32 ≤ d.toNat := by
  have hshort {e : Char} (he : 32 ≤ e.toNat) (hd : d ∈ ['\\', e]) : 32 ≤ d.toNat := by
    obtain rfl | rfl : d = '\\' ∨ d = e := by simpa using hd
    · decide
    · exact he
  unfold quoteChar at hd
  iterate 7 (split at hd; exact hshort (by decide) hd)
  split at hd
  · obtain rfl | rfl | hd : d = '\\' ∨ d = 'u' ∨ d ∈ hexDigits 4 c.toNat := by simpa using hd
    · decide
    · decide
    · exact le_toNat_of_mem_hexDigits hd
  · next hc =>
    rw [List.mem_singleton.1 hd]
    omega

@[simp]
theorem isPrintable_quote (s : String) : IsPrintable (quote s) := by
  intro d hd
  obtain rfl | ⟨c, -, hd⟩ : d = '"' ∨ ∃ c ∈ s.toList, d ∈ quoteChar c := by
    simpa [quote, quoteChars, or_comm] using hd
  · decide
  · exact le_toNat_of_mem_quoteChar hd

end RowBinding.Text
