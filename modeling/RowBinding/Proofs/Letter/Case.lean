import RowBinding.Letter.Case

/-!
# Characters of mapped texts

A case mapping changes letters to letters. What stands in a mapped text and not in the text itself
is at or above the letter A, so no mapping brings in a line break, a quotation mark or any other
character below it.
-/
namespace RowBinding.Letter

/-- All code points of a run are shifted to characters at or above the letter A. -/
def ShiftsToLetters (e : Nat × Nat × Nat × Int) : Prop :=
  65 ≤ e.1 + e.2.2.2 ∧
    (e.2.1 + e.2.2.2 < 0xD800 ∨ 0xDFFF < e.1 + e.2.2.2 ∧ e.2.1 + e.2.2.2 < 0x110000)

instance : DecidablePred ShiftsToLetters := fun _ => inferInstanceAs (Decidable (_ ∧ _))

theorem upperShifts_to_letters : ∀ e ∈ upperShifts, ShiftsToLetters e := by
  decide +kernel

theorem lowerShifts_to_letters : ∀ e ∈ lowerShifts, ShiftsToLetters e := by
  decide +kernel

theorem upperSequences_letters :
    ∀ e ∈ upperSequences, ∀ n ∈ e.2, 65 ≤ (Char.ofNat n).toNat := by
  decide +kernel

theorem le_toNat_of_shifted? {table : List (Nat × Nat × Nat × Int)} {n m : Nat}
    (ht : ∀ e ∈ table, ShiftsToLetters e) (h : shifted? table n = some m) :
    65 ≤ (Char.ofNat m).toNat := by
  obtain ⟨⟨first, last, step, shift⟩, hfind, hm⟩ := Option.map_eq_some_iff.1 h
  have hm : (n + shift).toNat = m := hm
  have hrun := List.find?_some hfind
  obtain ⟨hlow, hvalid⟩ := ht _ (List.mem_of_find?_eq_some hfind)
  simp only [Bool.and_eq_true, decide_eq_true_eq] at hrun hlow hvalid
  have hchar : m.isValidChar := by
    simp only [Nat.isValidChar]
    omega
  rw [Char.ofNat, dif_pos hchar]
  change 65 ≤ m
  omega

theorem mem_toUpper {c d : Char} (h : d ∈ toUpper c) : d = c ∨ 65 ≤ d.toNat := by
  unfold toUpper at h
  split at h
  · next e codes hfind =>
    obtain ⟨n, hn, rfl⟩ := List.mem_map.1 h
    exact .inr (upperSequences_letters _ (List.mem_of_find?_eq_some hfind) n hn)
  · split at h
    · next m hm =>
      rw [List.mem_singleton] at h
      subst h
      exact .inr (le_toNat_of_shifted? upperShifts_to_letters hm)
    · exact .inl (List.mem_singleton.1 h)

theorem mem_toLower {c d : Char} (h : d ∈ toLower c) : d = c ∨ 65 ≤ d.toNat := by
  unfold toLower at h
  split at h
  · simp only [List.mem_cons, List.not_mem_nil, or_false] at h
    right
    rcases h with rfl | rfl
    · decide
    · decide
  · split at h
    · next m hm =>
      rw [List.mem_singleton] at h
      subst h
      exact .inr (le_toNat_of_shifted? lowerShifts_to_letters hm)
    · exact .inl (List.mem_singleton.1 h)

theorem mem_upperText {cs : List Char} {d : Char} (h : d ∈ upperText cs) :
    d ∈ cs ∨ 65 ≤ d.toNat := by
  obtain ⟨c, hc, hd⟩ := List.mem_flatMap.1 h
  rcases mem_toUpper hd with rfl | hd
  · exact .inl hc
  · exact .inr hd

theorem mem_lowerAt {before after : List Char} {c d : Char} (h : d ∈ lowerAt before c after) :
    d = c ∨ 65 ≤ d.toNat := by
  unfold lowerAt at h
  split at h
  · rw [List.mem_singleton] at h
    subst h
    exact .inr (by decide)
  · exact mem_toLower h

theorem mem_lowerFrom {before cs : List Char} {d : Char} (h : d ∈ lowerFrom before cs) :
    d ∈ cs ∨ 65 ≤ d.toNat := by
  induction cs generalizing before with
  | nil => simp [lowerFrom] at h
  | cons c cs ih =>
    rw [lowerFrom, List.mem_append] at h
    rcases h with h | h
    · rcases mem_lowerAt h with rfl | h
      · exact .inl (by simp)
      · exact .inr h
    · rcases ih h with h | h
      · exact .inl (List.mem_cons_of_mem c h)
      · exact .inr h

theorem mem_lowerText {cs : List Char} {d : Char} (h : d ∈ lowerText cs) :
    d ∈ cs ∨ 65 ≤ d.toNat := mem_lowerFrom h

theorem mem_capitalize {s : String} {d : Char} (h : d ∈ (capitalize s).toList) :
    d ∈ s.toList ∨ 65 ≤ d.toNat := by
  rw [capitalize, String.toList_ofList] at h
  cases hs : s.toList with
  | nil => simp [hs, capitalizeChars] at h
  | cons c cs =>
    rw [hs, capitalizeChars, List.mem_append] at h
    rcases h with h | h
    · rcases mem_toUpper h with rfl | h
      · exact .inl (by simp)
      · exact .inr h
    · exact .inl (List.mem_cons_of_mem c h)

end RowBinding.Letter
