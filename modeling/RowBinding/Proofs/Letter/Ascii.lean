import RowBinding.Letter.Case

/-!
# Case of ASCII texts

The tables of case mappings start with the ASCII letters, and everything else in them lies beyond
ASCII. So an ASCII text is mapped character by character, each to one ASCII character. The capital
sigma is beyond ASCII too, so no character looks at the text around it.
-/
namespace RowBinding.Letter

theorem upperSequences_beyond_ascii : ∀ e ∈ upperSequences, 128 ≤ e.1 := by
  decide +kernel

theorem upperShifts_beyond_ascii : ∀ e ∈ upperShifts.tail, 128 ≤ e.1 := by
  decide +kernel

theorem lowerShifts_beyond_ascii : ∀ e ∈ lowerShifts.tail, 128 ≤ e.1 := by
  decide +kernel

/-- Below all runs but the first of a table, only the first run moves a code point. -/
theorem shifted?_cons_of_lt {first last n : Nat} {shift : Int}
    {table : List (Nat × Nat × Nat × Int)} (h : ∀ e ∈ table, n < e.1) :
    shifted? ((first, last, 1, shift) :: table) n =
      if first ≤ n ∧ n ≤ last then some (n + shift).toNat else none := by
  have hrest : shifted? table n = none := by
    refine Option.map_eq_none_iff.2 (List.find?_eq_none.2 fun e he hin => ?_)
    have hlt := h e he
    simp only [Bool.and_eq_true, decide_eq_true_eq] at hin
    omega
  by_cases hin : first ≤ n ∧ n ≤ last
  · simp [shifted?, hin, Nat.mod_one]
  · have hskip : shifted? ((first, last, 1, shift) :: table) n = shifted? table n := by
      simp only [shifted?, List.find?_cons, Nat.mod_one, beq_self_eq_true, Bool.and_true,
        ← Bool.decide_and, hin, decide_false]
    rw [hskip, hrest, if_neg hin]

section Character
variable {c : Char}

/-- What holds of the first 128 characters holds of every ASCII character. -/
theorem of_ascii {P : Char → Prop} (h : ∀ n < 128, P (Char.ofNat n)) (hc : c.toNat < 128) :
    P c := by
  have hcode := h c.toNat hc
  rwa [Char.ofNat_toNat] at hcode

theorem toUpper_eq_ite (h : c.toNat < 128) :
    c.toUpper = if 97 ≤ c.toNat ∧ c.toNat ≤ 122 then Char.ofNat (c.toNat - 32) else c := by
  refine of_ascii (P := fun c => c.toUpper =
    if 97 ≤ c.toNat ∧ c.toNat ≤ 122 then Char.ofNat (c.toNat - 32) else c) ?_ h
  decide +kernel

theorem toLower_eq_ite (h : c.toNat < 128) :
    c.toLower = if 65 ≤ c.toNat ∧ c.toNat ≤ 90 then Char.ofNat (c.toNat + 32) else c := by
  refine of_ascii (P := fun c => c.toLower =
    if 65 ≤ c.toNat ∧ c.toNat ≤ 90 then Char.ofNat (c.toNat + 32) else c) ?_ h
  decide +kernel

theorem toUpper_of_ascii (h : c.toNat < 128) : toUpper c = [c.toUpper] := by
  have hsequence : upperSequences.find? (·.1 == c.toNat) = none := by
    refine List.find?_eq_none.2 fun e he hc => ?_
    have hle := upperSequences_beyond_ascii e he
    rw [beq_iff_eq] at hc
    omega
  have hshift : shifted? upperShifts c.toNat =
      if 97 ≤ c.toNat ∧ c.toNat ≤ 122 then some (c.toNat + (-32 : Int)).toNat else none :=
    shifted?_cons_of_lt fun e he => Nat.lt_of_lt_of_le h (upperShifts_beyond_ascii e he)
  rw [toUpper, hsequence, hshift, toUpper_eq_ite h]
  by_cases hlower : 97 ≤ c.toNat ∧ c.toNat ≤ 122
  · have hcode : (c.toNat + (-32 : Int)).toNat = c.toNat - 32 := by omega
    rw [if_pos hlower, if_pos hlower, hcode]
  · rw [if_neg hlower, if_neg hlower]

theorem toLower_of_ascii (h : c.toNat < 128) : toLower c = [c.toLower] := by
  have hdotted : c.toNat ≠ 0x130 := by omega
  have hshift : shifted? lowerShifts c.toNat =
      if 65 ≤ c.toNat ∧ c.toNat ≤ 90 then some (c.toNat + (32 : Int)).toNat else none :=
    shifted?_cons_of_lt fun e he => Nat.lt_of_lt_of_le h (lowerShifts_beyond_ascii e he)
  rw [toLower, if_neg hdotted, hshift, toLower_eq_ite h]
  by_cases hupper : 65 ≤ c.toNat ∧ c.toNat ≤ 90
  · have hcode : (c.toNat + (32 : Int)).toNat = c.toNat + 32 := by omega
    rw [if_pos hupper, if_pos hupper, hcode]
  · rw [if_neg hupper, if_neg hupper]

end Character

section Text
variable {cs : List Char}

theorem upperText_of_ascii (h : ∀ c ∈ cs, c.toNat < 128) : upperText cs = cs.map Char.toUpper := by
  induction cs with
  | nil => rfl
  | cons c cs ih =>
    have hc := toUpper_of_ascii (h c List.mem_cons_self)
    have hcs := ih fun d hd => h d (List.mem_cons_of_mem c hd)
    rw [upperText] at hcs ⊢
    rw [List.flatMap_cons, hc, hcs, List.singleton_append, List.map_cons]

theorem lowerFrom_of_ascii (h : ∀ c ∈ cs, c.toNat < 128) (before : List Char) :
    lowerFrom before cs = cs.map Char.toLower := by
  induction cs generalizing before with
  | nil => rfl
  | cons c cs ih =>
    have hc : c.toNat < 128 := h c List.mem_cons_self
    have hsigma : c ≠ capitalSigma := by
      rintro rfl
      exact absurd hc (by decide)
    have hplace : lowerAt before c cs = [c.toLower] := by
      rw [lowerAt, if_neg (by simp [hsigma]), toLower_of_ascii hc]
    have hcs := ih (fun d hd => h d (List.mem_cons_of_mem c hd)) (c :: before)
    rw [lowerFrom, hplace, hcs, List.singleton_append, List.map_cons]

theorem lowerText_of_ascii (h : ∀ c ∈ cs, c.toNat < 128) : lowerText cs = cs.map Char.toLower :=
  lowerFrom_of_ascii h []

end Text

end RowBinding.Letter
