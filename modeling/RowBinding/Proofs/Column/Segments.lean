import Mathlib.Data.List.Basic
import RowBinding.Letter.Uppercase

/-!
# Where words end

`endsBetween` says where a word ends from the characters on both sides and the one after them, and
`segments` cuts a text there and at its underscores. This looks ahead, so it is not how an
identifier is read, but it can be cut in two: where a word ends, the segments of the parts are the
segments of the whole. A text that may be a word is its own only segment.
-/
namespace RowBinding.Column
open Letter

/-- Whether a word ends between `a` and `b`, when `next` follows `b`. -/
def endsBetween (a b : Char) (next : Option Char) : Bool :=
  b == '_' || (isUppercase b && (!isUppercase a || next.any fun c => c != '_' && !isUppercase c))

/-- The words of a text. -/
def segments : List Char → List (List Char)
  | [] => []
  | [a] => if a = '_' then [] else [[a]]
  | a :: b :: cs =>
    if a = '_' then segments (b :: cs)
    else if endsBetween a b cs.head? then [a] :: segments (b :: cs)
    else (segments (b :: cs)).modifyHead (a :: ·)

theorem ne_underscore_of_goesOn {a b : Char} {next : Option Char}
    (h : endsBetween a b next = false) : b ≠ '_' := by
  rintro rfl
  simp [endsBetween] at h

/-- Where a word ends behind `b`, what follows `b` does not matter to whether one ends before it. -/
theorem endsBetween_of_ends {a b c : Char} {next : Option Char}
    (h : b = '_' ∨ endsBetween b c next = true) :
    endsBetween a b (some c) = endsBetween a b none := by
  rcases h with rfl | h
  · rfl
  · have hc : (c != '_' && !isUppercase c) = false := by
      simp only [endsBetween, Bool.or_eq_true, beq_iff_eq, Bool.and_eq_true] at h
      rcases h with rfl | ⟨hc, -⟩
      · rfl
      · simp [hc]
    simp [endsBetween, hc]

@[simp] theorem segments_underscore (cs : List Char) : segments ('_' :: cs) = segments cs := by
  cases cs <;> simp [segments]

theorem segments_cons {a : Char} (ha : a ≠ '_') (b : Char) (cs : List Char) :
    segments (a :: b :: cs) =
      if endsBetween a b cs.head? then [a] :: segments (b :: cs)
      else (segments (b :: cs)).modifyHead (a :: ·) := by
  rw [segments, if_neg ha]

theorem exists_segments_cons {a : Char} (ha : a ≠ '_') (cs : List Char) :
    ∃ w ws, segments (a :: cs) = (a :: w) :: ws := by
  induction cs generalizing a with
  | nil => exact ⟨[], [], by simp [segments, ha]⟩
  | cons b cs ih =>
    rw [segments_cons ha]
    cases h : endsBetween a b cs.head? with
    | true => exact ⟨[], segments (b :: cs), rfl⟩
    | false =>
      obtain ⟨w, ws, hw⟩ := ih (ne_underscore_of_goesOn h)
      exact ⟨b :: w, ws, by rw [hw]; rfl⟩

/-- Cutting a text into segments loses its underscores and nothing else. -/
theorem flatten_segments (cs : List Char) : (segments cs).flatten = cs.filter (· ≠ '_') := by
  fun_induction segments cs with
  | case1 => rfl
  | case2 => simp
  | case3 a ha => simp [ha]
  | case4 b cs ih => simpa using ih
  | case5 a b cs ha _ ih => simp [ha, ih]
  | case6 a b cs ha h ih =>
    rw [Bool.not_eq_true] at h
    obtain ⟨w, ws, hw⟩ := exists_segments_cons (ne_underscore_of_goesOn h) cs
    have hkeep : (a :: b :: cs).filter (· ≠ '_') = a :: (b :: cs).filter (· ≠ '_') :=
      List.filter_cons_of_pos (by simpa using ha)
    rw [hkeep, ← ih, hw]
    rfl

theorem ne_nil_of_mem_segments {cs w : List Char} (h : w ∈ segments cs) : w ≠ [] := by
  fun_induction segments cs generalizing w with
  | case1 | case2 => simp at h
  | case3 a ha => simp_all
  | case4 b cs ih => exact ih h
  | case5 a b cs ha _ ih =>
    rcases List.mem_cons.1 h with rfl | h
    · simp
    · exact ih h
  | case6 a b cs ha hends ih =>
    rw [Bool.not_eq_true] at hends
    obtain ⟨v, ws, hv⟩ := exists_segments_cons (ne_underscore_of_goesOn hends) cs
    rw [hv] at h ih
    rcases List.mem_cons.1 h with rfl | h
    · simp
    · exact ih (List.mem_cons_of_mem _ h)

/-- Where a word ends, the text may be cut in two. -/
theorem segments_append {l r : List Char}
    (h : ∀ a ∈ l.getLast?, ∀ b ∈ r.head?, a = '_' ∨ endsBetween a b r.tail.head? = true) :
    segments (l ++ r) = segments l ++ segments r := by
  induction l with
  | nil => rfl
  | cons a l ih =>
    have htail := ih fun c hc => h c (by rw [List.getLast?_cons, Option.mem_def.1 hc]; rfl)
    by_cases ha : a = '_'
    · subst ha
      rw [List.cons_append, segments_underscore, segments_underscore, htail]
    cases l with
    | nil =>
      have hone : segments [a] = [[a]] := by simp [segments, ha]
      cases r with
      | nil => rw [List.append_nil, segments, List.append_nil]
      | cons b r =>
        have hends : endsBetween a b r.head? = true := (h a rfl b rfl).resolve_left ha
        rw [hone, List.singleton_append, segments_cons ha, if_pos hends]
        rfl
    | cons b l =>
      have hnext : endsBetween a b (l ++ r).head? = endsBetween a b l.head? := by
        cases l with
        | cons c l => rfl
        | nil =>
          cases r with
          | nil => rfl
          | cons c r => exact endsBetween_of_ends (h b rfl c rfl)
      rw [List.cons_append] at htail
      rw [List.cons_append, List.cons_append, segments_cons ha, segments_cons ha, hnext, htail]
      cases hends : endsBetween a b l.head? with
      | true => rfl
      | false =>
        obtain ⟨w, ws, hw⟩ := exists_segments_cons (ne_underscore_of_goesOn hends) l
        rw [hw]
        rfl

theorem segments_append_underscore (l r : List Char) :
    segments (l ++ '_' :: r) = segments l ++ segments r := by
  rw [segments_append, segments_underscore]
  intro a _ b hb
  cases hb
  exact .inr rfl

/-- Where no word ends, the characters on both sides are in one word. -/
theorem exists_segments_of_goesOn {a b : Char} {r : List Char} (ha : a ≠ '_')
    (h : endsBetween a b r.head? = false) (l : List Char) :
    ∃ us u v vs, segments (l ++ a :: b :: r) = us ++ (u ++ v) :: vs ∧ u ≠ [] ∧ v ≠ [] ∧
      us.flatten ++ u = (l ++ [a]).filter (· ≠ '_') := by
  induction l with
  | nil =>
    obtain ⟨w, ws, hw⟩ := exists_segments_cons (ne_underscore_of_goesOn h) r
    refine ⟨[], [a], b :: w, ws, ?_, by simp, by simp, by simp [ha]⟩
    simp [segments_cons ha, h, hw]
  | cons c l ih =>
    obtain ⟨us, u, v, vs, hseg, hu, hv, hflat⟩ := ih
    by_cases hc : c = '_'
    · subst hc
      exact ⟨us, u, v, vs, by rw [List.cons_append, segments_underscore, hseg], hu, hv, by
        simpa using hflat⟩
    obtain ⟨d, t, ht⟩ : ∃ d t, l ++ a :: b :: r = d :: t := by
      cases l <;> simp
    have hkeep : (c :: l ++ [a]).filter (· ≠ '_') = c :: (l ++ [a]).filter (· ≠ '_') :=
      List.filter_cons_of_pos (by simpa using hc)
    rw [List.cons_append, ht, segments_cons hc, ← ht, hseg, hkeep, ← hflat]
    cases endsBetween c d t.head? with
    | true => exact ⟨[c] :: us, u, v, vs, rfl, hu, hv, rfl⟩
    | false =>
      cases us with
      | nil => exact ⟨[], c :: u, v, vs, rfl, by simp, hv, rfl⟩
      | cons w us => exact ⟨(c :: w) :: us, u, v, vs, rfl, hu, hv, rfl⟩

/-- The texts that are one word, with whether the last character is a capital: a run of capitals,
and a run of other characters, which a capital may begin. -/
inductive IsWord : Bool → List Char → Prop
  | capitals {w : List Char} : w ≠ [] → (∀ c ∈ w, isUppercase c = true) → IsWord true w
  | small {c : Char} {w : List Char} : '_' ∉ c :: w → (∀ d ∈ w, isUppercase d = false) →
      (isUppercase c = true → w ≠ []) → IsWord false (c :: w)

theorem IsWord.ne_nil {capital : Bool} {w : List Char} (h : IsWord capital w) : w ≠ [] := by
  cases h with
  | capitals hne _ => exact hne
  | small => exact List.cons_ne_nil _ _

theorem IsWord.getLast {capital : Bool} {w : List Char} {a : Char} (h : IsWord capital w)
    (ha : a ∈ w.getLast?) : isUppercase a = capital := by
  cases h with
  | capitals _ hw => exact hw a (List.mem_of_getLast? ha)
  | @small c w _ hw hc =>
    cases w with
    | nil =>
      cases ha
      simpa using hc
    | cons d w =>
      rw [List.getLast?_cons_cons] at ha
      exact hw a (List.mem_of_getLast? ha)

theorem ne_underscore_of_isUppercase {c : Char} (h : isUppercase c = true) : c ≠ '_' := by
  rintro rfl
  revert h
  decide

theorem isWord_singleton {c : Char} (hc : c ≠ '_') : IsWord (isUppercase c) [c] := by
  cases h : isUppercase c with
  | true => exact .capitals (by simp) (by simpa using h)
  | false => exact .small (by simpa using hc.symm) (by simp) (by simp [h])

theorem IsWord.snoc_capital {w : List Char} {c : Char} (h : IsWord true w)
    (hc : isUppercase c = true) : IsWord true (w ++ [c]) := by
  cases h with
  | capitals _ hw =>
    exact .capitals (by simp) (List.forall_mem_append.2 ⟨hw, List.forall_mem_singleton.2 hc⟩)

theorem IsWord.snoc_small {w : List Char} {c : Char} (h : IsWord false w) (hc : c ≠ '_')
    (hsmall : isUppercase c = false) : IsWord false (w ++ [c]) := by
  cases h with
  | @small a w hunderscore hw ha =>
    have hnot : '_' ∉ a :: (w ++ [c]) := by simpa [hc.symm] using hunderscore
    exact .small hnot (List.forall_mem_append.2 ⟨hw, List.forall_mem_singleton.2 hsmall⟩) (by simp)

theorem isWord_capital_small {a c : Char} (ha : isUppercase a = true) (hc : c ≠ '_')
    (hsmall : isUppercase c = false) : IsWord false [a, c] :=
  .small (by simp [(ne_underscore_of_isUppercase ha).symm, hc.symm]) (by simpa using hsmall)
    (by simp)

theorem segments_capitals {a : Char} {w : List Char} (h : ∀ c ∈ a :: w, isUppercase c = true) :
    segments (a :: w) = [a :: w] := by
  induction w generalizing a with
  | nil => simp [segments, ne_underscore_of_isUppercase (h a (by simp))]
  | cons b w ih =>
    have hb := h b (by simp)
    have hgoes : endsBetween a b w.head? = false := by
      cases w with
      | nil => simp [endsBetween, ne_underscore_of_isUppercase hb, h a (by simp)]
      | cons c w =>
        simp [endsBetween, ne_underscore_of_isUppercase hb, h a (by simp), h c (by simp)]
    rw [segments_cons (ne_underscore_of_isUppercase (h a (by simp))), hgoes,
      ih fun c hc => h c (List.mem_cons_of_mem a hc)]
    rfl

theorem segments_small {a : Char} {w : List Char} (hw : '_' ∉ a :: w)
    (h : ∀ d ∈ w, isUppercase d = false) : segments (a :: w) = [a :: w] := by
  induction w generalizing a with
  | nil => simp [segments, Ne.symm (List.ne_of_not_mem_cons hw)]
  | cons b w ih =>
    have htail := List.not_mem_of_not_mem_cons hw
    have hgoes : endsBetween a b w.head? = false := by
      simp [endsBetween, Ne.symm (List.ne_of_not_mem_cons htail), h b (by simp)]
    rw [segments_cons (Ne.symm (List.ne_of_not_mem_cons hw)), hgoes,
      ih htail fun d hd => h d (List.mem_cons_of_mem b hd)]
    rfl

theorem IsWord.segments_eq {capital : Bool} {w : List Char} (h : IsWord capital w) :
    segments w = [w] := by
  cases h with
  | capitals hne hw =>
    obtain ⟨a, w, rfl⟩ := List.exists_cons_of_ne_nil hne
    exact segments_capitals hw
  | small hunderscore hw _ => exact segments_small hunderscore hw

theorem IsWord.segments_append_capital {w : List Char} {c : Char} (h : IsWord false w)
    (hc : isUppercase c = true) (rest : List Char) :
    segments (w ++ c :: rest) = segments w ++ segments (c :: rest) := by
  apply segments_append
  intro a ha b hb
  obtain rfl : c = b := Option.some.inj hb
  exact .inr (by simp [endsBetween, hc, h.getLast ha])

theorem segments_append_last_capital {u c : Char} (hu : isUppercase u = true) (hc : c ≠ '_')
    (hsmall : isUppercase c = false) (w rest : List Char) :
    segments (w ++ u :: c :: rest) = segments w ++ segments (u :: c :: rest) := by
  apply segments_append
  intro a _ b hb
  obtain rfl : u = b := Option.some.inj hb
  exact .inr (by simp [endsBetween, hu, hc, hsmall])

end RowBinding.Column
