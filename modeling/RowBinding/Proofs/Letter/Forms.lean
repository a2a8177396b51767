import RowBinding.Letter.Case

/-!
# Forms of characters in their places

A text in upper or lower case is made of one form for each of its characters, and no form is empty.
Only the lower-case form of a capital sigma depends on its place: it is final where a word ends.

A barrier is a character that ends every look at the text around a sigma, as the end of the text
does. The texts on both sides of it are mapped as if each stood alone. The quotation mark is one,
and the underscore another.
-/
namespace RowBinding.Letter

theorem upperSequences_ne_nil : ∀ e ∈ upperSequences, e.2 ≠ [] := by
  decide +kernel

theorem toUpper_ne_nil (c : Char) : toUpper c ≠ [] := by
  unfold toUpper
  split
  · next codes hfind =>
    exact mt List.map_eq_nil_iff.1 (upperSequences_ne_nil _ (List.mem_of_find?_eq_some hfind))
  · split
    · exact List.cons_ne_nil _ _
    · exact List.cons_ne_nil _ _

theorem toLower_ne_nil (c : Char) : toLower c ≠ [] := by
  unfold toLower
  split
  · exact List.cons_ne_nil _ _
  · split
    · exact List.cons_ne_nil _ _
    · exact List.cons_ne_nil _ _

theorem lowerAt_ne_nil (before : List Char) (c : Char) (after : List Char) :
    lowerAt before c after ≠ [] := by
  unfold lowerAt
  split
  · exact List.cons_ne_nil _ _
  · exact toLower_ne_nil c

theorem upperText_eq_nil_iff {cs : List Char} : upperText cs = [] ↔ cs = [] := by
  cases cs with
  | nil => exact iff_of_true rfl rfl
  | cons c cs => simp [upperText, toUpper_ne_nil]

theorem lowerText_eq_nil_iff {cs : List Char} : lowerText cs = [] ↔ cs = [] := by
  cases cs with
  | nil => exact iff_of_true rfl rfl
  | cons c cs => simp [lowerText, lowerFrom, lowerAt_ne_nil]

theorem casedAhead_cons (c : Char) (cs : List Char) :
    casedAhead (c :: cs) = if isCaseIgnorable c then casedAhead cs else isCased c := by
  cases h : isCaseIgnorable c <;> simp [casedAhead, h]

/-- The first character that is not case-ignorable is there, and cased. -/
def MeetsCased (cs : List Char) : Prop :=
  ∃ skipped c rest, cs = skipped ++ c :: rest ∧ (∀ d ∈ skipped, isCaseIgnorable d = true) ∧
    isCaseIgnorable c = false ∧ isCased c = true

theorem casedAhead_eq_true_iff {cs : List Char} : casedAhead cs = true ↔ MeetsCased cs := by
  constructor
  · intro h
    induction cs with
    | nil => exact absurd h Bool.false_ne_true
    | cons c cs ih =>
      rw [casedAhead_cons] at h
      split at h
      case isTrue hc =>
        obtain ⟨skipped, d, rest, rfl, hskipped, hd⟩ := ih h
        exact ⟨c :: skipped, d, rest, rfl, List.forall_mem_cons.2 ⟨hc, hskipped⟩, hd⟩
      case isFalse hc => exact ⟨[], c, cs, rfl, by simp, Bool.eq_false_iff.2 hc, h⟩
  · rintro ⟨skipped, c, rest, rfl, hskipped, hc, hcased⟩
    induction skipped with
    | nil => rwa [List.nil_append, casedAhead_cons, if_neg (Bool.eq_false_iff.1 hc)]
    | cons d skipped ih =>
      rw [List.cons_append, casedAhead_cons, if_pos (hskipped d (by simp))]
      exact ih fun e he => hskipped e (List.mem_cons_of_mem d he)

/-- Between the two texts a word ends: skipping case-ignorable characters, a cased one stands
before and none stands after. -/
def WordEnds (before after : List Char) : Prop :=
  MeetsCased before.reverse ∧ ¬MeetsCased after

/-- The lower-case form of a character between two texts. -/
inductive LowerForm (before after : List Char) : Char → List Char → Prop
  | final (h : WordEnds before after) : LowerForm before after capitalSigma [finalSigma]
  | plain {c : Char} (h : c = capitalSigma → ¬WordEnds before after) :
      LowerForm before after c (toLower c)

theorem wordEnds_iff {before after : List Char} :
    WordEnds before after ↔ casedAhead before.reverse = true ∧ casedAhead after = false := by
  rw [WordEnds, ← casedAhead_eq_true_iff, ← casedAhead_eq_true_iff, Bool.not_eq_true]

theorem lowerForm_lowerAt (before : List Char) (c : Char) (after : List Char) :
    LowerForm before after c (lowerAt before.reverse c after) := by
  unfold lowerAt
  split
  case isTrue h =>
    simp only [Bool.and_eq_true, decide_eq_true_eq, Bool.not_eq_true'] at h
    obtain ⟨⟨rfl, hbefore⟩, hafter⟩ := h
    exact .final (wordEnds_iff.2 ⟨hbefore, hafter⟩)
  case isFalse h =>
    refine .plain fun hc hends => h ?_
    obtain ⟨hbefore, hafter⟩ := wordEnds_iff.1 hends
    simp [hc, hbefore, hafter]

/-- A text in lower case is the forms of its characters, each for the place of the character. What
has been read is kept in reverse while the text is mapped. -/
theorem exists_lowerForms (before cs : List Char) :
    ∃ forms : List (List Char), lowerFrom before.reverse cs = forms.flatten ∧
      forms.length = cs.length ∧ ∀ l c r, cs = l ++ c :: r →
        ∃ form ∈ forms[l.length]?, LowerForm (before ++ l) r c form := by
  induction cs generalizing before with
  | nil => exact ⟨[], rfl, rfl, by simp⟩
  | cons d cs ih =>
    obtain ⟨forms, hflatten, hlength, hforms⟩ := ih (before ++ [d])
    refine ⟨lowerAt before.reverse d cs :: forms, ?_, by simp [hlength], ?_⟩
    · rw [lowerFrom, List.flatten_cons, ← hflatten, List.reverse_append]
      rfl
    · intro l c r h
      cases l with
      | nil =>
        obtain ⟨rfl, rfl⟩ := List.cons.inj h
        refine ⟨_, rfl, ?_⟩
        rw [List.append_nil]
        exact lowerForm_lowerAt before d cs
      | cons e l =>
        obtain ⟨rfl, hcs⟩ := List.cons.inj h
        simpa using hforms l c r hcs

/-- No look at the text around a sigma gets past the character, and it is its own small form. -/
structure IsBarrier (q : Char) : Prop where
  not_caseIgnorable : isCaseIgnorable q = false
  not_cased : isCased q = false
  toLower_eq : toLower q = [q]

theorem isBarrier_quotationMark : IsBarrier '"' :=
  ⟨by decide +kernel, by decide +kernel, by decide +kernel⟩

theorem isBarrier_underscore : IsBarrier '_' :=
  ⟨by decide +kernel, by decide +kernel, by decide +kernel⟩

section Barrier
variable {q : Char}

theorem IsBarrier.casedAhead_append (hq : IsBarrier q) (l r : List Char) :
    casedAhead (l ++ q :: r) = casedAhead l := by
  induction l with
  | nil =>
    rw [List.nil_append, casedAhead_cons, hq.not_caseIgnorable, hq.not_cased]
    rfl
  | cons c l ih => rw [List.cons_append, casedAhead_cons, casedAhead_cons, ih]

theorem IsBarrier.lowerAt_eq (hq : IsBarrier q) (before after : List Char) :
    lowerAt before q after = [q] := by
  have hsigma : q ≠ capitalSigma := by
    rintro rfl
    exact absurd hq.not_cased (by decide)
  rw [lowerAt, if_neg (by simp [hsigma]), hq.toLower_eq]

/-- What stands before a barrier does not matter behind it. -/
theorem IsBarrier.lowerFrom_passed (hq : IsBarrier q) (before passed cs : List Char) :
    lowerFrom (before ++ q :: passed) cs = lowerFrom before cs := by
  induction cs generalizing before with
  | nil => rfl
  | cons c cs ih =>
    have hrest := ih (c :: before)
    rw [List.cons_append] at hrest
    rw [lowerFrom, lowerFrom, hrest, lowerAt, lowerAt, hq.casedAhead_append]

theorem IsBarrier.lowerFrom_append (hq : IsBarrier q) (before l r : List Char) :
    lowerFrom before (l ++ q :: r) = lowerFrom before l ++ q :: lowerText r := by
  induction l generalizing before with
  | nil =>
    calc lowerFrom before (q :: r)
        = lowerAt before q r ++ lowerFrom ([] ++ q :: before) r := rfl
      _ = [q] ++ lowerFrom [] r := by rw [hq.lowerAt_eq, hq.lowerFrom_passed]
  | cons c l ih =>
    rw [List.cons_append, lowerFrom, ih, lowerFrom, List.append_assoc, lowerAt, lowerAt,
      hq.casedAhead_append]

/-- The parts of a text on both sides of a barrier are mapped as if each stood alone. -/
theorem IsBarrier.lowerText_append (hq : IsBarrier q) (l r : List Char) :
    lowerText (l ++ q :: r) = lowerText l ++ q :: lowerText r :=
  hq.lowerFrom_append [] l r

end Barrier

end RowBinding.Letter
