import RowBinding.Proofs.Column.Literals

/-!
# Column names as identifiers

A column name whose words are joined with underscores may be an identifier itself. Its words are
then the words it was made of, each in the case of the policy, exactly if all of these are well
shaped; and only then is it its own column name.

In lower case every word of an identifier is well shaped. In upper case a word is if it has no
digits, or nothing but digits behind its first character, since digits are no capitals: the name AB1
has the words A and B1.
-/
namespace RowBinding.Column
open Declaration Letter

/-- A text in a case. -/
def ColumnCase.applyText (choice : ColumnCase) (text : String) : String :=
  String.ofList (choice.apply text.toList)

/-- The column name for an identifier. -/
def NamingPolicy.columnName (p : NamingPolicy) (identifier : String) : String :=
  p.columnCase.applyText (p.baseText identifier)

theorem ColumnCase.apply_join (choice : ColumnCase) (ws : List (List Char)) :
    choice.apply (['_'].intercalate ws) = ['_'].intercalate (ws.map choice.apply) := by
  induction ws with
  | nil => simp
  | cons w ws ih =>
    cases ws with
    | nil => simp
    | cons v vs =>
      rw [List.map_cons, List.map_cons, List.intercalate_cons_cons, List.intercalate_cons_cons,
        List.append_assoc, List.append_assoc, List.singleton_append, List.singleton_append,
        choice.apply_append_barrier isBarrier_underscore (by decide), ih, List.map_cons]

/-- What the words of an identifier of a field are made of. -/
structure IsAsciiWord (w : List Char) : Prop where
  ne_nil : w ≠ []
  alphanum : ∀ c ∈ w, c.isAlphanum = true

theorem isAsciiWord_of_mem_words {x : String} (hx : isIdentifier x) {w : List Char}
    (hw : w ∈ words x.toList) : IsAsciiWord w := by
  refine ⟨ne_nil_of_mem_words hw, fun c hc => ?_⟩
  by_contra hother
  rw [Bool.not_eq_true] at hother
  exact not_mem_splitWords_iff.1 (not_mem_splitWords_of_isIdentifier hx hother) w hw hc

namespace IsAsciiWord
variable {w : List Char} (h : IsAsciiWord w) (choice : ColumnCase)
include h

theorem lt : ∀ c ∈ w, c.toNat < 128 := by
  intro c hc
  have hpart : isIdentifierPart c := by simp [isIdentifierPart, h.alphanum c hc]
  exact lt_of_isIdentifierPart hpart

theorem apply_eq : choice.apply w = w.map choice.onAscii := choice.apply_of_ascii h.lt

theorem apply_ne_nil : choice.apply w ≠ [] := mt choice.apply_eq_nil_iff.1 h.ne_nil

theorem underscore_not_mem_apply : '_' ∉ choice.apply w := by
  intro hmem
  rw [h.apply_eq] at hmem
  obtain ⟨c, hc, hmapped⟩ := List.mem_map.1 hmem
  have hunderscore := (choice.onAscii_eq_underscore_iff (h.lt c hc)).1 hmapped
  have halphanum := h.alphanum c hc
  rw [hunderscore] at halphanum
  exact absurd halphanum (by decide)

theorem wellShaped_lower : WellShaped (ColumnCase.lower.apply w) := by
  have hsmall : ∀ c ∈ w, isUppercase (ColumnCase.lower.onAscii c) = false := by
    intro c hc
    refine of_ascii (P := fun c => isUppercase (ColumnCase.lower.onAscii c) = false) ?_ (h.lt c hc)
    decide +kernel
  refine wellShaped_iff_tail.2
    ⟨h.underscore_not_mem_apply .lower, h.apply_ne_nil .lower, .inr ?_⟩
  rw [h.apply_eq, ← List.map_tail, List.forall_mem_map]
  exact fun c hc => hsmall c (List.mem_of_mem_tail hc)

/-- A word in upper case is made of capitals and of the digits that it had before. -/
theorem isUppercase_upper {c : Char} (hc : c ∈ w) :
    isUppercase (ColumnCase.upper.onAscii c) = !c.isDigit := by
  refine of_ascii (P := fun c => c.isAlphanum = true →
    isUppercase (ColumnCase.upper.onAscii c) = !c.isDigit) ?_ (h.lt c hc) (h.alphanum c hc)
  decide +kernel

theorem wellShaped_upper_iff : WellShaped (ColumnCase.upper.apply w) ↔
    (∀ c ∈ w, c.isDigit = false) ∨ ∀ c ∈ w.tail, c.isDigit = true := by
  have hcapital : (∀ c ∈ w, isUppercase (ColumnCase.upper.onAscii c) = true) ↔
      ∀ c ∈ w, c.isDigit = false :=
    forall₂_congr fun c hc => by rw [h.isUppercase_upper hc, Bool.not_eq_true']
  have hdigit : (∀ c ∈ w.tail, isUppercase (ColumnCase.upper.onAscii c) = false) ↔
      ∀ c ∈ w.tail, c.isDigit = true :=
    forall₂_congr fun c hc => by
      rw [h.isUppercase_upper (List.mem_of_mem_tail hc), Bool.not_eq_false']
  rw [wellShaped_iff_tail, and_iff_right (h.underscore_not_mem_apply .upper),
    and_iff_right (h.apply_ne_nil .upper), h.apply_eq, ← List.map_tail, List.forall_mem_map,
    List.forall_mem_map, hcapital, hdigit]

end IsAsciiWord

section Renewed
variable {p : NamingPolicy} {x : String}

theorem columnLiteral_eq_columnName (hnames : p.generateNames = true) (identifier : String) :
    p.columnLiteral identifier = "\"" ++ p.columnName identifier ++ "\"" := by
  rw [columnLiteral_eq hnames, ← String.toList_inj, ← toList_baseText]
  simp [NamingPolicy.columnName, ColumnCase.applyText]

section Underscores
variable (hwords : p.useSeparator = true) (hseparator : p.separator = "_")
include hwords hseparator

theorem toList_columnName (identifier : String) : (p.columnName identifier).toList =
    ['_'].intercalate ((words identifier.toList).map p.columnCase.apply) := by
  rw [NamingPolicy.columnName, ColumnCase.applyText, String.toList_ofList, toList_baseText,
    NamingPolicy.baseName, if_pos hwords, hseparator, ← p.columnCase.apply_join]
  rfl

/-- The words of a column name are those of the identifier, each in its case, exactly if these are
well shaped. -/
theorem splitWords_columnName_iff :
    splitWords (p.columnName x) = (splitWords x).map p.columnCase.applyText ↔
      ∀ w ∈ words x.toList, WellShaped (p.columnCase.apply w) := by
  have hmap : (splitWords x).map p.columnCase.applyText =
      ((words x.toList).map p.columnCase.apply).map String.ofList := by
    simp [splitWords, ColumnCase.applyText, Function.comp_def]
  rw [hmap, splitWords, (List.map_injective_iff.2 fun _ _ => String.ofList_inj.1).eq_iff,
    toList_columnName hwords hseparator, words_join_iff, List.forall_mem_map]

omit hwords in
/-- A column name has its case already, and so do its words. -/
theorem apply_of_mem_words_columnName (hx : isIdentifier x) {v : List Char}
    (hv : v ∈ words (p.columnName x).toList) : p.columnCase.apply v = v := by
  have hbase : ∀ c ∈ p.baseName x.toList, c.toNat < 128 := by
    intro c hc
    rcases mem_baseName hc with hc | hc
    · exact lt_of_isIdentifierPart (isIdentifierPart_of_mem hx hc)
    · rw [hseparator] at hc
      obtain rfl : c = '_' := List.mem_singleton.1 hc
      decide
  have hname : (p.columnName x).toList = (p.baseName x.toList).map p.columnCase.onAscii := by
    rw [NamingPolicy.columnName, ColumnCase.applyText, String.toList_ofList, toList_baseText,
      p.columnCase.apply_of_ascii hbase]
  have hfixed : ∀ c ∈ v, c.toNat < 128 ∧ p.columnCase.onAscii c = c := by
    intro c hc
    have hmem := mem_of_mem_words hv c hc
    rw [hname] at hmem
    obtain ⟨d, hd, rfl⟩ := List.mem_map.1 hmem
    exact ⟨p.columnCase.onAscii_lt (hbase d hd), p.columnCase.onAscii_onAscii (hbase d hd)⟩
  rw [p.columnCase.apply_of_ascii fun c hc => (hfixed c hc).1]
  exact (List.map_congr_left fun c hc => (hfixed c hc).2).trans (List.map_id v)

/-- The column name of an identifier is its own column name exactly if the words it was made of are
well shaped. -/
theorem columnName_columnName_iff (hx : isIdentifier x) :
    p.columnName (p.columnName x) = p.columnName x ↔
      ∀ w ∈ words x.toList, WellShaped (p.columnCase.apply w) := by
  have hcased : (words (p.columnName x).toList).map p.columnCase.apply =
      words (p.columnName x).toList :=
    (List.map_congr_left fun v hv => apply_of_mem_words_columnName hseparator hx hv).trans
      (List.map_id _)
  have hname := toList_columnName hwords hseparator x
  rw [← List.forall_mem_map, ← words_join_iff, ← hname, ← String.toList_inj,
    toList_columnName hwords hseparator (p.columnName x), hcased, hname]
  constructor
  · intro h
    refine intercalate_inj (fun v hv => (wellShaped_of_mem_words hv).1) ?_
      (fun v hv => ne_nil_of_mem_words hv) ?_ h
    · exact List.forall_mem_map.2 fun w hw =>
        (isAsciiWord_of_mem_words hx hw).underscore_not_mem_apply p.columnCase
    · exact List.forall_mem_map.2 fun w hw =>
        (isAsciiWord_of_mem_words hx hw).apply_ne_nil p.columnCase
  · exact congrArg _

end Underscores

/-- A column name is taken as an identifier again, when words are joined with underscores. In lower
case its words are those of the identifier in lower case, and it is its own column name. So it is in
upper case if the identifier has no digits, and exactly if in each of its words there is none or
nothing else stands behind the first character. -/
theorem columnLiteral_of_columnName (hnames : p.generateNames = true)
    (hwords : p.useSeparator = true) (hseparator : p.separator = "_") (hx : isIdentifier x) :
    p.columnLiteral x = "\"" ++ p.columnName x ++ "\"" ∧
    (p.columnCase = .lower →
      p.columnLiteral (p.columnName x) = p.columnLiteral x ∧
      splitWords (p.columnName x) = (splitWords x).map ColumnCase.lower.applyText) ∧
    (p.columnCase = .upper → (∀ c ∈ x.toList, c.isDigit = false) →
      p.columnLiteral (p.columnName x) = p.columnLiteral x ∧
      splitWords (p.columnName x) = (splitWords x).map ColumnCase.upper.applyText) ∧
    (p.columnCase = .upper →
      (p.columnLiteral (p.columnName x) = p.columnLiteral x ↔
        ∀ w ∈ splitWords x,
          (∀ c ∈ w.toList, c.isDigit = false) ∨ ∀ c ∈ w.toList.tail, c.isDigit = true)) := by
  have hword : ∀ w ∈ words x.toList, IsAsciiWord w := fun w hw => isAsciiWord_of_mem_words hx hw
  have hliteral : p.columnLiteral (p.columnName x) = p.columnLiteral x ↔
      ∀ w ∈ words x.toList, WellShaped (p.columnCase.apply w) := by
    rw [columnLiteral_eq_columnName hnames, columnLiteral_eq_columnName hnames,
      ← columnName_columnName_iff hwords hseparator hx]
    simp
  have hstable : (∀ w ∈ words x.toList, WellShaped (p.columnCase.apply w)) →
      p.columnLiteral (p.columnName x) = p.columnLiteral x ∧
      splitWords (p.columnName x) = (splitWords x).map p.columnCase.applyText :=
    fun h => ⟨hliteral.2 h, (splitWords_columnName_iff hwords hseparator).2 h⟩
  refine ⟨columnLiteral_eq_columnName hnames x, fun hlower => ?_, fun hupper hx' => ?_,
    fun hupper => ?_⟩
  · rw [hlower] at hstable
    exact hstable fun w hw => (hword w hw).wellShaped_lower
  · rw [hupper] at hstable
    refine hstable fun w hw => (hword w hw).wellShaped_upper_iff.2 (.inl fun c hc => ?_)
    exact hx' c (mem_of_mem_words hw c hc)
  · rw [hliteral, hupper, splitWords, List.forall_mem_map]
    refine forall₂_congr fun w hw => ?_
    rw [(hword w hw).wellShaped_upper_iff, String.toList_ofList]

/-- The digit of a word does not matter in lower case. In upper case it is cut off with the letter
before it. -/
theorem columnLiteral_of_columnName_with_digits :
    let lower : NamingPolicy :=
      { generateNames := true, useSeparator := true, columnCase := .lower }
    let upper : NamingPolicy := { lower with columnCase := .upper }
    (lower.generateNames = true ∧ lower.useSeparator = true ∧ lower.separator = "_") ∧
      (isIdentifier "urlAb1" ∧ isIdentifier "urlAb") ∧
      lower.columnName "urlAb1" = "url_ab1" ∧
      lower.columnLiteral "url_ab1" = lower.columnLiteral "urlAb1" ∧
      splitWords "url_ab1" = (splitWords "urlAb1").map ColumnCase.lower.applyText ∧
      (∀ c ∈ "urlAb".toList, c.isDigit = false) ∧
      upper.columnName "urlAb" = "URL_AB" ∧
      upper.columnLiteral "URL_AB" = upper.columnLiteral "urlAb" ∧
      upper.columnName "urlAb1" = "URL_AB1" ∧
      upper.columnLiteral "URL_AB1" ≠ upper.columnLiteral "urlAb1" := by
  intro lower upper
  have hnames : lower.columnName "urlAb1" = "url_ab1" ∧ upper.columnName "urlAb" = "URL_AB" ∧
      upper.columnName "urlAb1" = "URL_AB1" := by
    decide +kernel
  obtain ⟨hlower, hupper, hdigit⟩ := hnames
  have hx : isIdentifier "urlAb1" ∧ isIdentifier "urlAb" := by decide
  have hletters : ∀ c ∈ "urlAb".toList, c.isDigit = false := by simp
  have hword : "Ab1" ∈ splitWords "urlAb1" := by decide
  obtain ⟨-, hl, -, -⟩ := columnLiteral_of_columnName (p := lower) rfl rfl rfl hx.1
  obtain ⟨-, -, hu, -⟩ := columnLiteral_of_columnName (p := upper) rfl rfl rfl hx.2
  obtain ⟨-, -, -, hd⟩ := columnLiteral_of_columnName (p := upper) rfl rfl rfl hx.1
  rw [hlower] at hl
  rw [hupper] at hu
  rw [hdigit] at hd
  refine ⟨⟨rfl, rfl, rfl⟩, hx, hlower, (hl rfl).1, (hl rfl).2, hletters, hupper,
    (hu rfl hletters).1, hdigit, mt (hd rfl).1 fun h => ?_⟩
  exact absurd (h "Ab1" hword) (by simp)

end Renewed

end RowBinding.Column
