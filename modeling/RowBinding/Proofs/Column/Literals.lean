import RowBinding.Proofs.Column.Characters
import RowBinding.Proofs.Column.Joined
import RowBinding.Proofs.Declaration.Grammar
import RowBinding.Proofs.Letter.Forms

/-!
# Column literals

The case of a column literal is applied to the whole of it. The quotation marks are barriers, so
what stands between them is the name in that case, as if there were no quotation marks.

No character is lost by a change of case, and no word by joining, so an empty literal is one for
which no name is generated, or the identifier gives none. Two identifiers share a literal, when its
case is left as it is, only if they have the same words.
-/
namespace RowBinding.Column
open Declaration Letter

variable {p : NamingPolicy}

@[simp] theorem ColumnCase.apply_nil (choice : ColumnCase) : choice.apply [] = [] := by
  cases choice <;> rfl

/-- A barrier that is its own capital too: what stands on both sides of it is put into a case as if
each stood alone. -/
theorem ColumnCase.apply_append_barrier (choice : ColumnCase) {q : Char} (hq : IsBarrier q)
    (hupper : toUpper q = [q]) (l r : List Char) :
    choice.apply (l ++ q :: r) = choice.apply l ++ q :: choice.apply r := by
  cases choice with
  | upper => simp [apply, upperText, hupper]
  | lower => exact hq.lowerText_append l r
  | unchanged => rfl

/-- The quotation marks around a name stay as they are and change nothing of its case. -/
theorem ColumnCase.apply_quoted (choice : ColumnCase) (cs : List Char) :
    choice.apply ('"' :: (cs ++ ['"'])) = '"' :: (choice.apply cs ++ ['"']) := by
  have hquote (l r : List Char) : choice.apply (l ++ '"' :: r) =
      choice.apply l ++ '"' :: choice.apply r :=
    choice.apply_append_barrier isBarrier_quotationMark (by decide) l r
  have hfront := hquote [] (cs ++ ['"'])
  rw [apply_nil, List.nil_append, List.nil_append] at hfront
  rw [hfront, hquote, apply_nil]

theorem columnLiteral_eq (hnames : p.generateNames = true) (identifier : String) :
    p.columnLiteral identifier =
      String.ofList ('"' :: (p.columnCase.apply (p.baseName identifier.toList) ++ ['"'])) := by
  rw [NamingPolicy.columnLiteral, if_pos hnames, ColumnCase.apply_quoted]

theorem columnLiteral_of_no_names (hnames : p.generateNames = false) (identifier : String) :
    p.columnLiteral identifier = "\"\"" := by
  simp [NamingPolicy.columnLiteral, hnames]

/-- The name of a column before its case is applied: the identifier, or its words with the separator
between them. -/
def NamingPolicy.baseText (p : NamingPolicy) (identifier : String) : String :=
  if p.useSeparator then p.separator.intercalate (splitWords identifier) else identifier

theorem toList_baseText (identifier : String) :
    (p.baseText identifier).toList = p.baseName identifier.toList := by
  unfold NamingPolicy.baseText NamingPolicy.baseName
  split
  · rw [String.toList_intercalate]
    exact congrArg p.separator.toList.intercalate (wordChars_eq identifier)
  · rfl

/-- What a character of a name becomes between the texts before and after it. -/
inductive ColumnCase.FormAt (before after : List Char) : ColumnCase → Char → List Char → Prop
  | upper (c : Char) : FormAt before after .upper c (toUpper c)
  | lower {c : Char} {form : List Char} (h : LowerForm before after c form) :
      FormAt before after .lower c form
  | unchanged (c : Char) : FormAt before after .unchanged c [c]

theorem ColumnCase.exists_forms (choice : ColumnCase) (cs : List Char) :
    ∃ forms : List (List Char), choice.apply cs = forms.flatten ∧ forms.length = cs.length ∧
      ∀ before c after, cs = before ++ c :: after →
        ∃ form ∈ forms[before.length]?, FormAt before after choice c form := by
  have hmap (f : Char → List Char) (before : List Char) (c : Char) (after : List Char)
      (h : cs = before ++ c :: after) : (cs.map f)[before.length]? = some (f c) := by
    simp [h]
  cases choice with
  | upper =>
    refine ⟨cs.map toUpper, rfl, List.length_map _, fun before c after h => ?_⟩
    exact ⟨toUpper c, hmap toUpper before c after h, .upper c⟩
  | lower =>
    obtain ⟨forms, hflatten, hlength, hforms⟩ := exists_lowerForms [] cs
    refine ⟨forms, hflatten, hlength, fun before c after h => ?_⟩
    obtain ⟨form, hmem, hform⟩ := hforms before c after h
    exact ⟨form, hmem, .lower hform⟩
  | unchanged =>
    refine ⟨cs.map ([·]), (List.flatMap_singleton' cs).symm, List.length_map _,
      fun before c after h => ?_⟩
    exact ⟨[c], hmap ([·]) before c after h, .unchanged c⟩

/-- A generated column literal is the name in its case between quotation marks. The name in its case
is made of one form for each character, for the place of the character in the name alone. -/
theorem columnLiteral_quotes_cased_name (hnames : p.generateNames = true) (identifier : String) :
    p.columnLiteral identifier =
      "\"" ++ String.ofList (p.columnCase.apply (p.baseText identifier).toList) ++ "\"" ∧
    ∃ forms : List (List Char),
      p.columnCase.apply (p.baseText identifier).toList = forms.flatten ∧
      forms.length = (p.baseText identifier).toList.length ∧
      ∀ before c after, (p.baseText identifier).toList = before ++ c :: after →
        ∃ form ∈ forms[before.length]?, ColumnCase.FormAt before after p.columnCase c form := by
  refine ⟨?_, p.columnCase.exists_forms _⟩
  rw [columnLiteral_eq hnames, toList_baseText, ← String.toList_inj]
  simp

/-- The full stop is case-ignorable, so the sigma in front of it ends a word of the name. -/
theorem columnLiteral_quotes_cased_name_of_final_sigma :
    let p : NamingPolicy := { generateNames := true, columnCase := .lower }
    p.generateNames = true ∧ p.columnLiteral "\u0391\u03a3." = "\"\u03b1\u03c2.\"" ∧
      (p.baseText "\u0391\u03a3.").toList = ['\u0391'] ++ capitalSigma :: ['.'] ∧
      ∃ form, ColumnCase.FormAt ['\u0391'] ['.'] p.columnCase capitalSigma form := by
  intro p
  have hbase : (p.baseText "\u0391\u03a3.").toList = ['\u0391'] ++ capitalSigma :: ['.'] := by
    decide
  obtain ⟨hliteral, forms, -, -, hforms⟩ :=
    columnLiteral_quotes_cased_name (p := p) rfl "\u0391\u03a3."
  obtain ⟨form, -, hform⟩ := hforms _ _ _ hbase
  exact ⟨rfl, hliteral.trans (by decide +kernel), hbase, form, hform⟩

theorem ColumnCase.apply_eq_nil_iff (choice : ColumnCase) {cs : List Char} :
    choice.apply cs = [] ↔ cs = [] := by
  cases choice with
  | upper => exact upperText_eq_nil_iff
  | lower => exact lowerText_eq_nil_iff
  | unchanged => rfl

theorem words_eq_nil_iff {cs : List Char} : words cs = [] ↔ ∀ c ∈ cs, c = '_' := by
  have hflatten : (words cs).flatten = [] ↔ ∀ c ∈ cs, c = '_' := by
    rw [flatten_words, List.filter_eq_nil_iff]
    simp
  rw [← hflatten, List.flatten_eq_nil_iff]
  constructor
  · intro h
    simp [h]
  · intro h
    exact List.eq_nil_iff_forall_not_mem.2 fun w hw => ne_nil_of_mem_words hw (h w hw)

theorem baseName_eq_nil_iff {cs : List Char} :
    p.baseName cs = [] ↔
      (p.useSeparator = true ∧ ∀ c ∈ cs, c = '_') ∨ (p.useSeparator = false ∧ cs = []) := by
  unfold NamingPolicy.baseName
  split
  case isTrue h =>
    rw [intercalate_eq_nil_iff fun _ => ne_nil_of_mem_words, words_eq_nil_iff]
    simp [h]
  case isFalse h => simp [h]

/-- A column literal is empty exactly if no names are generated, or words are taken and the
identifier has underscores alone, or they are not and it has nothing. The identifier of a field has
something, so when names are generated only the underscores are left. -/
theorem columnLiteral_eq_empty_iff (p : NamingPolicy) (identifier : String) :
    (p.columnLiteral identifier = "\"\"" ↔
      p.generateNames = false ∨
      (p.useSeparator = true ∧ ∀ c ∈ identifier.toList, c = '_') ∨
      (p.useSeparator = false ∧ identifier = "")) ∧
    (isIdentifier identifier → p.generateNames = true →
      (p.columnLiteral identifier = "\"\"" ↔
        p.useSeparator = true ∧ ∀ c ∈ identifier.toList, c = '_')) := by
  have hgenerated (hnames : p.generateNames = true) : p.columnLiteral identifier = "\"\"" ↔
      (p.useSeparator = true ∧ ∀ c ∈ identifier.toList, c = '_') ∨
      (p.useSeparator = false ∧ identifier = "") := by
    rw [columnLiteral_eq hnames, ← String.toList_inj, ← String.toList_eq_nil_iff,
      ← baseName_eq_nil_iff, ← p.columnCase.apply_eq_nil_iff]
    simp
  refine ⟨?_, fun hidentifier hnames => ?_⟩
  · cases hnames : p.generateNames with
    | true => simp [hgenerated hnames]
    | false => simp [columnLiteral_of_no_names hnames]
  · have hne : identifier ≠ "" := by
      rintro rfl
      exact absurd hidentifier (by decide)
    simp [hgenerated hnames, hne]

/-- An identifier of a field that has no words. -/
theorem columnLiteral_eq_empty_iff_of_underscores :
    isIdentifier "__" ∧
      ({ generateNames := true, useSeparator := true, columnCase := .upper } :
        NamingPolicy).generateNames = true ∧
      ({ generateNames := true, useSeparator := true, columnCase := .upper } :
        NamingPolicy).columnLiteral "__" = "\"\"" :=
  ⟨by decide, rfl, ((columnLiteral_eq_empty_iff _ "__").2 (by decide) rfl).2 ⟨rfl, by simp⟩⟩

section Shared
variable {x y : String} {c : Char}

theorem columnLiteral_eq_iff_baseName (hnames : p.generateNames = true)
    (hcase : p.columnCase = .unchanged) :
    p.columnLiteral x = p.columnLiteral y ↔ p.baseName x.toList = p.baseName y.toList := by
  rw [columnLiteral_eq hnames, columnLiteral_eq hnames, hcase, ← String.toList_inj]
  simp [ColumnCase.apply]

theorem not_mem_splitWords_iff :
    (∀ w ∈ splitWords x, c ∉ w.toList) ↔ ∀ w ∈ words x.toList, c ∉ w := by
  simp [splitWords]

theorem words_eq_words_iff : words x.toList = words y.toList ↔ splitWords x = splitWords y := by
  unfold splitWords
  exact ((List.map_injective_iff.2 fun _ _ => String.ofList_inj.1).eq_iff).symm

theorem baseName_eq_iff_of_separator (hwords : p.useSeparator = true)
    (hc : c ∈ p.separator.toList.head?) (hx : ∀ w ∈ splitWords x, c ∉ w.toList)
    (hy : ∀ w ∈ splitWords y, c ∉ w.toList) :
    p.baseName x.toList = p.baseName y.toList ↔ splitWords x = splitWords y := by
  obtain ⟨s, hs⟩ := List.head?_eq_some_iff.1 hc
  rw [not_mem_splitWords_iff] at hx hy
  simp only [NamingPolicy.baseName, hwords, if_true, hs, ← words_eq_words_iff]
  constructor
  · exact intercalate_inj hx hy (fun _ => ne_nil_of_mem_words) fun _ => ne_nil_of_mem_words
  · exact congrArg _

/-- The words of an identifier that a field may have are made of ASCII letters and digits. -/
theorem not_mem_splitWords_of_isIdentifier (hx : isIdentifier x) (hc : c.isAlphanum = false) :
    ∀ w ∈ splitWords x, c ∉ w.toList := by
  rw [not_mem_splitWords_iff]
  intro w hw hmem
  have hpart := isIdentifierPart_of_mem hx (mem_of_mem_words hw c hmem)
  have hunderscore : c ≠ '_' := by
    rintro rfl
    exact (wellShaped_of_mem_words hw).1 hmem
  simp [isIdentifierPart, hc, hunderscore] at hpart

/-- With generated names in unchanged case, two identifiers share a column literal only if they are
equal, or, with a separator, have the same words. The separator must start with a character of
none of the words; for identifiers of fields any that is no ASCII letter or digit will do. -/
theorem columnLiteral_eq_iff (hnames : p.generateNames = true) (hcase : p.columnCase = .unchanged)
    (x y : String) :
    (p.useSeparator = false → (p.columnLiteral x = p.columnLiteral y ↔ x = y)) ∧
    (p.useSeparator = true → ∀ c ∈ p.separator.toList.head?,
      (∀ w ∈ splitWords x ++ splitWords y, c ∉ w.toList) →
        (p.columnLiteral x = p.columnLiteral y ↔ splitWords x = splitWords y)) ∧
    (p.useSeparator = true → isIdentifier x → isIdentifier y →
      ∀ c ∈ p.separator.toList.head?, c.isAlphanum = false →
        (p.columnLiteral x = p.columnLiteral y ↔ splitWords x = splitWords y)) := by
  rw [columnLiteral_eq_iff_baseName hnames hcase]
  refine ⟨fun hwhole => ?_, fun hwords c hc hfresh => ?_, fun hwords hx hy c hc hother => ?_⟩
  · simp [NamingPolicy.baseName, hwhole, String.toList_inj]
  · obtain ⟨hx, hy⟩ := List.forall_mem_append.1 hfresh
    exact baseName_eq_iff_of_separator hwords hc hx hy
  · exact baseName_eq_iff_of_separator hwords hc (not_mem_splitWords_of_isIdentifier hx hother)
      (not_mem_splitWords_of_isIdentifier hy hother)

/-- The separator goes on with a small letter that the words have too. The literal is shared
whichever way the words are marked, but not without the separator. -/
theorem columnLiteral_eq_iff_of_long_separator :
    let p : NamingPolicy := { generateNames := true, useSeparator := true, separator := "-d" }
    let q : NamingPolicy := { generateNames := true }
    (p.generateNames = true ∧ p.columnCase = .unchanged) ∧
      (p.useSeparator = true ∧ '-' ∈ p.separator.toList.head? ∧
        ∀ w ∈ splitWords "oldDate" ++ splitWords "old_Date", '-' ∉ w.toList) ∧
      (isIdentifier "oldDate" ∧ isIdentifier "old_date" ∧ '-'.isAlphanum = false) ∧
      (q.generateNames = true ∧ q.columnCase = .unchanged ∧ q.useSeparator = false) ∧
      p.columnLiteral "oldDate" = p.columnLiteral "old_Date" ∧
      p.columnLiteral "oldDate" ≠ p.columnLiteral "old_date" ∧
      q.columnLiteral "oldDate" ≠ q.columnLiteral "old_Date" := by
  intro p q
  have hfirst : '-' ∈ p.separator.toList.head? := by decide
  have hfresh : ∀ w ∈ splitWords "oldDate" ++ splitWords "old_Date", '-' ∉ w.toList := by decide
  have hother : '-'.isAlphanum = false := by decide
  have hold : isIdentifier "oldDate" ∧ isIdentifier "old_date" := by decide
  refine ⟨⟨rfl, rfl⟩, ⟨rfl, hfirst, hfresh⟩, ⟨hold.1, hold.2, hother⟩, ⟨rfl, rfl, rfl⟩, ?_, ?_, ?_⟩
  · have hshared := (columnLiteral_eq_iff (p := p) rfl rfl "oldDate" "old_Date").2.1
    exact (hshared rfl '-' hfirst hfresh).2 (by decide)
  · have hshared := (columnLiteral_eq_iff (p := p) rfl rfl "oldDate" "old_date").2.2
    exact mt (hshared rfl hold.1 hold.2 '-' hfirst hother).1 (by decide)
  · have hshared := (columnLiteral_eq_iff (p := q) rfl rfl "oldDate" "old_Date").1
    exact mt (hshared rfl).1 (by decide)

end Shared

end RowBinding.Column
