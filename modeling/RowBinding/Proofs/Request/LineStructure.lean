import Mathlib.Data.List.Forall2
import RowBinding.Proofs.Binding.Standard
import RowBinding.Proofs.Column.Characters
import RowBinding.Proofs.Declaration.Parser
import RowBinding.Proofs.Reading.Standard
import RowBinding.Proofs.Request.Code
import RowBinding.Proofs.Text.Lines

/-!
# The lines of generated code

The names and types of an accepted block are identifiers, and the fixed texts of the tables hold no
line break. So no text of a field can end a line: the generated code has the lines that are counted
for its fields, each a call of a setter or a comment.
-/
namespace RowBinding
open Binding Column Declaration Letter Reading Text

theorem oneLine_of_isIdentifier {s : String} (h : isIdentifier s) : OneLine s := by
  intro hc
  have hpart := toNat_of_isIdentifierPart (isIdentifierPart_of_mem h hc)
  have hbreak : '\n'.toNat = 10 := rfl
  omega

theorem oneLine_repr (k : Nat) : OneLine k.repr := by
  intro hc
  have hdigit := Nat.isDigit_of_mem_toDigits (by decide) (by decide) (Nat.toList_repr ▸ hc)
  exact absurd hdigit (by decide)

theorem oneLine_indexText {counter : Option String} (h : ∀ c ∈ counter, OneLine c) (k : Nat) :
    OneLine (indexText counter k) := by
  cases counter with
  | none => exact oneLine_repr k
  | some c =>
    have hplus : OneLine "++" := by decide
    exact (oneLine_append c "++").2 ⟨h c rfl, hplus⟩

theorem oneLine_columnLiteral {p : NamingPolicy} {identifier : String} (hp : OneLine p.separator)
    (h : OneLine identifier) : OneLine (p.columnLiteral identifier) := by
  intro hc
  rcases mem_columnLiteral hc with hc | hc | hc | hc
  · exact absurd hc (by decide)
  · exact h hc
  · exact hp hc
  · exact absurd hc (by decide)

theorem oneLine_readWrapping (typeName : String) :
    ∀ p ∈ (readWrapping typeName).pieces, OneLine p := by
  unfold readWrapping
  split
  all_goals decide

theorem oneLine_accessorWrapping {kind : String} (h : OneLine kind) :
    ∀ p ∈ (accessorWrapping kind).pieces, OneLine p := by
  simp +decide only [accessorWrapping, Wrapping.pieces, List.mem_cons, List.not_mem_nil, or_false,
    forall_eq_or_imp, forall_eq, oneLine_append, h.capitalize]

theorem oneLine_classWrapping {className : String} (h : OneLine className) :
    ∀ p ∈ (classWrapping className).pieces, OneLine p := by
  simp +decide only [classWrapping, Wrapping.pieces, List.mem_cons, List.not_mem_nil, or_false,
    forall_eq_or_imp, forall_eq, oneLine_append, h]

theorem oneLine_columnWrapping {typeName : String} (h : OneLine typeName) :
    ∀ p ∈ (columnWrapping typeName).pieces, OneLine p := by
  unfold columnWrapping
  split
  case h_9 =>
    split
    · exact oneLine_classWrapping h
    · exact oneLine_accessorWrapping h
  all_goals exact oneLine_accessorWrapping (by decide)

theorem oneLine_valueWrapping (typeName : String) :
    ∀ p ∈ (valueWrapping typeName).pieces, OneLine p := by
  unfold valueWrapping
  split
  case h_7 =>
    split
    all_goals decide
  all_goals decide

theorem oneLine_setterOf (typeName : String) : OneLine (setterOf typeName) := by
  have hsuffix : ∀ e ∈ Binding.standardRules.entries, OneLine (e.2.accessorSuffix.getD e.1) := by
    decide
  have htext : OneLine "String" := by decide
  rw [setterOf]
  cases hrule : Binding.standardRules.lookup typeName with
  | some rule => exact (hsuffix _ (TypeTable.mem_entries_of_lookup hrule)).capitalize
  | none => exact htext

/-- No text of a declared field has a line break. -/
theorem isIdentifier_of_parseRetained {text : String} {fs : List Field}
    (h : parseRetained text = .ok fs) :
    ∀ f ∈ fs, isIdentifier f.identifier ∧ isIdentifier f.declaredType := by
  obtain ⟨all, hall, rfl⟩ := parseRetained_eq_ok_iff.1 h
  have hdecl := declarable_of_parse hall
  intro f hf
  have hmem := (List.mem_filter.1 hf).1
  exact ⟨hdecl.identifiers f hmem, hdecl.types f hmem⟩

theorem oneLine_of_parseRetained {text : String} {fs : List Field}
    (h : parseRetained text = .ok fs) :
    ∀ f ∈ fs, OneLine f.identifier ∧ OneLine f.declaredType := by
  intro f hf
  obtain ⟨hid, hty⟩ := isIdentifier_of_parseRetained h f hf
  exact ⟨oneLine_of_isIdentifier hid, oneLine_of_isIdentifier hty⟩

/-- A line that starts with a setter of a variable and ends with a semicolon. -/
def IsSetterCall (target line : String) : Prop := ∃ rest, line = target ++ ".set" ++ rest ++ ";"

def IsComment (line : String) : Prop := ∃ rest, line = "//" ++ rest

theorem isSetterCall_call (target name arguments : String) :
    IsSetterCall target (target ++ ".set" ++ name ++ "(" ++ arguments ++ ");") := by
  have hclose : ");" = ")" ++ ";" := by decide
  refine ⟨name ++ "(" ++ arguments ++ ")", ?_⟩
  simp only [hclose, String.append_assoc]

theorem IsSetterCall.ne_empty {target line : String} (h : IsSetterCall target line) :
    line ≠ "" := by
  obtain ⟨rest, rfl⟩ := h
  simp

theorem IsComment.ne_empty {line : String} (h : IsComment line) : line ≠ "" := by
  obtain ⟨rest, rfl⟩ := h
  simp

/-- What a field adds to the code that sets an object: a statement if its type is in the table, and
else two comments. -/
inductive FieldGroup (object : String) (f : Field) : List String → Prop
  | statement {line : String} : f.declaredType ∈ Reading.standardRules.names →
      IsSetterCall object line → FieldGroup object f [line]
  | comments {first second : String} : f.declaredType ∉ Reading.standardRules.names →
      IsComment first → IsComment second → FieldGroup object f [first, second]

theorem FieldGroup.ne_empty {object : String} {f : Field} {g : List String}
    (h : FieldGroup object f g) : ∀ l ∈ g, l ≠ "" := by
  cases h with
  | statement _ hl => simpa using hl.ne_empty
  | comments _ hl hm => simpa using ⟨hl.ne_empty, hm.ne_empty⟩

/-- One line for each field, and one more for each whose type is not in the table. -/
theorem length_flatten_of_fieldGroups {object : String} {fs : List Field} {gs : List (List String)}
    (h : List.Forall₂ (FieldGroup object) fs gs) : gs.flatten.length =
      fs.length + fs.countP (fun f => f.declaredType ∉ Reading.standardRules.names) := by
  induction h with
  | nil => rfl
  | cons hg _ ih =>
    rw [List.flatten_cons, List.length_append, ih]
    cases hg with
    | statement hT _ =>
      rw [List.countP_cons_of_neg (by simpa using hT)]
      simp only [List.length_cons, List.length_nil]
      omega
    | comments hT _ _ =>
      rw [List.countP_cons_of_pos (by simpa using hT)]
      simp only [List.length_cons, List.length_nil]
      omega

namespace Reading.RowReader
variable {r : RowReader} {f : Field}

theorem fieldGroup_group (ht : r.table = standardRules) (hu : r.handleUnknown = true) (f : Field) :
    FieldGroup r.object f (r.group f) := by
  by_cases hT : f.declaredType ∈ standardRules.names
  · rw [group_of_known ht hT]
    exact .statement hT (isSetterCall_call _ _ _)
  · rw [group_of_unknown ht hu hT]
    refine .comments hT ⟨f.declaredType ++ " " ++ f.identifier ++ ";", ?_⟩
      ⟨r.object ++ ".set" ++ capitalize f.identifier ++ "(" ++ f.identifier ++ ");", ?_⟩
    · simp only [String.append_assoc]
    · simp only [String.append_assoc]

theorem oneLine_of_mem_group (ht : r.table = standardRules) (hu : r.handleUnknown = true)
    (hreader : OneLine r.reader) (hobject : OneLine r.object) (hsep : OneLine r.naming.separator)
    (hid : OneLine f.identifier) (hty : OneLine f.declaredType) : ∀ l ∈ r.group f, OneLine l := by
  by_cases hT : f.declaredType ∈ standardRules.names
  · have haccessor := (oneLine_columnLiteral hsep hid).fill (oneLine_columnWrapping hty)
    have hread : OneLine (r.reader ++ "." ++
        (columnWrapping f.declaredType).fill (r.naming.columnLiteral f.identifier)) := by
      simp +decide only [oneLine_append, hreader, haccessor]
    have hvalue := hread.fill (oneLine_readWrapping f.declaredType)
    rw [group_of_known ht hT]
    simp +decide only [List.mem_singleton, forall_eq, oneLine_append, hobject, hid.capitalize,
      hvalue]
  · rw [group_of_unknown ht hu hT]
    simp +decide only [List.mem_cons, List.not_mem_nil, or_false, forall_eq_or_imp, forall_eq,
      oneLine_append, hobject, hid.capitalize, hid, hty]

end Reading.RowReader

theorem ReadRequest.oneLine_separator {r : ReadRequest}
    (h : ∀ p ∈ r.naming, OneLine p.separator) : OneLine r.rowReader.naming.separator := by
  rw [rowReader]
  cases hp : r.naming with
  | none =>
    have hdefault : OneLine "_" := by decide
    exact hdefault
  | some p => exact h p hp

theorem isSetterCall_bindingText (writer index object : String) (f : Field) :
    IsSetterCall writer (bindingText writer index object f) := by
  have hcall := isSetterCall_call writer (setterOf f.declaredType)
    (index ++ ", " ++ (valueWrapping f.declaredType).fill
      (object ++ "." ++ getterStart f.declaredType ++ capitalize f.identifier ++ "()"))
  simpa only [bindingText, String.append_assoc] using hcall

theorem oneLine_getterStart (typeName : String) : OneLine (getterStart typeName) := by
  unfold getterStart
  split
  all_goals decide

theorem oneLine_bindingText {writer index object : String} {f : Field} (hwriter : OneLine writer)
    (hindex : OneLine index) (hobject : OneLine object) (hid : OneLine f.identifier) :
    OneLine (bindingText writer index object f) := by
  have hstart := oneLine_getterStart f.declaredType
  have hcall : OneLine (object ++ "." ++ getterStart f.declaredType ++
      capitalize f.identifier ++ "()") := by
    simp +decide only [oneLine_append, hobject, hstart, hid.capitalize]
  have hvalue := hcall.fill (oneLine_valueWrapping f.declaredType)
  have hsetter := oneLine_setterOf f.declaredType
  simp +decide only [bindingText, oneLine_append, hwriter, hsetter, hindex, hvalue]

theorem Reading.RowReader.hasLines_lines {r : RowReader} {fs : List Field}
    (ht : r.table = standardRules) (hu : r.handleUnknown = true) (hreader : OneLine r.reader)
    (hobject : OneLine r.object) (hsep : OneLine r.naming.separator)
    (hfs : ∀ f ∈ fs, OneLine f.identifier ∧ OneLine f.declaredType) :
    HasLines (joinLines (r.lines fs)) (fs.map r.group).flatten := by
  rw [lines, List.flatMap_def]
  refine hasLines_joinLines fun l hl => ?_
  obtain ⟨g, hg, hl⟩ := List.mem_flatten.1 hl
  obtain ⟨f, hf, rfl⟩ := List.mem_map.1 hg
  obtain ⟨hid, hty⟩ := hfs f hf
  exact ⟨oneLine_of_mem_group ht hu hreader hobject hsep hid hty l hl,
    (fieldGroup_group ht hu f).ne_empty l hl⟩

theorem BindRequest.hasLines_lines {r : BindRequest} {fs : List Field}
    (hwriter : OneLine r.writerId) (hobject : OneLine r.objectId)
    (hcounter : ∀ c ∈ r.counter, OneLine c) (hfs : ∀ f ∈ fs, OneLine f.identifier) :
    HasLines (joinLines (r.parameterWriter.lines fs)) (match r.counter with
      | some c => ("int " ++ c ++ " = 1;") :: r.bindingTexts fs
      | none => r.bindingTexts fs) := by
  have hstatements : ∀ l ∈ r.bindingTexts fs, OneLine l ∧ l ≠ "" := by
    intro l hl
    obtain ⟨i, hi, rfl⟩ := List.mem_mapIdx.1 hl
    exact ⟨oneLine_bindingText hwriter (oneLine_indexText hcounter _) hobject
      (hfs _ (List.getElem_mem hi)), (isSetterCall_bindingText _ _ _ _).ne_empty⟩
  rw [r.lines_eq]
  refine hasLines_joinLines fun l hl => ?_
  split at hl
  · next c hc =>
    rcases List.mem_cons.1 hl with rfl | hl
    · have hone : OneLine c := hcounter c hc
      refine ⟨?_, by simp⟩
      simp +decide only [oneLine_append, hone]
    · exact hstatements l hl
  · exact hstatements l hl

/-- The generated code has the lines of its fields and no other, but for the declaration of a
counter. Reading, each field has a call of a setter of the object, or two comments if its type is
not in the table. Binding, each has one call of a setter of the statement. -/
theorem lines_of_code :
    (∀ (r : ReadRequest) (out : String), OneLine r.readerId → OneLine r.objectId →
      (∀ p ∈ r.naming, OneLine p.separator) → r.code = .ok out →
      ∃ fs gs, parseRetained r.fieldsText = .ok fs ∧
        List.Forall₂ (FieldGroup r.objectId) fs gs ∧
        gs.flatten.length =
          fs.length + fs.countP (fun f => f.declaredType ∉ Reading.standardRules.names) ∧
        HasLines out gs.flatten) ∧
    ∀ (r : BindRequest) (out : String), OneLine r.writerId → OneLine r.objectId →
      (∀ c ∈ r.counter, OneLine c) → r.code = .ok out →
      ∃ fs ls, parseRetained r.fieldsText = .ok fs ∧
        ls.length = fs.length ∧ (∀ l ∈ ls, IsSetterCall r.writerId l) ∧
        HasLines out (match r.counter with
          | some c => ("int " ++ c ++ " = 1;") :: ls
          | none => ls) := by
  refine ⟨?_, ?_⟩
  · intro r out hreader hobject hsep hout
    obtain ⟨fs, hfs, rfl⟩ := r.code_eq_ok_iff.1 hout
    have hgroups : List.Forall₂ (FieldGroup r.objectId) fs (fs.map r.rowReader.group) := by
      rw [List.forall₂_map_right_iff, List.forall₂_same]
      intro f _
      exact r.rowReader.fieldGroup_group rfl rfl f
    exact ⟨fs, _, hfs, hgroups, length_flatten_of_fieldGroups hgroups,
      RowReader.hasLines_lines rfl rfl hreader hobject (ReadRequest.oneLine_separator hsep)
        (oneLine_of_parseRetained hfs)⟩
  · intro r out hwriter hobject hcounter hout
    obtain ⟨fs, hfs, rfl⟩ := r.code_eq_ok_iff.1 hout
    refine ⟨fs, r.bindingTexts fs, hfs, List.length_mapIdx, ?_, ?_⟩
    · intro l hl
      obtain ⟨i, hi, rfl⟩ := List.mem_mapIdx.1 hl
      exact isSetterCall_bindingText _ _ _ _
    · exact BindRequest.hasLines_lines hwriter hobject hcounter
        fun f hf => (oneLine_of_parseRetained hfs f hf).1

/-- A line break between the tokens of a declaration does not get into the code, and a type that is
not in the table adds a line to the code that reads. -/
theorem lines_of_code_with_unknown_type :
    let r : ReadRequest := ⟨"rs", "o", "Address\nhome; int x", some ⟨true, true, "-", .upper⟩⟩
    let b : BindRequest := ⟨"ps", "o", "Address\nhome; int x", some " i\n"⟩
    (OneLine r.readerId ∧ OneLine r.objectId ∧ (∀ p ∈ r.naming, OneLine p.separator) ∧
      ∃ out fs gs, r.code = .ok out ∧ parseRetained r.fieldsText = .ok fs ∧
        List.Forall₂ (FieldGroup r.objectId) fs gs ∧ HasLines out gs.flatten) ∧
    (OneLine b.writerId ∧ OneLine b.objectId ∧ (∀ c ∈ b.counter, OneLine c) ∧
      ∃ out fs ls, b.code = .ok out ∧ parseRetained b.fieldsText = .ok fs ∧
        ls.length = fs.length ∧ (∀ l ∈ ls, IsSetterCall b.writerId l) ∧
        HasLines out (("int " ++ "i" ++ " = 1;") :: ls)) := by
  intro r b
  have hr : r.code = .ok "//Address home;\n//o.setHome(home);\no.setX(rs.getInt(\"X\"));" := by
    decide
  have hb : b.code = .ok ("int i = 1;\nps.setString(i++, " ++
      "(o.getHome() == null ? null : o.getHome().toString()));\nps.setInt(i++, o.getX());") := by
    decide
  have hsep : ∀ p ∈ r.naming, OneLine p.separator := by decide
  have hcounter : ∀ c ∈ b.counter, OneLine c := by decide
  obtain ⟨fs, gs, hfs, hgroups, -, hlines⟩ :=
    lines_of_code.1 r _ (by decide) (by decide) hsep hr
  obtain ⟨fs', ls, hfs', hlength, hcalls, hlines'⟩ :=
    lines_of_code.2 b _ (by decide) (by decide) hcounter hb
  exact ⟨⟨by decide, by decide, hsep, _, fs, gs, hr, hfs, hgroups, hlines⟩,
    by decide, by decide, hcounter, _, fs', ls, hb, hfs', hlength, hcalls, hlines'⟩

end RowBinding
