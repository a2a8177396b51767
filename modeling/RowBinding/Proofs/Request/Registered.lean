import RowBinding.Proofs.Binding.Numbering
import RowBinding.Reading.Statement

/-!
# Lines of registered fields

A table decides what a field gives by what it says about the declared type of the field, and by
nothing else. So tables that say the same about the types of some fields give them the same lines.

Where unknown types are not handled, a field of such a type gives nothing, and it has no part in the
numbering either: the lines are those of the other fields alone.
-/
namespace RowBinding
open Binding Declaration Reading

namespace TypeTable
variable {ρ : Type} {t t' : TypeTable ρ} {name : String}

/-- The fields whose types are in the table. -/
def registered (t : TypeTable ρ) (fields : List Field) : List Field :=
  fields.filter fun f => decide (f.declaredType ∈ t.names)

theorem mem_registered {f : Field} {fields : List Field} :
    f ∈ t.registered fields ↔ f ∈ fields ∧ f.declaredType ∈ t.names := by
  rw [registered, List.mem_filter, decide_eq_true_eq]

/-- Whether unknown types are handled does not matter to a type in the table. -/
theorem resolve_of_mem (h : name ∈ t.names) (handleUnknown : Bool) :
    t.resolve name handleUnknown = t.resolve name true := by
  obtain ⟨rule, hrule⟩ := exists_lookup h
  rw [resolve_of_lookup hrule, resolve_of_lookup hrule]

theorem resolve_eq_none_iff : t.resolve name false = none ↔ name ∉ t.names := by
  rw [resolve_eq, ← lookup_eq_none_iff]
  cases t.lookup name <;> simp

theorem resolve_congr (h : t'.lookup name = t.lookup name) (handleUnknown : Bool) :
    t'.resolve name handleUnknown = t.resolve name handleUnknown := by
  rw [resolve_eq, resolve_eq, h]

end TypeTable

namespace Reading.RowReader
variable {r : RowReader}

/-- Fields give the same lines where their types resolve to the same. -/
theorem lines_congr {t : TypeTable ReadRule} {handleUnknown : Bool} {fields : List Field}
    (h : ∀ f ∈ fields, t.resolve f.declaredType handleUnknown =
      r.table.resolve f.declaredType r.handleUnknown) :
    { r with table := t, handleUnknown := handleUnknown }.lines fields = r.lines fields := by
  refine List.flatMap_congr fun f hf => ?_
  rw [group, group, h f hf]
  rfl

theorem lines_registered (h : r.handleUnknown = false) (fields : List Field) :
    r.lines (r.table.registered fields) = r.lines fields := by
  induction fields with
  | nil => rfl
  | cons f fields ih =>
    by_cases hf : f.declaredType ∈ r.table.names
    · have hkeep : r.table.registered (f :: fields) = f :: r.table.registered fields :=
        List.filter_cons_of_pos (by simpa using hf)
      rw [hkeep, lines, lines, List.flatMap_cons, List.flatMap_cons]
      exact congrArg (r.group f ++ ·) ih
    · have hdrop : r.table.registered (f :: fields) = r.table.registered fields :=
        List.filter_cons_of_neg (by simpa using hf)
      have hnone : r.group f = [] := by
        rw [group, h, TypeTable.resolve_eq_none_iff.2 hf]
      rw [hdrop, ih, lines, lines, List.flatMap_cons, hnone, List.nil_append]

theorem lines_without_unknown (r : RowReader) (fields : List Field) :
    { r with handleUnknown := false }.lines fields =
      { r with handleUnknown := true }.lines (r.table.registered fields) := by
  have hsame : ∀ f ∈ r.table.registered fields,
      r.table.resolve f.declaredType false = r.table.resolve f.declaredType true :=
    fun f hf => TypeTable.resolve_of_mem (TypeTable.mem_registered.1 hf).2 false
  calc { r with handleUnknown := false }.lines fields
      = { r with handleUnknown := false }.lines (r.table.registered fields) :=
        (lines_registered rfl fields).symm
    _ = { r with handleUnknown := true }.lines (r.table.registered fields) :=
        lines_congr (r := { r with handleUnknown := true }) hsame

end Reading.RowReader

namespace Binding.ParameterWriter
variable {w : ParameterWriter}

theorem lines_congr {t : TypeTable BindRule} {handleUnknown : Bool} {fields : List Field}
    (h : ∀ f ∈ fields, t.resolve f.declaredType handleUnknown =
      w.table.resolve f.declaredType w.handleUnknown) :
    { w with table := t, handleUnknown := handleUnknown }.lines fields = w.lines fields := by
  have hparameters : fields.filterMap
      (parameter? { w with table := t, handleUnknown := handleUnknown }) =
        fields.filterMap w.parameter? := by
    refine List.filterMap_congr fun f hf => ?_
    rw [parameter?, parameter?, h f hf]
  rw [lines, lines, hparameters, statementsFrom_eq_mapIdx, statementsFrom_eq_mapIdx]
  rfl

theorem kept_eq_registered (h : w.handleUnknown = false) (fields : List Field) :
    w.kept fields = w.table.registered fields := by
  refine List.filter_congr fun f _ => ?_
  rw [h, Bool.eq_iff_iff, decide_eq_true_eq, Option.isSome_iff_ne_none, ne_eq,
    TypeTable.resolve_eq_none_iff, not_not]

/-- The fields of unknown types are gone before the others are numbered. -/
theorem lines_without_unknown (w : ParameterWriter) (fields : List Field) :
    { w with handleUnknown := false }.lines fields =
      { w with handleUnknown := true }.lines (w.table.registered fields) := by
  rw [lines_eq_numbered, lines_eq_numbered, kept_eq_registered rfl, kept_eq_self _ rfl]

theorem lines_without_unknown_numbered (hcounter : w.counter = none) (fields : List Field) :
    { w with handleUnknown := false }.lines fields =
      ((w.table.registered fields).map (parameterOf w.table w.object)).mapIdx fun i p =>
        w.writer ++ "." ++ p.setter ++ "(" ++ (i + 1).repr ++ ", " ++ p.value ++ ");" := by
  rw [lines_eq_numbered, kept_eq_registered rfl, hcounter, map_text_numbered_none]

end Binding.ParameterWriter

/-- The lines without unknown types are those for the registered fields alone, and the parameters
that are bound then have the positions 1, 2, 3, … among these. In any case the lines for some fields
depend on no more of a table than what it has for the types of these fields. -/
theorem lines_of_registered (r : RowReader) (w : ParameterWriter) (fields : List Field) :
    { r with handleUnknown := false }.lines fields =
      { r with handleUnknown := true }.lines (r.table.registered fields) ∧
    { w with handleUnknown := false }.lines fields =
      { w with handleUnknown := true }.lines (w.table.registered fields) ∧
    (w.counter = none → { w with handleUnknown := false }.lines fields =
      ((w.table.registered fields).map (parameterOf w.table w.object)).mapIdx fun i p =>
        w.writer ++ "." ++ p.setter ++ "(" ++ (i + 1).repr ++ ", " ++ p.value ++ ");") ∧
    (∀ t : TypeTable ReadRule,
      (∀ f ∈ fields, t.lookup f.declaredType = r.table.lookup f.declaredType) →
      ∀ handleUnknown, { r with table := t, handleUnknown := handleUnknown }.lines fields =
        { r with handleUnknown := handleUnknown }.lines fields) ∧
    (∀ t : TypeTable BindRule,
      (∀ f ∈ fields, t.lookup f.declaredType = w.table.lookup f.declaredType) →
      ∀ handleUnknown, { w with table := t, handleUnknown := handleUnknown }.lines fields =
        { w with handleUnknown := handleUnknown }.lines fields) := by
  refine ⟨r.lines_without_unknown fields, w.lines_without_unknown fields,
    fun hcounter => ParameterWriter.lines_without_unknown_numbered hcounter fields, ?_, ?_⟩
  · intro t h handleUnknown
    exact RowReader.lines_congr (r := { r with handleUnknown := handleUnknown }) fun f hf =>
      TypeTable.resolve_congr (h f hf) handleUnknown
  · intro t h handleUnknown
    exact ParameterWriter.lines_congr (w := { w with handleUnknown := handleUnknown }) fun f hf =>
      TypeTable.resolve_congr (h f hf) handleUnknown

/-- Two registered fields with one between them that is not. A table of one type serves them as well
as the standard one. -/
theorem lines_of_registered_around_unknown :
    let fields : List Field :=
      [⟨"a", "int", false, false⟩, ⟨"b", "Address", false, false⟩, ⟨"c", "int", false, false⟩]
    let t : TypeTable BindRule := .ofDistinct [("int", .plain)] (by decide)
    let w : ParameterWriter := { writer := "ps", object := "obj" }
    w.counter = none ∧ (∀ f ∈ fields, t.lookup f.declaredType = w.table.lookup f.declaredType) ∧
      { w with handleUnknown := false }.lines fields =
        ["ps.setInt(1, obj.getA());", "ps.setInt(2, obj.getC());"] ∧
      { w with table := t, handleUnknown := false }.lines fields =
        { w with handleUnknown := false }.lines fields := by
  intro fields t w
  have hlookup : ∀ f ∈ fields, t.lookup f.declaredType = w.table.lookup f.declaredType := by
    simp only [fields, List.forall_mem_cons]
    exact ⟨rfl, rfl, rfl, by simp⟩
  obtain ⟨-, -, hnumbered, -, hsame⟩ :=
    lines_of_registered { reader := "rs", object := "obj" } w fields
  exact ⟨rfl, hlookup, (hnumbered rfl).trans (by decide +kernel), hsame t hlookup false⟩

end RowBinding
