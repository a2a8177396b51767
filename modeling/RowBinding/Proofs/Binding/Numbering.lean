import Mathlib.Logic.Function.Basic
import RowBinding.Proofs.Text.Trim
import RowBinding.Proofs.TypeTable
import RowBinding.Request.Generate

/-!
# Numbering of parameters

The emitted lines are the texts of a small program that declares at most one counter and binds
parameters at indices. An index is a literal or the value of a counter, which is then incremented.
Executing the program gives the bound parameters with their positions. With a counter or without,
the positions are 1, 2, 3, … and the parameters the same.

Which parameter a field gives is decided by the table, the object and the field; only whether it is
dropped depends on how unknown types are handled.
-/
namespace RowBinding.Binding
open Declaration Text

inductive Index where
  | literal (k : Nat)
  | next (counter : String)
deriving DecidableEq, Repr

inductive Line where
  | declare (counter : String)
  | bind (index : Index) (parameter : Parameter)
deriving DecidableEq, Repr

def Index.text : Index → String
  | literal k => k.repr
  | next c => c ++ "++"

def Line.text (writer : String) : Line → String
  | declare c => "int " ++ c ++ " = 1;"
  | bind i p => writer ++ "." ++ p.setter ++ "(" ++ i.text ++ ", " ++ p.value ++ ");"

abbrev Counters := String → Option Nat

/-- The value of an index, and the counters afterwards. A counter must have been declared. -/
def Index.eval (v : Counters) : Index → Option (Nat × Counters)
  | literal k => some (k, v)
  | next c => (v c).map fun k => (k, Function.update v c (some (k + 1)))

/-- The parameters that lines bind, with their positions, in the order of binding. -/
def execute (v : Counters) : List Line → Option (List (Nat × Parameter))
  | [] => some []
  | .declare c :: ls => execute (Function.update v c (some 1)) ls
  | .bind i p :: ls =>
    match i.eval v with
    | none => none
    | some (k, v') => (execute v' ls).map ((k, p) :: ·)

/-- The program that binds parameters in order, with a counter or with literals. -/
def numbered (counter : Option String) (ps : List Parameter) : List Line :=
  match counter with
  | none => ps.mapIdx fun i p => .bind (.literal (i + 1)) p
  | some c => .declare c :: ps.map (.bind (.next c))

theorem execute_literals (v : Counters) (k : Nat) (ps : List Parameter) :
    execute v (ps.mapIdx fun i p => .bind (.literal (k + i)) p) =
      some (ps.mapIdx fun i p => (k + i, p)) := by
  induction ps generalizing k with
  | nil => rfl
  | cons p ps ih =>
    have htail := ih (k + 1)
    simp only [Nat.add_assoc, Nat.add_comm 1] at htail
    simp only [List.mapIdx_cons, execute, Index.eval, htail, Option.map_some, Nat.add_zero]

theorem execute_counter {v : Counters} {c : String} {k : Nat} (hc : v c = some k)
    (ps : List Parameter) : execute v (ps.map (.bind (.next c))) =
      some (ps.mapIdx fun i p => (k + i, p)) := by
  induction ps generalizing v k with
  | nil => rfl
  | cons p ps ih =>
    have htail := ih (v := Function.update v c (some (k + 1))) (Function.update_self ..)
    simp only [Nat.add_assoc, Nat.add_comm 1] at htail
    simp only [List.map_cons, List.mapIdx_cons, execute, Index.eval, hc, Option.map_some, htail,
      Nat.add_zero]

theorem execute_numbered (v : Counters) (counter : Option String) (ps : List Parameter) :
    execute v (numbered counter ps) = some (ps.mapIdx fun i p => (i + 1, p)) := by
  simp only [Nat.add_comm _ 1]
  cases counter with
  | none => simpa only [numbered, Nat.add_comm _ 1] using execute_literals v 1 ps
  | some c => exact execute_counter (Function.update_self ..) ps

theorem map_text_numbered_none (writer : String) (ps : List Parameter) :
    (numbered none ps).map (Line.text writer) = ps.mapIdx fun i p =>
      writer ++ "." ++ p.setter ++ "(" ++ (i + 1).repr ++ ", " ++ p.value ++ ");" := by
  rw [eq_comm, List.mapIdx_eq_iff]
  intro i
  simp only [numbered, List.getElem?_map, List.getElem?_mapIdx, Option.map_map, Function.comp_def,
    Line.text, Index.text]

theorem map_text_numbered_some (writer c : String) (ps : List Parameter) :
    (numbered (some c) ps).map (Line.text writer) = ("int " ++ c ++ " = 1;") :: ps.map fun p =>
      writer ++ "." ++ p.setter ++ "(" ++ (c ++ "++") ++ ", " ++ p.value ++ ");" := by
  simp only [numbered, List.map_cons, List.map_map, Function.comp_def, Line.text, Index.text]

def parameterOf (table : TypeTable BindRule) (object : String) (f : Field) : Parameter :=
  match table.lookup f.declaredType with
  | some rule => rule.parameter f.declaredType object f.identifier
  | none => textParameter object f.identifier

namespace ParameterWriter
variable (w : ParameterWriter)

def kept (fields : List Field) : List Field :=
  fields.filter fun f => (w.table.resolve f.declaredType w.handleUnknown).isSome

theorem parameter?_eq (f : Field) : w.parameter? f =
    if (w.table.resolve f.declaredType w.handleUnknown).isSome then
      some (parameterOf w.table w.object f) else none := by
  unfold parameter? parameterOf
  rw [TypeTable.resolve_eq]
  cases hrule : w.table.lookup f.declaredType with
  | some rule => rfl
  | none => cases w.handleUnknown <;> rfl

theorem filterMap_parameter? (fields : List Field) :
    fields.filterMap w.parameter? = (w.kept fields).map (parameterOf w.table w.object) := by
  unfold kept
  induction fields with
  | nil => rfl
  | cons f fs ih =>
    have hf := w.parameter?_eq f
    by_cases h : (w.table.resolve f.declaredType w.handleUnknown).isSome
    · rw [if_pos h] at hf
      rw [List.filterMap_cons_some hf, List.filter_cons, if_pos h, List.map_cons, ih]
    · rw [if_neg h] at hf
      rw [List.filterMap_cons_none hf, List.filter_cons, if_neg h, ih]

theorem statementsFrom_eq_mapIdx (k : Nat) (ps : List Parameter) :
    w.statementsFrom k ps = ps.mapIdx fun i p => w.statement (k + i) p := by
  induction ps generalizing k with
  | nil => rfl
  | cons p ps ih =>
    rw [statementsFrom, ih, List.mapIdx_cons]
    simp only [Nat.add_assoc, Nat.add_comm 1, Nat.add_zero]

theorem lines_eq_numbered (fields : List Field) :
    w.lines fields = (numbered w.counter
      ((w.kept fields).map (parameterOf w.table w.object))).map (Line.text w.writer) := by
  rw [lines, filterMap_parameter?, statementsFrom_eq_mapIdx]
  generalize (w.kept fields).map (parameterOf w.table w.object) = ps
  cases hc : w.counter with
  | none =>
    rw [map_text_numbered_none]
    simp only [header, statement, indexText, hc, List.nil_append, Nat.add_comm 1]
  | some c =>
    have hbind : ps.mapIdx (fun i p => w.statement (1 + i) p) =
        ps.map fun p =>
          w.writer ++ "." ++ p.setter ++ "(" ++ (c ++ "++") ++ ", " ++ p.value ++ ");" := by
      rw [List.mapIdx_eq_iff]
      intro i
      simp only [List.getElem?_map, statement, indexText, hc]
    rw [map_text_numbered_some, hbind]
    simp only [header, hc, List.cons_append, List.nil_append]

theorem kept_eq_self (h : w.handleUnknown = true) (fields : List Field) :
    w.kept fields = fields := by
  refine List.filter_eq_self.2 fun f _ => ?_
  rw [TypeTable.resolve_eq]
  cases w.table.lookup f.declaredType with
  | some rule => rfl
  | none => rw [h]; rfl

/-- When unknown types are handled, every field has its statement, and its position is its place
among the fields. -/
theorem lines_eq_mapIdx (h : w.handleUnknown = true) (fields : List Field) :
    w.lines fields = w.header ++
      (fields.map (parameterOf w.table w.object)).mapIdx fun i p => w.statement (1 + i) p := by
  rw [lines, filterMap_parameter?, kept_eq_self w h, statementsFrom_eq_mapIdx]

/-- Fields that come later leave the lines of earlier ones alone. -/
theorem lines_append (h : w.handleUnknown = true) (a b : List Field) :
    w.lines (a ++ b) = w.lines a ++ (b.map (parameterOf w.table w.object)).mapIdx
      fun i p => w.statement (1 + (i + a.length)) p := by
  rw [lines_eq_mapIdx w h, lines_eq_mapIdx w h, List.map_append, List.mapIdx_append,
    List.length_map, List.append_assoc]

end ParameterWriter

theorem counterName_eq (id : Option String) :
    counterName id = if trimBlank (id.getD "").toList = [] then none
      else some (String.ofList (trimBlank (id.getD "").toList)) := by
  cases id with
  | none => rfl
  | some s =>
    simp only [counterName, Option.map_some, Option.getD_some, Option.filter_some]
    by_cases h : trimBlank s.toList = []
    · simp [h]
    · have hne : String.ofList (trimBlank s.toList) ≠ "" := by
        simpa using h
      simp [h, hne]

end RowBinding.Binding

namespace RowBinding.BindRequest
open Binding Declaration Text
variable (r : BindRequest) (table : TypeTable BindRule) (handleUnknown : Bool)

def writerWith : ParameterWriter :=
  { r.parameterWriter with table := table, handleUnknown := handleUnknown }

theorem lines_congr {id id' : Option String}
    (h : trimBlank (id.getD "").toList = trimBlank (id'.getD "").toList) (fields : List Field) :
    ({ r with counterId := id }.writerWith table handleUnknown).lines fields =
      ({ r with counterId := id' }.writerWith table handleUnknown).lines fields := by
  have hcounter : counterName id = counterName id' := by
    rw [counterName_eq, counterName_eq, h]
  have hwriter : { r with counterId := id }.writerWith table handleUnknown =
      { r with counterId := id' }.writerWith table handleUnknown := by
    simp only [writerWith, parameterWriter, counter, hcounter]
  rw [hwriter]

/-- The lines of a request number the same parameters with its counter as with literals, and the
counter's name matters only through its trimmed text. -/
theorem lines_bind_in_order (fields : List Field) :
    let lines := fun id => ({ r with counterId := id }.writerWith table handleUnknown).lines fields
    let ps := (fields.filter fun f =>
      (table.resolve f.declaredType handleUnknown).isSome).map (parameterOf table r.objectId)
    (lines r.counterId = match r.counter with
      | none => ps.mapIdx fun i p =>
          r.writerId ++ "." ++ p.setter ++ "(" ++ (i + 1).repr ++ ", " ++ p.value ++ ");"
      | some c => ("int " ++ c ++ " = 1;") :: ps.map fun p =>
          r.writerId ++ "." ++ p.setter ++ "(" ++ (c ++ "++") ++ ", " ++ p.value ++ ");") ∧
    lines r.counterId = (numbered r.counter ps).map (Line.text r.writerId) ∧
    (∀ v counter, execute v (numbered counter ps) = some (ps.mapIdx fun i p => (i + 1, p))) ∧
    (∀ id id' : Option String,
      trimBlank (id.getD "").toList = trimBlank (id'.getD "").toList → lines id = lines id') ∧
    (∀ s, IsBlankText s → lines (some s) = lines none) ∧
    ∀ s before after, IsBlankText before → IsBlankText after →
      lines (some (before ++ s ++ after)) = lines (some s) := by
  intro lines ps
  have hlines : lines r.counterId = (numbered r.counter ps).map (Line.text r.writerId) :=
    (r.writerWith table handleUnknown).lines_eq_numbered fields
  have htrim : ∀ id id' : Option String,
      trimBlank (id.getD "").toList = trimBlank (id'.getD "").toList → lines id = lines id' :=
    fun id id' h => r.lines_congr table handleUnknown h fields
  refine ⟨?_, hlines, fun v counter => execute_numbered v counter ps, htrim, ?_, ?_⟩
  · rw [hlines]
    cases r.counter with
    | none => exact map_text_numbered_none r.writerId ps
    | some c => exact map_text_numbered_some r.writerId c ps
  · intro s hs
    apply htrim
    have hblank : ∀ c ∈ s.toList, isBlank c := List.all_eq_true.1 hs
    exact trimBlank_of_blank hblank
  · intro s before after hbefore hafter
    apply htrim
    have hpad := trimBlank_pad (List.all_eq_true.1 hbefore) (List.all_eq_true.1 hafter) s.toList
    simpa only [Option.getD_some, String.toList_append] using hpad

end RowBinding.BindRequest
