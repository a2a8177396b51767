import Mathlib.Data.List.Forall2
import RowBinding.Request.Generate

/-!
# Code and accepted blocks

There is code for a request exactly when its block is accepted. It is then made of the lines for the
retained fields, and else the fault of the block is returned.
-/
namespace RowBinding
open Declaration Text

section Map
variable {ε α β : Type} {g : α → β} {x : Except ε α}

theorem map_eq_ok_iff {b : β} : x.map g = .ok b ↔ ∃ a, x = .ok a ∧ g a = b := by
  cases x with
  | error e => simp [Except.map]
  | ok a => simp [Except.map]

theorem map_eq_error_iff {e : ε} : x.map g = .error e ↔ x = .error e := by
  cases x with
  | error d => simp [Except.map]
  | ok a => simp [Except.map]

theorem bind_eq_ok_iff {f : α → Except ε β} {b : β} :
    (x >>= f) = .ok b ↔ ∃ a, x = .ok a ∧ f a = .ok b := by
  cases x with
  | error e => simp [bind, Except.bind]
  | ok a => simp [bind, Except.bind]

end Map

theorem exists_forall₂ {α β : Type} {rel : α → β → Prop} {xs : List α}
    (h : ∀ x ∈ xs, ∃ y, rel x y) : ∃ ys, List.Forall₂ rel xs ys := by
  induction xs with
  | nil => exact ⟨[], .nil⟩
  | cons x xs ih =>
    obtain ⟨⟨y, hy⟩, htail⟩ := List.forall_mem_cons.1 h
    obtain ⟨ys, hys⟩ := ih htail
    exact ⟨y :: ys, .cons hy hys⟩

theorem parseRetained_eq_ok_iff {text : String} {fs : List Field} : parseRetained text = .ok fs ↔
    ∃ all, parse text = .ok all ∧ all.filter Field.isRetained = fs := map_eq_ok_iff

theorem ReadRequest.code_eq_ok_iff {r : ReadRequest} {out : String} : r.code = .ok out ↔
    ∃ fs, parseRetained r.fieldsText = .ok fs ∧ joinLines (r.rowReader.lines fs) = out :=
  map_eq_ok_iff

theorem ReadRequest.code_eq {text : String} {fs : List Field} (h : parseRetained text = .ok fs)
    (r : ReadRequest) :
    { r with fieldsText := text }.code = .ok (joinLines (r.rowReader.lines fs)) :=
  code_eq_ok_iff.2 ⟨fs, h, rfl⟩

theorem ReadRequest.code_eq_error_iff {r : ReadRequest} {e : Fault} :
    r.code = .error e ↔ parseRetained r.fieldsText = .error e := map_eq_error_iff

theorem BindRequest.code_eq_ok_iff {r : BindRequest} {out : String} : r.code = .ok out ↔
    ∃ fs, parseRetained r.fieldsText = .ok fs ∧ joinLines (r.parameterWriter.lines fs) = out :=
  map_eq_ok_iff

theorem BindRequest.code_eq {text : String} {fs : List Field} (h : parseRetained text = .ok fs)
    (r : BindRequest) :
    { r with fieldsText := text }.code = .ok (joinLines (r.parameterWriter.lines fs)) :=
  code_eq_ok_iff.2 ⟨fs, h, rfl⟩

theorem BindRequest.code_eq_error_iff {r : BindRequest} {e : Fault} :
    r.code = .error e ↔ parseRetained r.fieldsText = .error e := map_eq_error_iff

end RowBinding
