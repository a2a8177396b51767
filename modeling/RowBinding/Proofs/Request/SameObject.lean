import Mathlib.Data.List.Forall2
import RowBinding.Proofs.Binding.Standard
import RowBinding.Proofs.Reading.Standard
import RowBinding.Proofs.Request.Code

/-!
# Both directions describe one object
-/
namespace RowBinding
open Declaration Letter Text

theorem standard_names_agree : Reading.standardRules.names = Binding.standardRules.names := by
  decide

/-- Either both directions fail with one error, or each retained field has its group of lines that
sets it and its statement that gets it. A group is one statement if the type is in the tables and
else two comments. The value that is bound is a text fixed by the type, around calls of the field's
own getter. -/
theorem codes_describe_same_object (text object reader writer : String)
    (naming : Option Column.NamingPolicy) (counterId : Option String) :
    let r : ReadRequest := ⟨reader, object, text, naming⟩
    let b : BindRequest := ⟨writer, object, text, counterId⟩
    (∃ e, r.code = .error e ∧ b.code = .error e) ∨
    ∃ fs gs ws, parseRetained text = .ok fs ∧
      r.code = .ok (joinLines gs.flatten) ∧
      b.code = .ok (joinLines (match b.counter with
        | some c => ("int " ++ c ++ " = 1;") :: ws
        | none => ws)) ∧
      (∀ T, T ∈ Reading.standardRules.names ↔ T ∈ Binding.standardRules.names) ∧
      List.Forall₂ (fun f g =>
        if f.declaredType ∈ Reading.standardRules.names then
          ∃ value, g = [object ++ ".set" ++ capitalize f.identifier ++ "(" ++ value ++ ");"]
        else g = ["//" ++ f.declaredType ++ " " ++ f.identifier ++ ";",
          "//" ++ object ++ ".set" ++ capitalize f.identifier ++ "(" ++ f.identifier ++ ");"])
        fs gs ∧
      ws = fs.mapIdx fun i f => writer ++ ".set" ++ Binding.setterOf f.declaredType ++ "(" ++
        Binding.indexText b.counter (i + 1) ++ ", " ++
        (Binding.valueWrapping f.declaredType).fill (object ++ "." ++
          (if f.declaredType = "boolean" ∨ f.declaredType = "Boolean" then "is" else "get") ++
          capitalize f.identifier ++ "()") ++ ");" := by
  intro r b
  cases hfs : parseRetained text with
  | error e =>
    exact .inl ⟨e, ReadRequest.code_eq_error_iff.2 hfs, BindRequest.code_eq_error_iff.2 hfs⟩
  | ok fs =>
    refine .inr ⟨fs, fs.map r.rowReader.group, _, rfl, ?_, ?_, fun T => ?_, ?_, rfl⟩
    · rw [ReadRequest.code_eq_ok_iff, ← List.flatMap_def]
      exact ⟨fs, hfs, rfl⟩
    · rw [BindRequest.code_eq_ok_iff]
      exact ⟨fs, hfs, congrArg joinLines (b.lines_eq fs)⟩
    · rw [standard_names_agree]
    · rw [List.forall₂_map_right_iff, List.forall₂_same]
      intro f _
      split_ifs with hmem
      · exact ⟨_, r.rowReader.group_of_known rfl hmem⟩
      · exact r.rowReader.group_of_unknown rfl rfl hmem

end RowBinding
