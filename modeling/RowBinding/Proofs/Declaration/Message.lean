import RowBinding.Declaration.Message
import RowBinding.Proofs.Json.Rendering
import RowBinding.Proofs.Text.Printable

/-!
# Messages on one line that tell faults apart

A snippet is written between quotation marks with every control character escaped, and the words
around it are plain, so a message never breaks its line. What stands before the first quotation
mark names the kind of the fault. After it the quoted snippets can be read one by one, since a
quoted text is never the start of another: whatever a snippet holds, also a copy of the words
that follow it, it ends where its own closing mark stands. So the message determines the fault.
-/
namespace RowBinding.Declaration
open Text Json

namespace Fault

@[simp]
theorem message_missingTokens (statement : String) : (missingTokens statement).message =
    "Expected a type and a field name in " ++ quote statement := rfl

@[simp]
theorem message_invalidFieldName (identifier statement : String) :
    (invalidFieldName identifier statement).message =
      "Invalid field name " ++ quote identifier ++ " in " ++ quote statement := rfl

@[simp]
theorem message_invalidTypeName (typeName statement : String) :
    (invalidTypeName typeName statement).message =
      "Invalid type name " ++ quote typeName ++ " in " ++ quote statement := rfl

@[simp]
theorem message_duplicateField (identifier statement : String) :
    (duplicateField identifier statement).message =
      "The field " ++ quote identifier ++ " is declared twice (second declaration: "
        ++ quote statement ++ ")" := rfl

/-- The words of the message before the first quoted snippet. -/
def opening : Fault → String
  | missingTokens _ => "Expected a type and a field name in "
  | invalidFieldName _ _ => "Invalid field name "
  | invalidTypeName _ _ => "Invalid type name "
  | duplicateField _ _ => "The field "

theorem quotationMark_not_mem_opening (f : Fault) : '"' ∉ f.opening.toList := by
  cases f <;> simp [opening]

theorem exists_message_eq (f : Fault) : ∃ s rest, f.message = f.opening ++ (quote s ++ rest) := by
  cases f with
  | missingTokens statement =>
    exact ⟨statement, "", by rw [message_missingTokens, opening, String.append_empty]⟩
  | invalidFieldName identifier statement =>
    exact ⟨identifier, " in " ++ quote statement, by
      rw [message_invalidFieldName, opening, String.append_assoc, String.append_assoc]⟩
  | invalidTypeName typeName statement =>
    exact ⟨typeName, " in " ++ quote statement, by
      rw [message_invalidTypeName, opening, String.append_assoc, String.append_assoc]⟩
  | duplicateField identifier statement =>
    exact ⟨identifier, " is declared twice (second declaration: " ++ quote statement ++ ")", by
      simp only [message_duplicateField, opening, String.append_assoc]⟩

/-- The opening can be read off the message. -/
theorem takeWhile_message (f : Fault) :
    f.message.toList.takeWhile (· ≠ '"') = f.opening.toList := by
  obtain ⟨s, rest, h⟩ := f.exists_message_eq
  have hopening : ∀ c ∈ f.opening.toList, decide (c ≠ '"') = true := by
    intro c hc
    have hne : c ≠ '"' := fun heq => f.quotationMark_not_mem_opening (heq ▸ hc)
    exact decide_eq_true hne
  rw [h, String.toList_append, List.takeWhile_append_of_pos hopening]
  simp [quote, quoteChars]

theorem opening_eq_of_message {f g : Fault} (h : f.message = g.message) :
    f.opening = g.opening := by
  rw [← String.toList_inj, ← takeWhile_message, ← takeWhile_message, h]

/-- Two snippets after fixed words can be told from the whole text. -/
theorem snippets_inj {before between a b a' b' : String} :
    before ++ quote a ++ between ++ quote b = before ++ quote a' ++ between ++ quote b' ↔
      a = a' ∧ b = b' := by
  simp only [String.append_assoc, String.append_right_inj, quote_append_inj, quote_inj]

theorem message_inj {f g : Fault} : f.message = g.message ↔ f = g := by
  refine ⟨fun h => ?_, congrArg message⟩
  have hopening := opening_eq_of_message h
  cases f with
  | missingTokens statement =>
    cases g with
    | missingTokens statement' =>
      rw [message_missingTokens, message_missingTokens, String.append_right_inj, quote_inj] at h
      rw [h]
    | _ => exact absurd hopening (by simp [opening])
  | invalidFieldName identifier statement =>
    cases g with
    | invalidFieldName identifier' statement' =>
      obtain ⟨rfl, rfl⟩ := snippets_inj.1 h
      rfl
    | _ => exact absurd hopening (by simp [opening])
  | invalidTypeName typeName statement =>
    cases g with
    | invalidTypeName typeName' statement' =>
      obtain ⟨rfl, rfl⟩ := snippets_inj.1 h
      rfl
    | _ => exact absurd hopening (by simp [opening])
  | duplicateField identifier statement =>
    cases g with
    | duplicateField identifier' statement' =>
      rw [message_duplicateField, message_duplicateField, String.append_left_inj] at h
      obtain ⟨rfl, rfl⟩ := snippets_inj.1 h
      rfl
    | _ => exact absurd hopening (by simp [opening])

/-- A snippet that imitates the words after it is not taken for them. -/
example : (invalidFieldName "a\" in \"b" "c").message ≠
    (invalidFieldName "a" "b\" in \"c").message := by
  rw [Ne, message_inj]
  decide

theorem isPrintable_message (f : Fault) : IsPrintable f.message := by
  cases f <;> simp <;> simp [IsPrintable]

end Fault

/-- Quoted texts are read back, stay on their line and end where they end whatever follows; so a
message stays on one line and determines its fault, with every snippet in it. -/
theorem message_unambiguous :
    (∀ s, parse? (quote s) = some (.string s) ∧ IsPrintable (quote s)) ∧
      (∀ a b x y : String, quote a ++ x = quote b ++ y ↔ a = b ∧ x = y) ∧
      (∀ f g : Fault, f.message = g.message ↔ f = g) ∧
      ∀ f : Fault, IsPrintable f.message :=
  ⟨fun s => ⟨parse?_render (v := .string s) (.string s), isPrintable_quote s⟩,
    fun _ _ _ _ => quote_append_inj, fun _ _ => Fault.message_inj, Fault.isPrintable_message⟩

end RowBinding.Declaration
