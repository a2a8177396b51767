import RowBinding.Proofs.Request.Code
import RowBinding.Proofs.Request.Response

/-!
# What becomes of a request in JSON

The reading of the text, the parts that must not be blank and the block of declarations are looked
at in this order, and the first that is at fault decides. Where none is at fault, the answer holds
the lines for the retained fields and no others.
-/
namespace RowBinding
open Declaration Text

namespace Request

/-- The parts that must not be blank, in the order in which they are looked at, each with the
sentence that asks for it. -/
def demands : Request → List (String × String)
  | .read r => [
      (r.readerId, "ResultSet identifier is required."),
      (r.objectId, "Object identifier is required."),
      (r.fieldsText, "Class fields are required.")]
  | .bind r => [
      (r.writerId, "PreparedStatement identifier is required."),
      (r.objectId, "Object identifier is required."),
      (r.fieldsText, "Class fields are required.")]

/-- The lines for fields. Names and separators stand in them as they were given; a counter alone is
trimmed, where it is written. -/
def lines : Request → List Field → List String
  | .read r, fields =>
    Reading.RowReader.lines
      { reader := r.readerId, object := r.objectId, naming := r.naming.getD {} } fields
  | .bind r, fields =>
    Binding.ParameterWriter.lines
      { writer := r.writerId, object := r.objectId, counter := counterName r.counterId } fields

variable {r : Request}

theorem demands_eq (r : Request) : r.demands =
    [(r.targetId, (RequiredPart.target r.direction).message),
      (r.objectId, RequiredPart.object.message), (r.fieldsText, RequiredPart.fields.message)] := by
  cases r <;> rfl

theorem message_of_blankPart? (r : Request) :
    r.blankPart?.map RequiredPart.message =
      (r.demands.find? fun d => IsBlankText d.1).map Prod.snd := by
  rw [demands_eq, blankPart?]
  by_cases htarget : IsBlankText r.targetId
  · simp [htarget]
  by_cases hobject : IsBlankText r.objectId
  · simp [htarget, hobject]
  by_cases hfields : IsBlankText r.fieldsText <;> simp [htarget, hobject, hfields]

theorem blankPart?_eq_none_iff : r.blankPart? = none ↔ ∀ d ∈ r.demands, ¬IsBlankText d.1 := by
  rw [← Option.map_eq_none_iff (f := RequiredPart.message), message_of_blankPart?,
    Option.map_eq_none_iff, List.find?_eq_none]
  simp

theorem code_eq (r : Request) :
    r.code = (parseRetained r.fieldsText).map fun fields => joinLines (r.lines fields) := by
  cases r <;> rfl

theorem code_eq_ok_iff {code : String} : r.code = .ok code ↔ ∃ fields,
    parse r.fieldsText = .ok fields ∧
      joinLines (r.lines (fields.filter Field.isRetained)) = code := by
  rw [code_eq, map_eq_ok_iff]
  constructor
  · rintro ⟨_, hretained, hcode⟩
    obtain ⟨fields, hfields, rfl⟩ := parseRetained_eq_ok_iff.1 hretained
    exact ⟨fields, hfields, hcode⟩
  · rintro ⟨fields, hfields, hcode⟩
    exact ⟨_, parseRetained_eq_ok_iff.2 ⟨fields, hfields, rfl⟩, hcode⟩

theorem code_eq_error_iff {fault : Fault} :
    r.code = .error fault ↔ parse r.fieldsText = .error fault := by
  rw [code_eq, map_eq_error_iff]
  exact map_eq_error_iff

theorem generate_of_blank {part : RequiredPart} (h : r.blankPart? = some part) :
    r.generate = .error (.blank part) := by
  rw [generate, h]

theorem generate_of_no_blank (h : r.blankPart? = none) :
    r.generate = r.code.mapError .declaration := by
  rw [generate, h]

end Request

variable {text : String}

theorem generateJson_of_error {e : Config.ReadError} (h : Config.readRequest text = .error e) :
    generateJson text = .error (.config e) := by
  rw [generateJson, h]

theorem generateJson_of_ok {r : Request} (h : Config.readRequest text = .ok r) :
    generateJson text = r.generate.map responseText := by
  rw [generateJson, h]

/-- One of four things becomes of a text, and what it is says which part was looked at last. -/
inductive Outcome (text : String) : Except Failure String → Prop
  | unreadable {e : Config.ReadError} : Config.readRequest text = .error e →
      Outcome text (.error (.config e))
  | blank {r : Request} {part : RequiredPart} : Config.readRequest text = .ok r →
      r.blankPart? = some part → Outcome text (.error (.blank part))
  | refused {r : Request} {fault : Fault} : Config.readRequest text = .ok r →
      r.blankPart? = none → r.code = .error fault → Outcome text (.error (.declaration fault))
  | answered {r : Request} {code : String} : Config.readRequest text = .ok r →
      r.blankPart? = none → r.code = .ok code → Outcome text (.ok (responseText code))

theorem outcome_generateJson (text : String) : Outcome text (generateJson text) := by
  cases hread : Config.readRequest text with
  | error e =>
    rw [generateJson_of_error hread]
    exact .unreadable hread
  | ok r =>
    rw [generateJson_of_ok hread]
    cases hblank : r.blankPart? with
    | some part =>
      rw [Request.generate_of_blank hblank]
      exact .blank hread hblank
    | none =>
      rw [Request.generate_of_no_blank hblank]
      cases hcode : r.code with
      | error fault => exact .refused hread hblank hcode
      | ok code => exact .answered hread hblank hcode

theorem Outcome.generateJson_eq {result : Except Failure String} (h : Outcome text result) :
    generateJson text = result := by
  cases h with
  | unreadable hread => rw [generateJson_of_error hread]
  | blank hread hblank =>
    rw [generateJson_of_ok hread, Request.generate_of_blank hblank]
    rfl
  | refused hread hblank hcode | answered hread hblank hcode =>
    rw [generateJson_of_ok hread, Request.generate_of_no_blank hblank, hcode]
    rfl

theorem generateJson_eq_iff {result : Except Failure String} :
    generateJson text = result ↔ Outcome text result :=
  ⟨fun h => h ▸ outcome_generateJson text, Outcome.generateJson_eq⟩

/-- A text that cannot be read as a request gives the error of the reading. Of a request that was
read, the first blank part gives its sentence. Where no part is blank, a fault of the declarations
is returned as it is, and declarations without fault give an answer. It decodes to an object whose
one member is the code: the lines for the retained fields, joined by line breaks. -/
theorem generateJson_outcome (text : String) :
    (∀ e, generateJson text = .error (.config e) ↔ Config.readRequest text = .error e) ∧
    (∀ sentence,
      (∃ part, generateJson text = .error (.blank part) ∧ part.message = sentence) ↔
        ∃ r, Config.readRequest text = .ok r ∧
          (r.demands.find? fun d => IsBlankText d.1).map Prod.snd = some sentence) ∧
    (∀ fault, generateJson text = .error (.declaration fault) ↔
      ∃ r, Config.readRequest text = .ok r ∧ (∀ d ∈ r.demands, ¬IsBlankText d.1) ∧
        parse r.fieldsText = .error fault) ∧
    ∀ out, generateJson text = .ok out ↔
      ∃ r fields code, Config.readRequest text = .ok r ∧ (∀ d ∈ r.demands, ¬IsBlankText d.1) ∧
        parse r.fieldsText = .ok fields ∧
        code = joinLines (r.lines (fields.filter Field.isRetained)) ∧
        out = responseText code ∧
        Json.parse? out = some (.object [("code", .string code)]) := by
  simp only [generateJson_eq_iff]
  refine ⟨fun e => ⟨?_, .unreadable⟩, fun sentence => ⟨?_, ?_⟩, fun fault => ⟨?_, ?_⟩,
    fun out => ⟨?_, ?_⟩⟩
  · rintro ⟨hread⟩
    exact hread
  · rintro ⟨part, ⟨⟩ | @⟨r, _, hread, hblank⟩, rfl⟩
    refine ⟨r, hread, ?_⟩
    rw [← r.message_of_blankPart?, hblank]
    rfl
  · rintro ⟨r, hread, hfirst⟩
    rw [← r.message_of_blankPart?] at hfirst
    obtain ⟨part, hblank, rfl⟩ := Option.map_eq_some_iff.1 hfirst
    exact ⟨part, .blank hread hblank, rfl⟩
  · intro h
    cases h with
    | @refused r _ hread hblank hcode =>
      exact ⟨r, hread, Request.blankPart?_eq_none_iff.1 hblank, Request.code_eq_error_iff.1 hcode⟩
  · rintro ⟨r, hread, hblank, hfault⟩
    exact .refused hread (Request.blankPart?_eq_none_iff.2 hblank)
      (Request.code_eq_error_iff.2 hfault)
  · intro h
    cases h with
    | @answered r code hread hblank hcode =>
      obtain ⟨fields, hfields, hlines⟩ := Request.code_eq_ok_iff.1 hcode
      exact ⟨r, fields, code, hread, Request.blankPart?_eq_none_iff.1 hblank, hfields, hlines.symm,
        rfl, parse?_responseText code⟩
  · rintro ⟨r, fields, code, hread, hblank, hfields, hcode, rfl, -⟩
    exact .answered hread (Request.blankPart?_eq_none_iff.2 hblank)
      (Request.code_eq_ok_iff.2 ⟨fields, hfields, hcode.symm⟩)

end RowBinding
