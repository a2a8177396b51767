import RowBinding.Proofs.Config.StoredRequest
import RowBinding.Proofs.Config.Tagged
import RowBinding.Request.Json

/-!
# The shape of requests in object form

An object is read as a request exactly if the direction and the keys that it requires come once
with a string each, and its optional key comes at most once. The request is determined by the
values of these keys, so members in another order and members with other keys give the same
request. If all that is wrong is that required keys are missing, the first of them is named.
-/
namespace RowBinding.Config
open Json

/-- The members of an object that is read as a request, and the request. -/
def Shaped (members : List (String × Value)) : Request → Prop
  | .read r =>
    valuesOf "direction" members = [.string "reader_to_object"] ∧
    valuesOf "reader_id" members = [.string r.readerId] ∧
    valuesOf "object_id" members = [.string r.objectId] ∧
    valuesOf "fields_text" members = [.string r.fieldsText] ∧
    ReadOptional policyOf (valuesOf "naming" members) r.naming
  | .bind r =>
    valuesOf "direction" members = [.string "object_to_writer"] ∧
    valuesOf "writer_id" members = [.string r.writerId] ∧
    valuesOf "object_id" members = [.string r.objectId] ∧
    valuesOf "fields_text" members = [.string r.fieldsText] ∧
    ReadOptional textOf (valuesOf "counter_id" members) r.counterId

theorem valuesOf_others {key : String} (h : key ≠ "direction") (members : List (String × Value)) :
    valuesOf key (others members) = valuesOf key members :=
  valuesOf_filter (p := fun k => k != "direction") (by simpa using h) members

section Whole
variable {text : String} {members : List (String × Value)}

/-- A request of a direction, from its stored members. -/
def requestOf : Direction → List (String × Value) → Except ReadError Request
  | .readerToObject, stored => (readRequestOf stored).map .read
  | .objectToWriter, stored => (bindRequestOf stored).map .bind

theorem requestIn_of_tagged {shown : List (Option String × Outline)} {d : Direction}
    {stored : List (String × Value)} (h : readTagged none shown = .ok (some d, stored)) :
    requestIn (.object shown .closed) = requestOf d stored := by
  rw [requestIn, h]
  cases d <;> rfl

theorem tagged_of_requestIn {shown : List (Option String × Outline)} {r : Request}
    (h : requestIn (.object shown .closed) = .ok r) :
    ∃ stored, readTagged none shown = .ok (some r.direction, stored) := by
  have hdo := h
  rw [requestIn, bind_eq_ok_iff] at hdo
  obtain ⟨⟨direction, stored⟩, htagged, hdo⟩ := hdo
  cases direction with
  | none => cases hdo
  | some d =>
    rw [requestIn_of_tagged htagged] at h
    cases d with
    | readerToObject | objectToWriter =>
      obtain ⟨q, -, rfl⟩ := map_eq_ok_iff.1 h
      exact ⟨stored, htagged⟩

/-- An object with a direction is read as that direction says. -/
theorem readRequest_of_direction {d : Direction} (h : parse? text = some (.object members))
    (hd : valuesOf "direction" members = [.string d.word]) :
    readRequest text = requestOf d (others members) := by
  obtain ⟨shown, hshown, hmembers⟩ := ofText_of_parse? h
  rw [readRequest, readWhole_of_ofText _ hshown,
    requestIn_of_tagged (readTagged_of_direction hmembers hd)]

theorem direction_of_readRequest {r : Request} (h : parse? text = some (.object members))
    (hr : readRequest text = .ok r) :
    valuesOf "direction" members = [.string r.direction.word] := by
  obtain ⟨shown, hshown, hmembers⟩ := ofText_of_parse? h
  rw [readRequest, readWhole_of_ofText _ hshown] at hr
  obtain ⟨stored, htagged⟩ := tagged_of_requestIn hr
  exact direction_of_readTagged hmembers htagged

theorem readRequest_eq_ok_iff (h : parse? text = some (.object members)) {r : Request} :
    readRequest text = .ok r ↔ Shaped members r := by
  have hstored : valuesOf "direction" members = [.string r.direction.word] →
      (readRequest text = .ok r ↔ Shaped members r) := by
    intro hd
    rw [readRequest_of_direction h hd]
    cases r with
    | read r =>
      have hword : valuesOf "direction" members = [.string "reader_to_object"] := hd
      simp [Request.direction, requestOf, map_eq_ok_iff, readRequestOf_eq_ok_iff,
        valuesOf_others, Shaped, hword]
    | bind r =>
      have hword : valuesOf "direction" members = [.string "object_to_writer"] := hd
      simp [Request.direction, requestOf, map_eq_ok_iff, bindRequestOf_eq_ok_iff,
        valuesOf_others, Shaped, hword]
  constructor
  · intro hr
    exact (hstored (direction_of_readRequest h hr)).1 hr
  · intro hr
    have hd : valuesOf "direction" members = [.string r.direction.word] := by
      cases r with
      | read r | bind r => exact hr.1
    exact (hstored hd).2 hr

theorem ne_direction_of_required {d : Direction} {key : String} (h : key ∈ requiredKeys d) :
    key ≠ "direction" := by
  rintro rfl
  cases d <;> exact absurd h (by decide)

/-- If required keys are missing and all other known keys are as they should be, the first that
is missing is named. -/
theorem readRequest_of_missing {d : Direction} {key : String}
    (h : parse? text = some (.object members))
    (hd : valuesOf "direction" members = [.string d.word])
    (htexts : ∀ k ∈ requiredKeys d, TextIfGiven members k) (hoptional : OptionalReadable members d)
    (hfirst : (requiredKeys d).find? (fun k => (valuesOf k members).isEmpty) = some key) :
    readRequest text = .error (.missingField key) := by
  have htexts' : ∀ k ∈ requiredKeys d, TextIfGiven (others members) k := by
    intro k hk
    rw [TextIfGiven, valuesOf_others (ne_direction_of_required hk)]
    exact htexts k hk
  have hfirst' : (requiredKeys d).find? (fun k => (valuesOf k (others members)).isEmpty) =
      some key := by
    cases d <;> simpa [requiredKeys, valuesOf_others] using hfirst
  rw [readRequest_of_direction h hd, requestOf.eq_def]
  cases d with
  | readerToObject =>
    have hoptional' : OptionalReadable (others members) .readerToObject := by
      simpa [OptionalReadable, valuesOf_others] using hoptional
    exact map_eq_error_iff.2 (readRequestOf_of_missing htexts' hoptional' hfirst')
  | objectToWriter =>
    have hoptional' : OptionalReadable (others members) .objectToWriter := by
      simpa [OptionalReadable, valuesOf_others] using hoptional
    exact map_eq_error_iff.2 (bindRequestOf_of_missing htexts' hoptional' hfirst')

end Whole

/-- The keys that a request of a direction may have. -/
def knownKeys : Direction → List String
  | .readerToObject => ["direction", "reader_id", "object_id", "fields_text", "naming"]
  | .objectToWriter => ["direction", "writer_id", "object_id", "fields_text", "counter_id"]

/-- The members with keys that a request of a direction may have. -/
def knownMembers (d : Direction) (members : List (String × Value)) : List (String × Value) :=
  members.filter fun m => (knownKeys d).contains m.1

section Order
variable {members members' : List (String × Value)} {d : Direction} {r : Request}

theorem valuesOf_perm_of_known (h : (knownMembers d members).Perm (knownMembers d members'))
    {key : String} (hkey : key ∈ knownKeys d) :
    (valuesOf key members).Perm (valuesOf key members') := by
  have hcontains : (knownKeys d).contains key = true := List.contains_iff_mem.2 hkey
  have hvalues := valuesOf_perm h key
  rwa [knownMembers, knownMembers, valuesOf_filter (p := (knownKeys d).contains) hcontains,
    valuesOf_filter (p := (knownKeys d).contains) hcontains] at hvalues

theorem ReadOptional.of_perm {β : Type} {read : Value → Except ReadError β} {vs vs' : List Value}
    {b : Option β} (h : ReadOptional read vs b) (hperm : vs.Perm vs') :
    ReadOptional read vs' b := by
  cases h with
  | absent =>
    rw [List.nil_perm.1 hperm]
    exact .absent
  | null =>
    rw [← List.singleton_perm.1 hperm]
    exact .null
  | present hv =>
    rw [← List.singleton_perm.1 hperm]
    exact .present hv

/-- The shape of an object depends on the members with known keys, not on their order. -/
theorem Shaped.of_perm (h : Shaped members r)
    (hperm : (knownMembers r.direction members).Perm (knownMembers r.direction members')) :
    Shaped members' r := by
  have hvalues : ∀ key ∈ knownKeys r.direction,
      (valuesOf key members).Perm (valuesOf key members') :=
    fun key hkey => valuesOf_perm_of_known hperm hkey
  have hone {key : String} {v : Value} (hv : valuesOf key members = [v])
      (hperm : (valuesOf key members).Perm (valuesOf key members')) :
      valuesOf key members' = [v] := by
    rw [hv] at hperm
    exact (List.singleton_perm.1 hperm).symm
  cases r with
  | read r =>
    obtain ⟨hd, ha, hb, hc, hnaming⟩ := h
    simp only [Request.direction, knownKeys, List.forall_mem_cons] at hvalues
    obtain ⟨hd', ha', hb', hc', hnaming', -⟩ := hvalues
    exact ⟨hone hd hd', hone ha ha', hone hb hb', hone hc hc', hnaming.of_perm hnaming'⟩
  | bind r =>
    obtain ⟨hd, ha, hb, hc, hcounter⟩ := h
    simp only [Request.direction, knownKeys, List.forall_mem_cons] at hvalues
    obtain ⟨hd', ha', hb', hc', hcounter', -⟩ := hvalues
    exact ⟨hone hd hd', hone ha ha', hone hb hb', hone hc hc', hcounter.of_perm hcounter'⟩

end Order

/-- An object is read as a request exactly if it has the shape of that request. The order of its
members and members with other keys do not matter, and if required keys are missing from it the
first of them is named. -/
theorem readRequest_of_object {text : String} {members : List (String × Value)}
    (h : parse? text = some (.object members)) :
    (∀ r, readRequest text = .ok r ↔ Shaped members r) ∧
    (∀ r text' members', parse? text' = some (.object members') →
      (knownMembers r.direction members).Perm (knownMembers r.direction members') →
      readRequest text = .ok r →
        readRequest text' = .ok r ∧ generateJson text' = generateJson text) ∧
    ∀ d key, valuesOf "direction" members = [.string d.word] →
      (∀ k ∈ requiredKeys d, TextIfGiven members k) → OptionalReadable members d →
      (requiredKeys d).find? (fun k => (valuesOf k members).isEmpty) = some key →
        readRequest text = .error (.missingField key) := by
  refine ⟨fun r => readRequest_eq_ok_iff h, ?_, fun d key => readRequest_of_missing h⟩
  intro r text' members' h' hperm hr
  have hr' : readRequest text' = .ok r :=
    (readRequest_eq_ok_iff h').2 (((readRequest_eq_ok_iff h).1 hr).of_perm hperm)
  refine ⟨hr', ?_⟩
  rw [generateJson, generateJson, hr, hr']

theorem readRequest_of_object_in_other_order :
    let members : List (String × Value) := [
      ("note", .null), ("fields_text", .string "private long id;"), ("counter_id", .bool true),
      ("direction", .string "reader_to_object"), ("note", .array []),
      ("object_id", .string "person"), ("naming", .null), ("reader_id", .string "row")]
    let text := (Value.object members).render
    parse? text = some (.object members) ∧
      readRequest text = .ok (.read ⟨"row", "person", "private long id;", none⟩) := by
  intro members text
  have hplain : (Value.object members).Plain depthLimit := by
    apply Value.Plain.object
    simp only [members, List.forall_mem_cons]
    exact ⟨.null, .string _, .bool _, .string _, .array (by simp), .string _, .null, .string _,
      by simp⟩
  have hparse : parse? text = some (.object members) := parse?_render hplain
  refine ⟨hparse, ((readRequest_of_object hparse).1 _).2 ⟨?_, ?_, ?_, ?_, ?_⟩⟩
  · rfl
  · rfl
  · rfl
  · rfl
  · exact .null

end RowBinding.Config
