import RowBinding.Config.Request
import RowBinding.Proofs.Config.Members
import RowBinding.Proofs.Json.Rendering

/-!
# Written requests and policies read back

A written policy has its four parts in the order of the keys, and a written request has the
direction first and leaves out what is absent. Read again, either gives what was written. The
parts of a request are stored before they are looked at, so its policy is read by the rules for
stored values, and a policy in a text of its own by those for outlines.
-/
namespace RowBinding.Config
open Column Json

theorem ofWord?_word_columnCase (c : ColumnCase) : ColumnCase.ofWord? c.word = some c := by
  cases c <;> decide

theorem ofWord?_word_direction (d : Direction) : Direction.ofWord? d.word = some d := by
  cases d <;> decide

theorem ofName?_name (key : PolicyKey) : PolicyKey.ofName? key.name = some key := by
  cases key <;> decide

theorem caseNamed_word (c : ColumnCase) : caseNamed c.word = .ok c := by
  rw [caseNamed, ofWord?_word_columnCase]

theorem directionNamed_word (d : Direction) : directionNamed d.word = .ok d := by
  rw [directionNamed, ofWord?_word_direction]

/-- A reader that reads the written parts of a policy reads the written policy. -/
theorem policyOfMembers_written {α : Type} (r : PartReader α) {p : NamingPolicy} {g u s c : α}
    (hg : r.truthValue g = .ok p.generateNames) (hu : r.truthValue u = .ok p.useSeparator)
    (hs : r.text s = .ok p.separator) (hc : r.columnCase c = .ok p.columnCase) :
    r.policyOfMembers [
      (some PolicyKey.generateNames.name, g), (some PolicyKey.useSeparator.name, u),
      (some PolicyKey.separator.name, s), (some PolicyKey.columnCase.name, c)] = .ok p := by
  have hkey (key : PolicyKey) : (PolicyKey.ofName? key.name).map r.part = some (r.part key) := by
    rw [ofName?_name, Option.map_some]
  have hpart : r.part .generateNames g = .ok (.generateNames p.generateNames) ∧
      r.part .useSeparator u = .ok (.useSeparator p.useSeparator) ∧
      r.part .separator s = .ok (.separator p.separator) ∧
      r.part .columnCase c = .ok (.columnCase p.columnCase) := by
    simp only [PartReader.part, hg, hu, hs, hc, Except.map, and_self]
  obtain ⟨hg', hu', hs', hc'⟩ := hpart
  rw [PartReader.policyOfMembers, readMembers_known (hkey _) (by decide) hg',
    readMembers_known (hkey _) (by decide) hu', readMembers_known (hkey _) (by decide) hs',
    readMembers_known (hkey _) (by decide) hc']
  rfl

theorem policyOf_policyValue (p : NamingPolicy) : policyOf (policyValue p) = .ok p :=
  policyOfMembers_written storedParts rfl rfl rfl (caseNamed_word p.columnCase)

theorem plain_policyValue (p : NamingPolicy) : (policyValue p).Plain 1 := by
  apply Value.Plain.object
  simp only [List.forall_mem_cons, List.not_mem_nil, false_imp_iff, implies_true, and_true]
  exact ⟨.bool _, .bool _, .string _, .string _⟩

theorem policyIn_outline_policyValue (p : NamingPolicy) :
    policyIn (policyValue p).outline = .ok p := by
  have hread := policyOfMembers_written shownParts (p := p) (g := .bool p.generateNames)
    (u := .bool p.useSeparator) (s := .string (some p.separator))
    (c := .string (some p.columnCase.word)) rfl rfl rfl (caseNamed_word p.columnCase)
  simp only [policyValue, Value.outline, memberOutlines, policyIn, hread, if_true]

theorem store_outline {v : Value} (h : v.Plain (depthLimit - 1)) : store v.outline = .ok v := by
  rw [store, h.value?_outline]

/-- Members other than the direction are stored as they were written. -/
theorem readTagged_memberOutlines (direction : Option Direction) {ms : List (String × Value)}
    (hkey : ∀ m ∈ ms, m.1 ≠ "direction") (hplain : ∀ m ∈ ms, m.2.Plain (depthLimit - 1)) :
    readTagged direction (memberOutlines ms) = .ok (direction, ms) := by
  induction ms with
  | nil => rfl
  | cons m ms ih =>
    obtain ⟨key, v⟩ := m
    have hk : key ≠ "direction" := hkey (key, v) List.mem_cons_self
    have hv : v.Plain (depthLimit - 1) := hplain (key, v) List.mem_cons_self
    have htail := ih (fun m hm => hkey m (List.mem_cons_of_mem _ hm))
      fun m hm => hplain m (List.mem_cons_of_mem _ hm)
    simp only [memberOutlines, readTagged, if_neg hk, store_outline hv, htail]

theorem optionalPolicyOf_policyValue (p : NamingPolicy) :
    optionalPolicyOf (policyValue p) = .ok (some p) := by
  have hpresent : optionalPolicyOf (policyValue p) = (policyOf (policyValue p)).map some := rfl
  rw [hpresent, policyOf_policyValue]
  rfl

def requestMembers : Request → List (String × Value)
  | .read r => [
      ("reader_id", .string r.readerId),
      ("object_id", .string r.objectId),
      ("fields_text", .string r.fieldsText)]
      ++ (r.naming.map fun p => ("naming", policyValue p)).toList
  | .bind r => [
      ("writer_id", .string r.writerId),
      ("object_id", .string r.objectId),
      ("fields_text", .string r.fieldsText)]
      ++ (r.counterId.map fun c => ("counter_id", Value.string c)).toList

theorem requestValue_eq (r : Request) :
    requestValue r = .object (("direction", .string r.direction.word) :: requestMembers r) := by
  cases r <;> rfl

theorem requestMembers_key (r : Request) : ∀ m ∈ requestMembers r, m.1 ≠ "direction" := by
  cases r with
  | read r => cases hn : r.naming <;> simp [requestMembers, hn]
  | bind r => cases hc : r.counterId <;> simp [requestMembers, hc]

theorem requestMembers_plain (r : Request) : ∀ m ∈ requestMembers r, m.2.Plain 1 := by
  cases r with
  | read r =>
    cases hn : r.naming <;> simp [requestMembers, hn, Value.Plain.string, plain_policyValue]
  | bind r => cases hc : r.counterId <;> simp [requestMembers, hc, Value.Plain.string]

theorem plain_requestValue (r : Request) : (requestValue r).Plain 2 := by
  rw [requestValue_eq]
  apply Value.Plain.object
  intro m hm
  rcases List.mem_cons.1 hm with hm | hm
  · subst m
    exact .string _
  · exact requestMembers_plain r m hm

theorem readRequestOf_requestMembers (r : ReadRequest) :
    readRequestOf (requestMembers (.read r)) = .ok r := by
  obtain ⟨reader, object, fields, naming⟩ := r
  cases naming with
  | none => rfl
  | some p =>
    have hpolicy : readMembers readRequestPolicy []
        (asRead (requestMembers (.read ⟨reader, object, fields, some p⟩))) =
          .ok [("naming", some p)] := by
      simp only [requestMembers, Option.map_some, Option.toList_some, List.cons_append,
        List.nil_append, asRead, List.map_cons, List.map_nil]
      rw [readMembers_unknown rfl, readMembers_unknown rfl, readMembers_unknown rfl,
        readMembers_known rfl List.not_mem_nil (optionalPolicyOf_policyValue p)]
      rfl
    rw [readRequestOf, hpolicy]
    rfl

theorem bindRequestOf_requestMembers (r : BindRequest) :
    bindRequestOf (requestMembers (.bind r)) = .ok r := by
  obtain ⟨writer, object, fields, counter⟩ := r
  cases counter <;> rfl

theorem requestIn_outline_requestValue (r : Request) :
    requestIn (requestValue r).outline = .ok r := by
  have htagged : readTagged none (memberOutlines
      (("direction", .string r.direction.word) :: requestMembers r)) =
        .ok (some r.direction, requestMembers r) := by
    have hdirection : directionIn (Value.string r.direction.word).outline = .ok r.direction :=
      directionNamed_word r.direction
    have hmembers := readTagged_memberOutlines (some r.direction)
      (requestMembers_key r) fun m hm => (requestMembers_plain r m hm).mono (by decide)
    simp only [memberOutlines, readTagged, if_true, hdirection, hmembers]
  rw [requestValue_eq, Value.outline, requestIn, htagged]
  cases r with
  | read r => exact congrArg (Except.map Request.read) (readRequestOf_requestMembers r)
  | bind r => exact congrArg (Except.map Request.bind) (bindRequestOf_requestMembers r)

theorem readWhole_of_ofText {α : Type} (read : Outline → Except ReadError α) {text : String}
    {root : Outline} (h : Outline.ofText text = (root, true)) :
    readWhole read text = read root := by
  rw [readWhole, h]
  cases hread : read root <;> simp only [hread, if_true]

theorem readWhole_eq_ok_iff {α : Type} {read : Outline → Except ReadError α} {text : String}
    {a : α} : readWhole read text = .ok a ↔
      ∃ root, Outline.ofText text = (root, true) ∧ read root = .ok a := by
  obtain ⟨root, ends, hroot⟩ : ∃ root ends, Outline.ofText text = (root, ends) := ⟨_, _, rfl⟩
  cases ends with
  | true =>
    rw [readWhole_of_ofText read hroot, hroot]
    simp
  | false =>
    simp only [readWhole, hroot]
    cases read root <;> simp

theorem readWhole_render {α : Type} (read : Outline → Except ReadError α) {depth : Nat}
    {v : Value} (h : v.Plain depth) : readWhole read v.render = read v.outline :=
  readWhole_of_ofText read h.ofText_render

theorem readRequest_writeRequest (r : Request) : readRequest (writeRequest r) = .ok r := by
  rw [readRequest, writeRequest, readWhole_render _ (plain_requestValue r)]
  exact requestIn_outline_requestValue r

theorem readPolicy_writePolicy (p : NamingPolicy) : readPolicy (writePolicy p) = .ok p := by
  rw [readPolicy, writePolicy, readWhole_render _ (plain_policyValue p)]
  exact policyIn_outline_policyValue p

/-- Every request and every policy is read back from its written form. -/
theorem read_written :
    (∀ r : Request, readRequest (writeRequest r) = .ok r) ∧
      ∀ p : NamingPolicy, readPolicy (writePolicy p) = .ok p :=
  ⟨readRequest_writeRequest, readPolicy_writePolicy⟩

end RowBinding.Config
