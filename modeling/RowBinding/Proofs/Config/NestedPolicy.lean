import RowBinding.Proofs.Config.Policies
import RowBinding.Proofs.Config.Shape
import RowBinding.Proofs.Json.Nested

/-!
# Policies inside requests

A policy in a text of its own is read as the text goes on, and a policy inside a request from the
value that was stored for it. Part by part the two readers accept the same values, except that
they look at different things where the column case is an object. So otherwise a policy means the
same in both places, with the same defaults for what is left out. Only null differs: it is no policy
by itself, and inside a request it stands for the absence of one.
-/
namespace RowBinding.Config
open Column Json

section Parts
variable {o : Outline} {depth : Nat} {v : Value}

theorem truthValueIn_eq_ok {b : Bool} : truthValueIn o = .ok b ↔ o = .bool b := by
  cases o <;> simp [truthValueIn]

theorem truthValueIn_eq_ok_iff (hv : o.value? depth = some v) {b : Bool} :
    truthValueIn o = .ok b ↔ truthValueOf v = .ok b := by
  have hof : truthValueOf v = .ok b ↔ v = .bool b := by
    cases v <;> simp [truthValueOf]
  rw [truthValueIn_eq_ok, hof, ← @value?_eq_bool_iff _ depth, hv, Option.some.injEq]

theorem textIn_eq_ok {s : String} : textIn o = .ok s ↔ o = .string (some s) := by
  cases o with
  | string content => cases content <;> simp [textIn]
  | _ => simp [textIn]

theorem textIn_eq_ok_iff (hv : o.value? depth = some v) {s : String} :
    textIn o = .ok s ↔ textOf v = .ok s := by
  rw [textIn_eq_ok, textOf_eq_ok_iff, ← @value?_eq_string_iff _ depth, hv, Option.some.injEq]

/-- Both take the case from a word, and from nothing else but an object. -/
theorem caseIn_eq_ok_iff (hv : o.value? depth = some v) (hobject : ∀ members, v ≠ .object members)
    {c : ColumnCase} : caseIn o = .ok c ↔ caseOf v = .ok c := by
  have hof : caseOf v = .ok c ↔ ∃ word, v = .string word ∧ caseNamed word = .ok c := by
    cases v with
    | object members => exact absurd rfl (hobject members)
    | _ => simp [caseOf]
  have hin : caseIn o = .ok c ↔ ∃ word, o = .string (some word) ∧ caseNamed word = .ok c := by
    cases o with
    | string content => cases content <;> simp [caseIn]
    | object shown ending =>
      obtain ⟨members, rfl⟩ := exists_eq_object_of_value? hv
      exact absurd rfl (hobject members)
    | _ => simp [caseIn]
  rw [hin, hof]
  refine exists_congr fun word => and_congr_left fun _ => ?_
  rw [← @value?_eq_string_iff _ depth, hv, Option.some.injEq]

theorem part_eq_ok_iff (hv : o.value? depth = some v) {key : PolicyKey}
    (hcase : key = .columnCase → ∀ members, v ≠ .object members) {b : PolicyPart} :
    shownParts.part key o = .ok b ↔ storedParts.part key v = .ok b :=
  PartReader.part_congr (fun _ => truthValueIn_eq_ok_iff hv) (fun _ => textIn_eq_ok_iff hv)
    fun hkey _ => caseIn_eq_ok_iff hv (hcase hkey)

/-- The values for a key, shown and stored, are read once as the same part. -/
theorem readOnce_part_iff {key : PolicyKey} {os : List Outline} {vs : List Value}
    (h : List.Forall₂ (fun o v => o.value? depth = some v) os vs)
    (hcase : key = .columnCase → ∀ members, vs ≠ [.object members]) {found : Option PolicyPart} :
    ReadOnce (shownParts.part key) os found ↔ ReadOnce (storedParts.part key) vs found := by
  refine readOnce_iff_of_forall₂ h fun o v b hv hvs => part_eq_ok_iff hv ?_
  rintro hkey members rfl
  exact hcase hkey members hvs

end Parts

/-- The members of a policy: those of an object, and the items of an array under the keys in
their order. -/
def policyMembers : Value → List (String × Value)
  | .object members => members
  | .array items => named PolicyKey.all items
  | _ => []

section Members
variable {depth : Nat} {given : List (String × Outline)} {members : List (String × Value)}
  {p : NamingPolicy}

theorem exists_eq_keyed {shown : List (Option String × Outline)}
    (h : List.Forall₂ (ShowsMember depth) shown members) : ∃ given, shown = keyed given := by
  induction h with
  | nil => exact ⟨[], rfl⟩
  | @cons s m shown members hs _ ih =>
    obtain ⟨given, rfl⟩ := ih
    obtain ⟨_, o⟩ := s
    obtain ⟨rfl, -⟩ := hs
    exact ⟨(m.1, o) :: given, rfl⟩

theorem forall₂_valuesOf (h : List.Forall₂ (ShowsMember depth) (keyed given) members)
    (key : String) :
    List.Forall₂ (fun o v => o.value? depth = some v) (valuesOf key given)
      (valuesOf key members) := by
  induction given generalizing members with
  | nil =>
    cases h
    exact .nil
  | cons g given ih =>
    cases h with
    | @cons _ m _ members hm htail =>
      obtain ⟨name, v⟩ := m
      obtain ⟨name', o⟩ := g
      obtain ⟨heq, hv⟩ := hm
      cases heq
      by_cases hname : name = key
      · subst name
        rw [valuesOf_cons_self, valuesOf_cons_self]
        exact .cons hv (ih htail)
      · rw [valuesOf_cons_of_ne hname, valuesOf_cons_of_ne hname]
        exact ih htail

theorem forall₂_named {shown : List Outline} {items : List Value}
    (h : List.Forall₂ (fun o v => o.value? depth = some v) shown items) (keys : List PolicyKey) :
    List.Forall₂ (ShowsMember depth) (keyed (named keys shown)) (named keys items) := by
  induction h generalizing keys with
  | nil => cases keys <;> exact .nil
  | cons hv _ ih =>
    cases keys with
    | nil => exact .nil
    | cons key keys => exact .cons ⟨rfl, hv⟩ (ih keys)

theorem policyOfMembers_shown_iff (h : List.Forall₂ (ShowsMember depth) (keyed given) members)
    (hcase : ∀ ms, valuesOf PolicyKey.columnCase.name members ≠ [.object ms]) :
    shownParts.policyOfMembers (keyed given) = .ok p ↔
      storedParts.policyOfMembers (keyed members) = .ok p := by
  rw [PartReader.policyOfMembers_eq_ok_iff, PartReader.policyOfMembers_eq_ok_iff]
  refine forall_congr' fun key => exists_congr fun found => and_congr_left fun _ => ?_
  refine readOnce_part_iff (forall₂_valuesOf h key.name) ?_
  rintro rfl
  exact hcase

end Members

section Whole
variable {p : NamingPolicy}

theorem policyIn_object_eq_ok_iff {shown : List (Option String × Outline)} {ending : Ending} :
    policyIn (.object shown ending) = .ok p ↔
      shownParts.policyOfMembers shown = .ok p ∧ ending = .closed := by
  rw [policyIn]
  cases shownParts.policyOfMembers shown with
  | error e => simp
  | ok q => cases ending <;> simp

theorem policyIn_array_eq_ok_iff {shown : List Outline} {ending : Ending} :
    policyIn (.array shown ending) = .ok p ↔
      shownParts.policyOfItems shown = .ok p ∧ shown.length ≤ 4 ∧ ending = .closed := by
  rw [policyIn]
  cases shownParts.policyOfItems shown with
  | error e => simp
  | ok q => by_cases hlength : shown.length ≤ 4 <;> cases ending <;> simp [hlength]

theorem policyOf_array_eq_ok_iff {items : List Value} : policyOf (.array items) = .ok p ↔
    storedParts.policyOfItems items = .ok p ∧ items.length ≤ 4 := by
  rw [policyOf]
  cases storedParts.policyOfItems items with
  | error e => simp
  | ok q => by_cases hlength : items.length ≤ 4 <;> simp [hlength]

variable {o : Outline} {depth : Nat} {v : Value}

theorem policyIn_eq_ok_iff (hv : o.value? (depth + 1) = some v)
    (hcase : ∀ ms, valuesOf PolicyKey.columnCase.name (policyMembers v) ≠ [.object ms]) :
    policyIn o = .ok p ↔ policyOf v = .ok p := by
  cases v with
  | object members =>
    obtain ⟨shown, rfl, hshown⟩ := members_of_value? hv
    obtain ⟨given, rfl⟩ := exists_eq_keyed hshown
    rw [policyIn_object_eq_ok_iff, and_iff_left rfl]
    exact policyOfMembers_shown_iff hshown hcase
  | array items =>
    obtain ⟨shown, rfl, hshown⟩ := items_of_value? hv
    rw [policyIn_array_eq_ok_iff, and_iff_left rfl, policyOf_array_eq_ok_iff,
      PartReader.policyOfItems_eq, PartReader.policyOfItems_eq, hshown.length_eq]
    exact and_congr_left fun _ => policyOfMembers_shown_iff (forall₂_named hshown _) hcase
  | _ =>
    have hshown : policyIn o ≠ .ok p := by
      cases o with
      | array shown ending =>
        obtain ⟨items, heq⟩ := exists_eq_array_of_value? hv
        cases heq
      | object shown ending =>
        obtain ⟨members, heq⟩ := exists_eq_object_of_value? hv
        cases heq
      | _ => exact nofun
    exact iff_of_false hshown nofun

/-- The case with an empty object beside it is stored as the case, and refused in a text. -/
example : let v : Value := .object [("column_case", .object [("lower", .object [])])]
    policyOf v = .ok { columnCase := .lower } ∧
      policyIn v.outline = .error (.wrongType .map .nothing) := ⟨rfl, rfl⟩

end Whole

/-- The text is a request to read rows with these three texts, and with `v` as its policy. -/
def AsksWith (readerId objectId fieldsText : String) (v : Value) (request : String) : Prop :=
  ∃ members, parse? request = some (.object members) ∧
    valuesOf "direction" members = [.string "reader_to_object"] ∧
    valuesOf "reader_id" members = [.string readerId] ∧
    valuesOf "object_id" members = [.string objectId] ∧
    valuesOf "fields_text" members = [.string fieldsText] ∧
    valuesOf "naming" members = [v]

/-- The request to read rows with these three texts and with a text in the place of its policy. -/
def requestAround (readerId objectId fieldsText text : String) : String :=
  objectWith [
    ("direction", .string "reader_to_object"), ("reader_id", .string readerId),
    ("object_id", .string objectId), ("fields_text", .string fieldsText)] "naming" text

section Requests
variable {a b c text request : String} {v : Value}

theorem asksWith_requestAround (h : valueWithin? (depthLimit - 1) text = some v) (a b c : String) :
    AsksWith a b c v (requestAround a b c text) := by
  refine ⟨_, (parse?_eq _).trans (valueWithin?_objectWith ?_ h "naming"), rfl, rfl, rfl, rfl, rfl⟩
  simp [Value.Plain.string]

theorem readRequest_of_asksWith (h : AsksWith a b c v request) {r : Request} :
    readRequest request = .ok r ↔
      v = .null ∧ r = .read ⟨a, b, c, none⟩ ∨
        ∃ p, policyOf v = .ok p ∧ r = .read ⟨a, b, c, some p⟩ := by
  obtain ⟨members, hparse, hdirection, hreader, hobject, hfields, hnaming⟩ := h
  rw [readRequest_eq_ok_iff hparse]
  cases r with
  | bind r => simp [Shaped, hdirection]
  | read r =>
    obtain ⟨a', b', c', q⟩ := r
    simp only [Shaped, hdirection, hreader, hobject, hfields, hnaming, readOptional_singleton_iff,
      List.cons.injEq, Value.string.injEq, and_true, true_and, Request.read.injEq,
      ReadRequest.mk.injEq]
    constructor
    · rintro ⟨rfl, rfl, rfl, ⟨hnull, rfl⟩ | ⟨p, hp, rfl⟩⟩
      · exact .inl ⟨hnull, rfl, rfl, rfl, rfl⟩
      · exact .inr ⟨p, hp, rfl, rfl, rfl, rfl⟩
    · rintro (⟨hnull, rfl, rfl, rfl, rfl⟩ | ⟨p, hp, rfl, rfl, rfl, rfl⟩)
      · exact ⟨rfl, rfl, rfl, .inl ⟨hnull, rfl⟩⟩
      · exact ⟨rfl, rfl, rfl, .inr ⟨p, hp, rfl⟩⟩

theorem exists_error_iff {α : Type} {x : Except ReadError α} :
    (∃ e, x = .error e) ↔ ∀ a, x ≠ .ok a := by
  cases x <;> simp

/-- A policy means the same in a text of its own and inside a request, unless it gives the column
case as an object. Null is refused by itself and stands for no policy inside a request. -/
theorem readPolicy_eq_ok_iff_in_request (hwithin : valueWithin? (depthLimit - 1) text = some v)
    (hcase : ∀ ms, valuesOf "column_case" (policyMembers v) ≠ [.object ms]) (a b c : String) :
    AsksWith a b c v (requestAround a b c text) ∧
    ∀ request, AsksWith a b c v request →
      (∀ p, readPolicy text = .ok p ↔ readRequest request = .ok (.read ⟨a, b, c, some p⟩)) ∧
      (v ≠ .null →
        ((∃ e, readPolicy text = .error e) ↔ ∃ e, readRequest request = .error e)) ∧
      (v = .null → (∃ e, readPolicy text = .error e) ∧
        readRequest request = .ok (.read ⟨a, b, c, none⟩)) := by
  obtain ⟨o, ho, hv⟩ := valueWithin?_eq_some_iff.1 hwithin
  have hdepth : depthLimit - 1 = depthLimit - 2 + 1 := rfl
  rw [hdepth] at hv
  have hpolicy (p : NamingPolicy) : readPolicy text = .ok p ↔ policyOf v = .ok p := by
    rw [readPolicy, readWhole_of_ofText _ ho]
    exact policyIn_eq_ok_iff hv hcase
  refine ⟨asksWith_requestAround hwithin a b c, fun request hrequest => ⟨fun p => ?_, ?_, ?_⟩⟩
  · rw [hpolicy, readRequest_of_asksWith hrequest]
    simp
  · intro hnull
    rw [exists_error_iff, exists_error_iff]
    constructor
    · intro hrefused r hr
      obtain ⟨heq, -⟩ | ⟨p, hp, -⟩ := (readRequest_of_asksWith hrequest).1 hr
      · exact hnull heq
      · exact hrefused p ((hpolicy p).2 hp)
    · intro hrefused p hp
      exact hrefused _ ((readRequest_of_asksWith hrequest).2 (.inr ⟨p, (hpolicy p).1 hp, rfl⟩))
  · rintro rfl
    refine ⟨exists_error_iff.2 fun p hp => ?_,
      (readRequest_of_asksWith hrequest).2 (.inl ⟨rfl, rfl⟩)⟩
    cases (hpolicy p).1 hp

theorem readPolicy_eq_ok_iff_in_request_with_other_keys :
    let v : Value := .object [("note", .null), ("column_case", .string "lower"),
      ("note", .array [.bool false]), ("use_separator", .bool true)]
    let p : NamingPolicy := { useSeparator := true, columnCase := .lower }
    valueWithin? (depthLimit - 1) v.render = some v ∧ readPolicy v.render = .ok p ∧
      readRequest (requestAround "row" "person" "private long id;" v.render) =
        .ok (.read ⟨"row", "person", "private long id;", some p⟩) := by
  intro v p
  have hplain : v.Plain (depthLimit - 1) := by
    apply Value.Plain.object
    simp only [List.forall_mem_cons]
    exact ⟨.null, .string _, .array (by simp [Value.Plain.bool]), .bool _, by simp⟩
  have hwithin : valueWithin? (depthLimit - 1) v.render = some v :=
    valueWithin?_eq_some_iff.2 ⟨_, hplain.ofText_render, hplain.value?_outline⟩
  have hread : readPolicy v.render = .ok p := by
    rw [readPolicy, readWhole_render _ hplain]
    rfl
  have hcase : ∀ ms, valuesOf "column_case" (policyMembers v) ≠ [.object ms] := by
    have hgiven : valuesOf "column_case" (policyMembers v) = [.string "lower"] := rfl
    simp [hgiven]
  obtain ⟨hasks, hsame⟩ :=
    readPolicy_eq_ok_iff_in_request hwithin hcase "row" "person" "private long id;"
  exact ⟨hwithin, hread, ((hsame _ hasks).1 p).1 hread⟩

end Requests

end RowBinding.Config
