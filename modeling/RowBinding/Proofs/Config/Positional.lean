import RowBinding.Proofs.Config.NestedPolicy

/-!
# Values in order and values under keys

What an array gives in order an object gives under the keys, with its members in any order. A
request to bind parameters is read from the array of its direction, its three texts and perhaps
the counter as it is read from the object, and no array with fewer or more values is read. A policy
is read from an array of at most four values as from the object that gives these values the first
so many of the keys, in a text of its own and inside a request.
-/
namespace RowBinding.Config
open Column Json

theorem mapM_eq_ok_iff {ε α β : Type} {f : α → Except ε β} {xs : List α} {ys : List β} :
    xs.mapM f = .ok ys ↔ List.Forall₂ (fun x y => f x = .ok y) xs ys := by
  induction xs generalizing ys with
  | nil =>
    rw [List.mapM_nil, List.forall₂_nil_left_iff]
    simp [pure, Except.pure, eq_comm]
  | cons x xs ih =>
    simp only [List.mapM_cons, bind_eq_ok_iff, ih, pure, Except.pure, Except.ok.injEq,
      List.forall₂_cons_left_iff]
    constructor
    · rintro ⟨y, hy, ys', hys, rfl⟩
      exact ⟨y, ys', hy, hys, rfl⟩
    · rintro ⟨y, ys', hy, hys, rfl⟩
      exact ⟨y, hy, ys', hys, rfl⟩

/-- A text, or null for none. -/
def textOrNull : Option String → Value
  | none => .null
  | some s => .string s

/-- The values of a request to bind parameters in order. The counter may be left out or null. -/
def bindItems (writer object fields : String) (counter : Option (Option String)) : List Value :=
  [.string "object_to_writer", .string writer, .string object, .string fields]
    ++ (counter.map textOrNull).toList

/-- The same values under their keys. -/
def bindMembers (writer object fields : String) (counter : Option (Option String)) :
    List (String × Value) :=
  ["direction", "writer_id", "object_id", "fields_text", "counter_id"].zip
    (bindItems writer object fields counter)

theorem optionalTextOf_eq_ok_iff {v : Value} {t : Option String} :
    optionalTextOf v = .ok t ↔ v = textOrNull t := by
  cases v <;> cases t <;> simp [optionalTextOf, textOf, textOrNull, Except.map]

theorem bindRequestOfItems_eq_ok_iff {items : List Value} {r : BindRequest} :
    bindRequestOfItems items = .ok r ↔ ∃ counter : Option (Option String),
      .string "object_to_writer" :: items =
        bindItems r.writerId r.objectId r.fieldsText counter ∧ r.counterId = counter.join := by
  constructor
  · intro h
    rw [bindRequestOfItems, bind_eq_ok_iff] at h
    obtain ⟨texts, htexts, h⟩ := h
    rw [mapM_eq_ok_iff] at htexts
    match texts with
    | [writer, object, fields] =>
      match items with
      | a :: b :: c :: rest =>
        simp only [List.take_succ_cons, List.take_zero, List.forall₂_cons,
          textOf_eq_ok_iff] at htexts
        obtain ⟨rfl, rfl, rfl, -⟩ := htexts
        match rest with
        | [] =>
          cases h
          exact ⟨none, rfl, rfl⟩
        | v :: more =>
          obtain ⟨counterId, hcounter, h⟩ := bind_eq_ok_iff.1 h
          rw [optionalTextOf_eq_ok_iff] at hcounter
          subst v
          cases more with
          | nil =>
            cases h
            exact ⟨some counterId, rfl, rfl⟩
          | cons _ _ => cases h
      | [] | [_] | [_, _] => simp at htexts
    | [] | [_] | [_, _] | _ :: _ :: _ :: _ :: _ => cases h
  · obtain ⟨writer, object, fields, counterId⟩ := r
    rintro ⟨counter, hitems, rfl⟩
    obtain rfl := List.tail_eq_of_cons_eq hitems
    match counter with
    | none | some none | some (some _) => rfl

section Requests
variable {text : String}

theorem readRequest_of_items {items : List Value}
    (h : parse? text = some (.array (.string "object_to_writer" :: items))) :
    readRequest text = (bindRequestOfItems items).map .bind := by
  obtain ⟨o, ho, hv⟩ := valueWithin?_eq_some_iff.1 ((parse?_eq text).symm.trans h)
  change o.value? (depthLimit - 1 + 1) = _ at hv
  obtain ⟨shown, rfl, hshown⟩ := items_of_value? hv
  obtain ⟨first, rest, hfirst, hrest, rfl⟩ := List.forall₂_cons_right_iff.1 hshown
  have hdirection : directionIn first = .ok .objectToWriter :=
    (directionIn_eq_ok_iff hfirst).2 rfl
  have hstored : rest.mapM store = .ok items :=
    mapM_eq_ok_iff.2 (hrest.imp fun o v hv => by rw [store, hv])
  rw [readRequest, readWhole_of_ofText _ ho, requestIn, hdirection, hstored]
  rfl

theorem readRequest_of_bindItems {writer object fields : String} {counter : Option (Option String)}
    (h : parse? text = some (.array (bindItems writer object fields counter))) :
    readRequest text = .ok (.bind ⟨writer, object, fields, counter.join⟩) := by
  rw [readRequest_of_items h]
  exact map_eq_ok_iff.2 ⟨_, bindRequestOfItems_eq_ok_iff.2 ⟨counter, rfl, rfl⟩, rfl⟩

theorem shaped_bindMembers (writer object fields : String) (counter : Option (Option String)) :
    Shaped (bindMembers writer object fields counter)
      (.bind ⟨writer, object, fields, counter.join⟩) := by
  match counter with
  | none => exact ⟨rfl, rfl, rfl, rfl, .absent⟩
  | some none => exact ⟨rfl, rfl, rfl, rfl, .null⟩
  | some (some s) => exact ⟨rfl, rfl, rfl, rfl, .present rfl⟩

/-- An array that is read as a request to bind parameters has three values after the direction, or
four. -/
theorem length_of_readRequest {rest : List Outline} {ending : Ending} {r : Request}
    (hshown : (Outline.ofText text).1 = .array (.string (some "object_to_writer") :: rest) ending)
    (hr : readRequest text = .ok r) : rest.length = 3 ∨ rest.length = 4 := by
  obtain ⟨root, hroot, hr⟩ := readWhole_eq_ok_iff.1 hr
  rw [hroot] at hshown
  dsimp only at hshown
  subst root
  rw [requestIn, bind_eq_ok_iff] at hr
  obtain ⟨direction, hdirection, hr⟩ := hr
  cases hdirection
  obtain ⟨stored, hstored, hr⟩ := bind_eq_ok_iff.1 hr
  have hlength : rest.length = stored.length := (mapM_eq_ok_iff.1 hstored).length_eq
  split at hr
  · cases hr
  · obtain ⟨q, hq, -⟩ := map_eq_ok_iff.1 hr
    obtain ⟨counter, hitems, -⟩ := bindRequestOfItems_eq_ok_iff.1 hq
    have hcount := congrArg List.length hitems
    cases counter <;> simp [bindItems] at hcount <;> omega

end Requests

/-- The column case that a text gives by a value. Only null may stand under the word, where a
stored value may also have an empty object. -/
def caseSeen : Value → Except ReadError ColumnCase
  | .string name => caseNamed name
  | .object [(name, .null)] => caseNamed name
  | _ => .error .malformed

/-- How a text of its own gives the parts of a policy by values. -/
def seenParts : PartReader Value := ⟨truthValueOf, textOf, caseSeen⟩

section Seen
variable {o : Outline} {depth : Nat} {v : Value} {c : ColumnCase}

theorem caseIn_object_eq_ok_iff {name : String} {more : List (Option String × Outline)}
    {ending : Ending} : caseIn (.object ((some name, o) :: more) ending) = .ok c ↔
      caseNamed name = .ok c ∧ o = .null ∧ more = [] ∧ ending = .closed := by
  rw [caseIn]
  cases caseNamed name with
  | error e => simp
  | ok c' => cases o <;> cases more <;> cases ending <;> simp

theorem caseSeen_object_eq_ok_iff {name : String} {more : List (String × Value)} :
    caseSeen (.object ((name, v) :: more)) = .ok c ↔
      caseNamed name = .ok c ∧ v = .null ∧ more = [] := by
  cases more <;> cases v <;> simp [caseSeen]

theorem caseIn_eq_ok_iff_seen (hv : o.value? (depth + 1) = some v) :
    caseIn o = .ok c ↔ caseSeen v = .ok c := by
  cases o with
  | string content =>
    cases content with
    | none => cases hv
    | some name =>
      cases hv
      rfl
  | object shown ending =>
    obtain ⟨members, rfl⟩ := exists_eq_object_of_value? hv
    obtain ⟨_, heq, hshown⟩ := members_of_value? hv
    cases heq
    cases hshown with
    | nil => exact iff_of_false nofun nofun
    | @cons s m shown members hm htail =>
      obtain ⟨_, o⟩ := s
      obtain ⟨name, v⟩ := m
      obtain ⟨rfl, hv⟩ := hm
      have hnull : o = .null ↔ v = .null := by
        rw [← @value?_eq_null_iff _ depth, hv, Option.some.injEq]
      have hnil : shown = [] ↔ members = [] := by
        rw [← List.length_eq_zero_iff, htail.length_eq, List.length_eq_zero_iff]
      rw [caseIn_object_eq_ok_iff, caseSeen_object_eq_ok_iff, hnull, hnil, and_iff_left rfl]
  | array shown ending =>
    obtain ⟨items, rfl⟩ := exists_eq_array_of_value? hv
    exact iff_of_false nofun nofun
  | number n =>
    obtain ⟨x, -, rfl⟩ := Option.map_eq_some_iff.1 hv
    exact iff_of_false nofun nofun
  | null | bool b | gap =>
    cases hv
    all_goals exact iff_of_false nofun nofun

theorem policyOfMembers_seen_iff {given : List (String × Outline)} {members : List (String × Value)}
    {p : NamingPolicy} (h : List.Forall₂ (ShowsMember (depth + 1)) (keyed given) members) :
    shownParts.policyOfMembers (keyed given) = .ok p ↔
      seenParts.policyOfMembers (keyed members) = .ok p := by
  rw [PartReader.policyOfMembers_eq_ok_iff, PartReader.policyOfMembers_eq_ok_iff]
  refine forall_congr' fun key => exists_congr fun found => and_congr_left fun _ => ?_
  refine readOnce_iff_of_forall₂ (forall₂_valuesOf h key.name) fun o v b hv _ => ?_
  exact PartReader.part_congr (fun _ => truthValueIn_eq_ok_iff hv) (fun _ => textIn_eq_ok_iff hv)
    fun _ _ => caseIn_eq_ok_iff_seen hv

end Seen

section Texts
variable {text : String} {p : NamingPolicy}

theorem readPolicy_of_array {items : List Value} (h : parse? text = some (.array items)) :
    readPolicy text = .ok p ↔ seenParts.policyOfItems items = .ok p ∧ items.length ≤ 4 := by
  obtain ⟨o, ho, hv⟩ := valueWithin?_eq_some_iff.1 ((parse?_eq text).symm.trans h)
  change o.value? (depthLimit - 1 + 1) = _ at hv
  obtain ⟨shown, rfl, hshown⟩ := items_of_value? hv
  rw [readPolicy, readWhole_of_ofText _ ho, policyIn_array_eq_ok_iff, and_iff_left rfl,
    PartReader.policyOfItems_eq, PartReader.policyOfItems_eq, hshown.length_eq]
  exact and_congr_left fun _ => policyOfMembers_seen_iff (forall₂_named hshown _)

theorem readPolicy_of_object {members : List (String × Value)}
    (h : parse? text = some (.object members)) :
    readPolicy text = .ok p ↔ seenParts.policyOfMembers (keyed members) = .ok p := by
  obtain ⟨shown, ho, hshown⟩ := ofText_of_parse? h
  obtain ⟨given, rfl⟩ := exists_eq_keyed hshown
  rw [readPolicy, readWhole_of_ofText _ ho, policyIn_object_eq_ok_iff, and_iff_left rfl]
  exact policyOfMembers_seen_iff hshown

end Texts

section Limits
variable {p : NamingPolicy}

theorem caseIn_eq_ok {o : Outline} {c : ColumnCase} : caseIn o = .ok c ↔ ∃ word,
    caseNamed word = .ok c ∧
      (o = .string (some word) ∨ o = .object [(some word, .null)] .closed) := by
  cases o with
  | string content => cases content <;> simp [caseIn]
  | object shown ending =>
    obtain _ | ⟨⟨_ | name, v⟩, more⟩ := shown
    · simp [caseIn]
    · simp [caseIn]
    · rw [caseIn_object_eq_ok_iff]
      constructor
      · rintro ⟨hname, rfl, rfl, rfl⟩
        exact ⟨name, hname, .inr rfl⟩
      · rintro ⟨word, hword, h | h⟩
        · cases h
        · cases h
          exact ⟨hword, rfl, rfl, rfl⟩
  | _ => simp [caseIn]

/-- What is read as a part of a policy is a value that is nested at most once. -/
theorem exists_value_of_part {key : PolicyKey} {o : Outline} {b : PolicyPart}
    (h : shownParts.part key o = .ok b) (depth : Nat) : ∃ v, o.value? (depth + 1) = some v := by
  cases key with
  | generateNames | useSeparator =>
    obtain ⟨b, hb, -⟩ := map_eq_ok_iff.1 h
    exact ⟨.bool b, value?_eq_bool_iff.2 (truthValueIn_eq_ok.1 hb)⟩
  | separator =>
    obtain ⟨s, hs, -⟩ := map_eq_ok_iff.1 h
    exact ⟨.string s, value?_eq_string_iff.2 (textIn_eq_ok.1 hs)⟩
  | columnCase =>
    obtain ⟨c, hc, -⟩ := map_eq_ok_iff.1 h
    obtain ⟨word, -, rfl | rfl⟩ := caseIn_eq_ok.1 hc
    · exact ⟨.string word, rfl⟩
    · exact ⟨.object [(word, .null)], by simp [Outline.value?]⟩

theorem exists_value_of_policyOfMembers {given : List (String × Outline)}
    (h : shownParts.policyOfMembers (keyed given) = .ok p)
    (hkeys : ∀ m ∈ given, ∃ key : PolicyKey, m.1 = key.name) (depth : Nat) :
    ∀ m ∈ given, ∃ v, m.2.value? (depth + 1) = some v := by
  intro m hm
  obtain ⟨name, o⟩ := m
  obtain ⟨key, rfl⟩ := hkeys _ hm
  obtain ⟨found, hfound, -⟩ := PartReader.policyOfMembers_eq_ok_iff.1 h key
  have hmem : o ∈ valuesOf key.name given := by
    simp only [valuesOf, List.mem_map, List.mem_filter]
    exact ⟨(key.name, o), ⟨hm, beq_self_eq_true _⟩, rfl⟩
  obtain ⟨b, hb⟩ := hfound.exists_of_mem hmem
  exact exists_value_of_part hb depth

/-- The outline is not that of an object with keys other than those of a policy. -/
def HasPolicyKeys : Outline → Prop
  | .object members _ => ∀ m ∈ members, ∃ key : PolicyKey, m.1 = some key.name
  | _ => True

theorem exists_keyed {shown : List (Option String × Outline)} {ending : Ending}
    (h : HasPolicyKeys (.object shown ending)) : ∃ given, shown = keyed given ∧
      ∀ m ∈ given, ∃ key : PolicyKey, m.1 = key.name := by
  induction shown with
  | nil => exact ⟨[], rfl, by simp⟩
  | cons s shown ih =>
    obtain ⟨⟨key, hkey⟩, htail⟩ := List.forall_mem_cons.1 h
    obtain ⟨given, rfl, hgiven⟩ := ih htail
    obtain ⟨_, o⟩ := s
    obtain rfl := hkey
    exact ⟨(key.name, o) :: given, rfl, List.forall_mem_cons.2 ⟨⟨key, rfl⟩, hgiven⟩⟩

/-- What is read as a policy is within the limits, unless it is an object with other keys, whose
values are passed over. -/
theorem exists_value_of_readPolicy {text : String} (h : readPolicy text = .ok p)
    (hkeys : HasPolicyKeys (Outline.ofText text).1) : ∃ v, parse? text = some v := by
  obtain ⟨root, hroot, hp⟩ := readWhole_eq_ok_iff.1 h
  rw [hroot] at hkeys
  suffices hvalue : ∃ v, root.value? depthLimit = some v by
    obtain ⟨v, hv⟩ := hvalue
    exact ⟨v, valueWithin?_eq_some_iff.2 ⟨root, hroot, hv⟩⟩
  have hdepth : depthLimit = depthLimit - 2 + 1 + 1 := rfl
  rw [hdepth]
  cases root with
  | object shown ending =>
    obtain ⟨given, rfl, hgiven⟩ := exists_keyed hkeys
    obtain ⟨hmembers, rfl⟩ := policyIn_object_eq_ok_iff.1 hp
    have hvalues := exists_value_of_policyOfMembers hmembers hgiven (depthLimit - 2)
    obtain ⟨members, hmembers⟩ : ∃ members,
        List.Forall₂ (ShowsMember (depthLimit - 2 + 1)) (keyed given) members := by
      apply exists_forall₂
      intro s hs
      obtain ⟨m, hm, rfl⟩ := List.mem_map.1 hs
      obtain ⟨v, hv⟩ := hvalues m hm
      exact ⟨(m.1, v), rfl, hv⟩
    exact ⟨_, value?_object hmembers⟩
  | array shown ending =>
    obtain ⟨hitems, hlength, rfl⟩ := policyIn_array_eq_ok_iff.1 hp
    rw [PartReader.policyOfItems_eq] at hitems
    have hgiven : ∀ m ∈ named PolicyKey.all shown, ∃ key : PolicyKey, m.1 = key.name := by
      intro m hm
      obtain ⟨key, -, hkey⟩ := List.mem_map.1 (List.of_mem_zip hm).1
      exact ⟨key, hkey.symm⟩
    have hvalues := exists_value_of_policyOfMembers hitems hgiven (depthLimit - 2)
    have hsnd : (named PolicyKey.all shown).map Prod.snd = shown := List.map_snd_zip hlength
    obtain ⟨items, hitems⟩ : ∃ items,
        List.Forall₂ (fun o v => o.value? (depthLimit - 2 + 1) = some v) shown items := by
      apply exists_forall₂
      intro o ho
      rw [← hsnd] at ho
      obtain ⟨m, hm, rfl⟩ := List.mem_map.1 ho
      exact hvalues m hm
    exact ⟨_, value?_array hitems⟩
  | _ => cases hp

end Limits

/-- Values in order and the same values under the keys are read alike: as a request to bind
parameters, which takes no fewer and no more of them, and as a policy, in a text of its own or
inside a request. What has no other keys and is read as a policy is within the limits. -/
theorem positional_and_keyed_agree :
    (∀ (writer object fields : String) (counter : Option (Option String)) (text text' : String)
      (members : List (String × Value)),
      parse? text = some (.array (bindItems writer object fields counter)) →
      parse? text' = some (.object members) →
      members.Perm (bindMembers writer object fields counter) →
        readRequest text = .ok (.bind ⟨writer, object, fields, counter.join⟩) ∧
        readRequest text' = .ok (.bind ⟨writer, object, fields, counter.join⟩)) ∧
    (∀ (text : String) (rest : List Outline) (ending : Ending),
      (Outline.ofText text).1 = .array (.string (some "object_to_writer") :: rest) ending →
      rest.length < 3 ∨ 4 < rest.length → ∃ e, readRequest text = .error e) ∧
    (∀ (items : List Value) (members : List (String × Value)),
      items.length ≤ 4 → members.Perm (named PolicyKey.all items) →
        (∀ text text' p, parse? text = some (.array items) →
          parse? text' = some (.object members) →
            (readPolicy text = .ok p ↔ readPolicy text' = .ok p)) ∧
        ∀ a b c request request' r, AsksWith a b c (.array items) request →
          AsksWith a b c (.object members) request' →
            (readRequest request = .ok r ↔ readRequest request' = .ok r)) ∧
    ∀ text p, readPolicy text = .ok p → HasPolicyKeys (Outline.ofText text).1 →
      ∃ v, parse? text = some v := by
  refine ⟨?_, ?_, ?_, fun text p => exists_value_of_readPolicy⟩
  · intro writer object fields counter text text' members htext htext' hperm
    refine ⟨readRequest_of_bindItems htext, (readRequest_eq_ok_iff htext').2 ?_⟩
    exact (shaped_bindMembers writer object fields counter).of_perm (hperm.symm.filter _)
  · intro text rest ending hshown hlength
    rw [exists_error_iff]
    intro r hr
    have hcount := length_of_readRequest hshown hr
    omega
  · intro items members hlength hperm
    constructor
    · intro text text' p htext htext'
      rw [readPolicy_of_array htext, readPolicy_of_object htext',
        PartReader.policyOfItems_iff_members hperm]
      exact and_iff_left hlength
    · intro a b c request request' r hrequest hrequest'
      have hpolicy (p : NamingPolicy) :
          policyOf (.array items) = .ok p ↔ policyOf (.object members) = .ok p := by
        rw [policyOf_array_eq_ok_iff, PartReader.policyOfItems_iff_members hperm]
        exact and_iff_left hlength
      simp only [readRequest_of_asksWith hrequest, readRequest_of_asksWith hrequest', hpolicy,
        reduceCtorEq, false_and, false_or]

theorem positional_and_keyed_agree_in_reverse_order :
    let items := bindItems "ps" "person" "private long id;" (some none)
    let members := (bindMembers "ps" "person" "private long id;" (some none)).reverse
    let short : Value := .array [.string "object_to_writer", .string "ps"]
    let parts : List Value := [.bool true, .bool false, .string "-", .string "lower"]
    let keys := (named PolicyKey.all parts).reverse
    let p : NamingPolicy := ⟨true, false, "-", .lower⟩
    let asked (v : Value) := requestAround "row" "person" "private long id;" v.render
    (readRequest (Value.array items).render =
        .ok (.bind ⟨"ps", "person", "private long id;", none⟩) ∧
      readRequest (Value.object members).render =
        .ok (.bind ⟨"ps", "person", "private long id;", none⟩)) ∧
    (∃ e, readRequest short.render = .error e) ∧
    (readPolicy (Value.object keys).render = .ok p ∧
      readPolicy (Value.array parts).render = .ok p ∧
      (∃ v, parse? (Value.array parts).render = some v) ∧
      readRequest (asked (.object keys)) =
        .ok (.read ⟨"row", "person", "private long id;", some p⟩) ∧
      readRequest (asked (.array parts)) =
        .ok (.read ⟨"row", "person", "private long id;", some p⟩)) := by
  intro items members short parts keys p asked
  have hitems : (Value.array items).Plain depthLimit := by
    apply Value.Plain.array
    simp [items, bindItems, textOrNull, Value.Plain.string, Value.Plain.null]
  have hmembers : (Value.object members).Plain depthLimit := by
    apply Value.Plain.object
    simp [members, bindMembers, bindItems, textOrNull, Value.Plain.string, Value.Plain.null]
  have hshort : short.Plain depthLimit := .array (by simp [Value.Plain.string])
  have hparts : (Value.array parts).Plain (depthLimit - 1) := by
    apply Value.Plain.array
    simp [parts, Value.Plain.string, Value.Plain.bool]
  have hkeys : (Value.object keys).Plain (depthLimit - 1) := by
    apply Value.Plain.object
    simp [keys, parts, named, PolicyKey.all, Value.Plain.string, Value.Plain.bool]
  obtain ⟨hbind, hlength, hpolicies, hlimits⟩ := positional_and_keyed_agree
  have hperm : keys.Perm (named PolicyKey.all parts) := List.reverse_perm _
  obtain ⟨halone, hinside⟩ := hpolicies parts keys (by decide) hperm
  have hparse (v : Value) (hv : v.Plain (depthLimit - 1)) : parse? v.render = some v :=
    parse?_render (hv.mono (by decide))
  have hobject : readPolicy (Value.object keys).render = .ok p := by
    rw [readPolicy, readWhole_render _ hkeys]
    rfl
  have harray : readPolicy (Value.array parts).render = .ok p :=
    (halone _ _ p (hparse _ hparts) (hparse _ hkeys)).2 hobject
  have hasks (v : Value) (hv : v.Plain (depthLimit - 1)) :
      AsksWith "row" "person" "private long id;" v (asked v) :=
    asksWith_requestAround
      (valueWithin?_eq_some_iff.2 ⟨_, hv.ofText_render, hv.value?_outline⟩) _ _ _
  have hasked : readRequest (asked (.object keys)) =
      .ok (.read ⟨"row", "person", "private long id;", some p⟩) :=
    (readRequest_of_asksWith (hasks _ hkeys)).2 (.inr ⟨p, rfl, rfl⟩)
  refine ⟨?_, ?_, hobject, harray, ?_, hasked, ?_⟩
  · exact hbind _ _ _ _ _ _ _ (parse?_render hitems) (parse?_render hmembers)
      (List.reverse_perm _)
  · refine hlength short.render [.string (some "ps")] .closed ?_ (by decide)
    rw [hshort.ofText_render]
    rfl
  · refine hlimits _ p harray ?_
    rw [hparts.ofText_render]
    trivial
  · exact (hinside _ _ _ _ _ _ (hasks _ hparts) (hasks _ hkeys)).2 hasked

end RowBinding.Config
