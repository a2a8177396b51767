import RowBinding.Proofs.Config.RoundTrip
import RowBinding.Proofs.Request.Code

/-!
# The direction of a request in object form

The members of an outline are stored as they are met, up to the direction, which is looked at where
it stands and may not come again. Where the outline is complete and within the limits, what is
found in it is what is found in its value: one direction with a word for it, or none, and the
other members in their order.
-/
namespace RowBinding.Config
open Json

/-- A member of an outline shows the key and the value of a member, which is nested at most
`depth` deep. -/
def ShowsMember (depth : Nat) (shown : Option String × Outline) (m : String × Value) : Prop :=
  shown.1 = some m.1 ∧ shown.2.value? depth = some m.2

theorem members_of_value? {o : Outline} {depth : Nat} {members : List (String × Value)}
    (h : o.value? (depth + 1) = some (.object members)) :
    ∃ shown, o = .object shown .closed ∧ List.Forall₂ (ShowsMember depth) shown members := by
  cases o with
  | object shown ending =>
    cases ending with
    | stopped => simp [Outline.value?] at h
    | closed =>
      simp only [Outline.value?, Option.map_eq_some_iff, Value.object.injEq] at h
      obtain ⟨found, hmap, rfl⟩ := h
      refine ⟨shown, rfl, (mapM_eq_some_iff.1 hmap).imp fun s m hm => ?_⟩
      split at hm
      · next key v hkey hv =>
        cases hm
        exact ⟨hkey, hv⟩
      · cases hm
  | array items ending => cases ending <;> simp [Outline.value?] at h
  | _ => simp [Outline.value?] at h

theorem items_of_value? {o : Outline} {depth : Nat} {items : List Value}
    (h : o.value? (depth + 1) = some (.array items)) :
    ∃ shown, o = .array shown .closed ∧
      List.Forall₂ (fun o v => o.value? depth = some v) shown items := by
  cases o with
  | array shown ending =>
    cases ending with
    | stopped => simp [Outline.value?] at h
    | closed =>
      simp only [Outline.value?, Option.map_eq_some_iff, Value.array.injEq] at h
      obtain ⟨found, hmap, rfl⟩ := h
      exact ⟨shown, rfl, mapM_eq_some_iff.1 hmap⟩
  | object members ending => cases ending <;> simp [Outline.value?] at h
  | _ => simp [Outline.value?] at h

theorem value?_object {shown : List (Option String × Outline)} {depth : Nat}
    {members : List (String × Value)} (h : List.Forall₂ (ShowsMember depth) shown members) :
    (Outline.object shown .closed).value? (depth + 1) = some (.object members) := by
  rw [Outline.value?, Option.map_eq_some_iff]
  refine ⟨members, mapM_eq_some_iff.2 (h.imp fun s m hm => ?_), rfl⟩
  rw [hm.1, hm.2]

theorem value?_array {shown : List Outline} {depth : Nat} {items : List Value}
    (h : List.Forall₂ (fun o v => o.value? depth = some v) shown items) :
    (Outline.array shown .closed).value? (depth + 1) = some (.array items) := by
  rw [Outline.value?, mapM_eq_some_iff.2 h, Option.map_some]

theorem exists_eq_object_of_value? {shown : List (Option String × Outline)} {ending : Ending}
    {depth : Nat} {v : Value} (h : (Outline.object shown ending).value? depth = some v) :
    ∃ members, v = .object members := by
  cases depth <;> cases ending <;> simp only [Outline.value?, reduceCtorEq] at h
  obtain ⟨members, -, rfl⟩ := Option.map_eq_some_iff.1 h
  exact ⟨members, rfl⟩

theorem exists_eq_array_of_value? {shown : List Outline} {ending : Ending} {depth : Nat} {v : Value}
    (h : (Outline.array shown ending).value? depth = some v) : ∃ items, v = .array items := by
  cases depth <;> cases ending <;> simp only [Outline.value?, reduceCtorEq] at h
  obtain ⟨items, -, rfl⟩ := Option.map_eq_some_iff.1 h
  exact ⟨items, rfl⟩

theorem ofText_of_parse? {text : String} {members : List (String × Value)}
    (h : parse? text = some (.object members)) :
    ∃ shown, Outline.ofText text = (.object shown .closed, true) ∧
      List.Forall₂ (ShowsMember (depthLimit - 1)) shown members := by
  rw [parse?] at h
  split at h
  · next root hroot =>
    obtain ⟨shown, rfl, hshown⟩ := members_of_value? h
    exact ⟨shown, hroot, hshown⟩
  · cases h

theorem directionNamed_eq_ok_iff {word : String} {d : Direction} :
    directionNamed word = .ok d ↔ word = d.word := by
  constructor
  · intro h
    rw [directionNamed] at h
    split at h
    · next d' hd' =>
      cases h
      have hword := List.find?_some hd'
      rw [beq_iff_eq] at hword
      exact hword.symm
    · cases h
  · rintro rfl
    exact directionNamed_word d

theorem directionIn_eq_ok_iff {o : Outline} {depth : Nat} {v : Value} {d : Direction}
    (h : o.value? depth = some v) : directionIn o = .ok d ↔ v = .string d.word := by
  have hshown : directionIn o = .ok d ↔ o = .string (some d.word) := by
    cases o with
    | string content =>
      cases content with
      | none => simp [directionIn]
      | some name => simp [directionIn, directionNamed_eq_ok_iff]
    | _ => simp [directionIn]
  rw [hshown, ← @value?_eq_string_iff _ depth, h, Option.some.injEq]

/-- The members other than the direction. -/
def others (members : List (String × Value)) : List (String × Value) :=
  members.filter fun m => m.1 != "direction"

theorem others_cons_self (v : Value) (members : List (String × Value)) :
    others (("direction", v) :: members) = others members := by
  simp [others]

theorem others_cons_of_ne {key : String} (h : key ≠ "direction") (v : Value)
    (members : List (String × Value)) :
    others ((key, v) :: members) = (key, v) :: others members := by
  simp [others, h]

section Tagged
variable {shown : List (Option String × Outline)} {members : List (String × Value)}
  {s : Option String × Outline} {m : String × Value}

theorem readTagged_cons_of_ne (hm : ShowsMember (depthLimit - 1) s m) (hne : m.1 ≠ "direction")
    (direction : Option Direction) (shown : List (Option String × Outline)) :
    readTagged direction (s :: shown) =
      (readTagged direction shown).map fun (d, stored) => (d, m :: stored) := by
  obtain ⟨key, v⟩ := m
  obtain ⟨_, o⟩ := s
  obtain ⟨rfl, hv⟩ := hm
  have hstore : store o = .ok v := by
    rw [store, hv]
  simp only [readTagged, if_neg hne, hstore]
  cases readTagged direction shown <;> rfl

/-- Among members before the direction, or after it. -/
theorem readTagged_of_no_direction (h : List.Forall₂ (ShowsMember (depthLimit - 1)) shown members)
    (hnil : valuesOf "direction" members = []) (direction : Option Direction) :
    readTagged direction shown = .ok (direction, others members) := by
  induction h with
  | nil => rfl
  | @cons s m shown members hm _ ih =>
    obtain ⟨key, v⟩ := m
    have hne : key ≠ "direction" := by
      rintro rfl
      rw [valuesOf_cons_self] at hnil
      cases hnil
    rw [valuesOf_cons_of_ne hne] at hnil
    rw [readTagged_cons_of_ne hm hne, ih hnil, others_cons_of_ne hne]
    rfl

theorem readTagged_of_direction (h : List.Forall₂ (ShowsMember (depthLimit - 1)) shown members)
    {d : Direction} (hone : valuesOf "direction" members = [.string d.word]) :
    readTagged none shown = .ok (some d, others members) := by
  induction h with
  | nil => cases hone
  | @cons s m shown members hm htail ih =>
    obtain ⟨key, v⟩ := m
    by_cases hkey : key = "direction"
    · subst key
      obtain ⟨_, o⟩ := s
      obtain ⟨rfl, hv⟩ := hm
      rw [valuesOf_cons_self] at hone
      obtain ⟨rfl, hnil⟩ := List.cons.inj hone
      simp only [readTagged, if_true, (directionIn_eq_ok_iff hv).2 rfl,
        readTagged_of_no_direction htail hnil]
      rw [others_cons_self]
    · rw [valuesOf_cons_of_ne hkey] at hone
      rw [readTagged_cons_of_ne hm hkey, ih hone, others_cons_of_ne hkey]
      rfl

/-- After the direction, another is refused. -/
theorem no_direction_of_readTagged (h : List.Forall₂ (ShowsMember (depthLimit - 1)) shown members)
    {d : Direction} {direction : Option Direction} {stored : List (String × Value)}
    (hread : readTagged (some d) shown = .ok (direction, stored)) :
    valuesOf "direction" members = [] ∧ direction = some d := by
  induction h generalizing stored with
  | nil =>
    cases hread
    exact ⟨rfl, rfl⟩
  | @cons s m shown members hm _ ih =>
    obtain ⟨key, v⟩ := m
    by_cases hkey : key = "direction"
    · subst key
      obtain ⟨_, o⟩ := s
      obtain ⟨rfl, hv⟩ := hm
      simp [readTagged] at hread
    · rw [readTagged_cons_of_ne hm hkey] at hread
      obtain ⟨⟨direction', stored'⟩, hrest, heq⟩ := map_eq_ok_iff.1 hread
      cases heq
      rw [valuesOf_cons_of_ne hkey]
      exact ih hrest

theorem direction_of_readTagged (h : List.Forall₂ (ShowsMember (depthLimit - 1)) shown members)
    {d : Direction} {stored : List (String × Value)}
    (hread : readTagged none shown = .ok (some d, stored)) :
    valuesOf "direction" members = [.string d.word] := by
  induction h generalizing stored with
  | nil => cases hread
  | @cons s m shown members hm htail ih =>
    obtain ⟨key, v⟩ := m
    by_cases hkey : key = "direction"
    · subst key
      obtain ⟨_, o⟩ := s
      obtain ⟨rfl, hv⟩ := hm
      simp only [readTagged, if_true] at hread
      split at hread
      · cases hread
      · next d' hd' =>
        obtain ⟨hnil, hd⟩ := no_direction_of_readTagged htail hread
        cases hd
        have hword : v = .string d.word := (directionIn_eq_ok_iff hv).1 hd'
        rw [valuesOf_cons_self, hnil, hword]
    · rw [readTagged_cons_of_ne hm hkey] at hread
      obtain ⟨⟨direction, stored'⟩, hrest, heq⟩ := map_eq_ok_iff.1 hread
      cases heq
      rw [valuesOf_cons_of_ne hkey]
      exact ih hrest

end Tagged

end RowBinding.Config
