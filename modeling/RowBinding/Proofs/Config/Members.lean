import Mathlib.Data.List.Forall2
import RowBinding.Config.Members

/-!
# Which members are read

Reading members succeeds exactly if every known key comes at most once, with a value that its
reader accepts. What is found for a key then depends on the values given for that key alone, so
neither the order of the members nor members with unknown keys matter.
-/
namespace RowBinding.Config
open Json

variable {α β : Type}

section OneMember
variable {known : String → Option (α → Except ReadError β)} {seen : List String} {key : String}
  {v : α} {rest : List (Option String × α)}

theorem readMembers_known {read : α → Except ReadError β} {b : β} (hknown : known key = some read)
    (hseen : key ∉ seen) (hv : read v = .ok b) (rest : List (Option String × α)) :
    readMembers known seen ((some key, v) :: rest) =
      (readMembers known (key :: seen) rest).map ((key, b) :: ·) := by
  have hnot : seen.contains key = false := by simpa using hseen
  simp only [readMembers, hknown, hnot, hv, Bool.false_eq_true, if_false]
  cases readMembers known (key :: seen) rest <;> rfl

theorem readMembers_unknown (hknown : known key = none) (rest : List (Option String × α)) :
    readMembers known seen ((some key, v) :: rest) = readMembers known seen rest := by
  simp only [readMembers, hknown]

/-- A member that is read is passed over, or its key is known and new and its value is read. -/
theorem cases_of_readMembers {bs : List (String × β)}
    (h : readMembers known seen ((some key, v) :: rest) = .ok bs) :
    known key = none ∧ readMembers known seen rest = .ok bs ∨
      ∃ read b bs', known key = some read ∧ key ∉ seen ∧ read v = .ok b ∧
        readMembers known (key :: seen) rest = .ok bs' ∧ bs = (key, b) :: bs' := by
  cases hknown : known key with
  | none =>
    rw [readMembers_unknown hknown] at h
    exact .inl ⟨rfl, h⟩
  | some read =>
    simp only [readMembers, hknown] at h
    split at h
    · cases h
    · next hseen =>
      split at h
      · cases h
      · next b hb =>
        split at h
        · cases h
        · next bs' hrest =>
          cases h
          exact .inr ⟨read, b, bs', rfl, by simpa using hseen, hb, hrest, rfl⟩

end OneMember

/-- The values that members give for a key, in order. -/
def valuesOf (key : String) (members : List (String × α)) : List α :=
  (members.filter (·.1 == key)).map Prod.snd

section Values
variable {key key' : String} {members members' : List (String × α)}

theorem valuesOf_cons_self (key : String) (v : α) (members : List (String × α)) :
    valuesOf key ((key, v) :: members) = v :: valuesOf key members := by
  simp [valuesOf]

theorem valuesOf_cons_of_ne (h : key' ≠ key) (v : α) (members : List (String × α)) :
    valuesOf key ((key', v) :: members) = valuesOf key members := by
  simp [valuesOf, h]

/-- Where members are passed over for their keys, the values for a key that stays are the same. -/
theorem valuesOf_filter {p : String → Bool} (h : p key = true) (members : List (String × α)) :
    valuesOf key (members.filter fun m => p m.1) = valuesOf key members := by
  have hboth : ∀ m ∈ members, (m.1 == key && p m.1) = (m.1 == key) := by
    intro m _
    cases hm : m.1 == key with
    | false => rfl
    | true =>
      rw [beq_iff_eq] at hm
      rw [hm, h, Bool.and_self]
  rw [valuesOf, valuesOf, List.filter_filter, List.filter_congr hboth]

theorem valuesOf_perm (h : members.Perm members') (key : String) :
    (valuesOf key members).Perm (valuesOf key members') :=
  (h.filter _).map _

end Values

/-- A key comes at most once, and it is read as its value is. -/
inductive ReadOnce (read : α → Except ReadError β) : List α → Option β → Prop
  | absent : ReadOnce read [] none
  | present {v : α} {b : β} (h : read v = .ok b) : ReadOnce read [v] (some b)

section Once
variable {read : α → Except ReadError β} {found : Option β}

theorem readOnce_nil_iff : ReadOnce read [] found ↔ found = none := by
  refine ⟨fun h => ?_, fun h => h ▸ .absent⟩
  cases h
  rfl

theorem readOnce_singleton_iff {v : α} :
    ReadOnce read [v] found ↔ ∃ b, read v = .ok b ∧ found = some b := by
  constructor
  · intro h
    cases h with
    | present hv => exact ⟨_, hv, rfl⟩
  · rintro ⟨b, hv, rfl⟩
    exact .present hv

theorem not_readOnce_cons_cons {v w : α} {vs : List α} : ¬ReadOnce read (v :: w :: vs) found :=
  nofun

theorem ReadOnce.unique {vs : List α} {found' : Option β} (h : ReadOnce read vs found)
    (h' : ReadOnce read vs found') : found = found' := by
  cases h with
  | absent => exact (readOnce_nil_iff.1 h').symm
  | present hv =>
    obtain ⟨b, hb, rfl⟩ := readOnce_singleton_iff.1 h'
    rw [hv] at hb
    cases hb
    rfl

theorem ReadOnce.exists_of_mem {vs : List α} (h : ReadOnce read vs found) {v : α} (hv : v ∈ vs) :
    ∃ b, read v = .ok b := by
  cases h with
  | absent => cases hv
  | present hb =>
    rw [List.mem_singleton.1 hv]
    exact ⟨_, hb⟩

theorem ReadOnce.of_perm {vs vs' : List α} (h : ReadOnce read vs found) (hperm : vs.Perm vs') :
    ReadOnce read vs' found := by
  cases h with
  | absent =>
    rw [List.nil_perm.1 hperm]
    exact .absent
  | present hv =>
    rw [← List.singleton_perm.1 hperm]
    exact .present hv

/-- Values that are read alike, one by one, are read once alike. -/
theorem readOnce_iff_of_forall₂ {γ : Type} {rel : α → γ → Prop} {read' : γ → Except ReadError β}
    {vs : List α} {ws : List γ} (h : List.Forall₂ rel vs ws)
    (hread : ∀ v w b, rel v w → ws = [w] → (read v = .ok b ↔ read' w = .ok b)) :
    ReadOnce read vs found ↔ ReadOnce read' ws found := by
  cases h with
  | nil => rw [readOnce_nil_iff, readOnce_nil_iff]
  | cons hv htail =>
    cases htail with
    | nil =>
      rw [readOnce_singleton_iff, readOnce_singleton_iff]
      exact exists_congr fun b => and_congr_left fun _ => hread _ _ b hv rfl
    | cons _ _ => exact iff_of_false not_readOnce_cons_cons not_readOnce_cons_cons

end Once

/-- Members with all their keys. -/
def keyed (members : List (String × α)) : List (Option String × α) :=
  members.map fun (key, v) => (some key, v)

section AllMembers
variable {known : String → Option (α → Except ReadError β)} {seen : List String}
  {members : List (String × α)} {bs : List (String × β)}

/-- What is found for a known key; a key in `seen` does not come again. -/
theorem readOnce_of_readMembers_from {key : String} {read : α → Except ReadError β}
    (h : readMembers known seen (keyed members) = .ok bs) (hknown : known key = some read) :
    (key ∈ seen → valuesOf key members = []) ∧
      (key ∉ seen → ReadOnce read (valuesOf key members) (bs.lookup key)) := by
  induction members generalizing seen bs with
  | nil =>
    cases h
    exact ⟨fun _ => rfl, fun _ => .absent⟩
  | cons m members ih =>
    obtain ⟨key', v⟩ := m
    obtain ⟨hnone, hrest⟩ | ⟨read', b, bs', hread', hseen, hb, hrest, rfl⟩ :=
      cases_of_readMembers h
    · have hne : key' ≠ key := by
        rintro rfl
        rw [hnone] at hknown
        cases hknown
      rw [valuesOf_cons_of_ne hne]
      exact ih hrest
    · have htail := ih hrest
      by_cases hkey : key' = key
      · subst key'
        rw [hknown] at hread'
        cases hread'
        refine ⟨fun hmem => absurd hmem hseen, fun _ => ?_⟩
        rw [valuesOf_cons_self, htail.1 List.mem_cons_self, List.lookup_cons_self]
        exact .present hb
      · have hlookup : List.lookup key ((key', b) :: bs') = bs'.lookup key := by
          rw [List.lookup_cons, beq_false_of_ne (Ne.symm hkey)]
        have hmem : key ∈ key' :: seen ↔ key ∈ seen := by
          simp [Ne.symm hkey]
        rw [valuesOf_cons_of_ne hkey, hlookup, ← hmem]
        exact htail

theorem readOnce_of_readMembers {key : String} {read : α → Except ReadError β}
    (h : readMembers known [] (keyed members) = .ok bs) (hknown : known key = some read) :
    ReadOnce read (valuesOf key members) (bs.lookup key) :=
  (readOnce_of_readMembers_from h hknown).2 List.not_mem_nil

/-- Nothing is found for a key that was seen before. -/
theorem lookup_of_seen {key : String} (h : readMembers known seen (keyed members) = .ok bs)
    (hkey : key ∈ seen) : bs.lookup key = none := by
  induction members generalizing seen bs with
  | nil =>
    cases h
    rfl
  | cons m members ih =>
    obtain ⟨key', v⟩ := m
    obtain ⟨-, hrest⟩ | ⟨read, b, bs', -, hseen, -, hrest, rfl⟩ := cases_of_readMembers h
    · exact ih hrest hkey
    · have hne : key ≠ key' := by
        rintro rfl
        exact hseen hkey
      rw [List.lookup_cons, beq_false_of_ne hne]
      exact ih hrest (List.mem_cons_of_mem _ hkey)

theorem exists_readMembers_from
    (h : ∀ key read, known key = some read → (key ∈ seen → valuesOf key members = []) ∧
      (key ∉ seen → ∃ found, ReadOnce read (valuesOf key members) found)) :
    ∃ bs, readMembers known seen (keyed members) = .ok bs := by
  induction members generalizing seen with
  | nil => exact ⟨[], rfl⟩
  | cons m members ih =>
    obtain ⟨key', v⟩ := m
    rw [keyed, List.map_cons, ← keyed]
    cases hknown : known key' with
    | none =>
      rw [readMembers_unknown hknown]
      apply ih
      intro key read hread
      have hne : key' ≠ key := by
        rintro rfl
        rw [hknown] at hread
        cases hread
      have hkey := h key read hread
      rwa [valuesOf_cons_of_ne hne] at hkey
    | some read' =>
      have hkey' := h key' read' hknown
      rw [valuesOf_cons_self] at hkey'
      have hseen : key' ∉ seen := fun hmem => absurd (hkey'.1 hmem) (List.cons_ne_nil _ _)
      obtain ⟨b, hb, hnil⟩ : ∃ b, read' v = .ok b ∧ valuesOf key' members = [] := by
        obtain ⟨found, hfound⟩ := hkey'.2 hseen
        generalize hvs : valuesOf key' members = vs at hfound
        cases hfound with
        | present hb => exact ⟨_, hb, rfl⟩
      obtain ⟨bs, hbs⟩ : ∃ bs, readMembers known (key' :: seen) (keyed members) = .ok bs := by
        apply ih
        intro key read hread
        by_cases hne : key' = key
        · subst key'
          exact ⟨fun _ => hnil, fun hmem => absurd List.mem_cons_self hmem⟩
        · have hkey := h key read hread
          have hmem : key ∈ key' :: seen ↔ key ∈ seen := by
            simp [Ne.symm hne]
          rwa [valuesOf_cons_of_ne hne, ← hmem] at hkey
      rw [readMembers_known hknown hseen hb, hbs]
      exact ⟨_, rfl⟩

/-- Members are read if each known key comes at most once, with a value that is read. -/
theorem exists_readMembers
    (h : ∀ key read, known key = some read → ∃ found, ReadOnce read (valuesOf key members) found) :
    ∃ bs, readMembers known [] (keyed members) = .ok bs :=
  exists_readMembers_from fun key read hread =>
    ⟨fun hmem => absurd hmem List.not_mem_nil, fun _ => h key read hread⟩

end AllMembers

end RowBinding.Config
