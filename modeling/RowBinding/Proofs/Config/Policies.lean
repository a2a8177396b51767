import RowBinding.Proofs.Config.RoundTrip
import RowBinding.Proofs.Request.Code

/-!
# Policies by their parts

A policy is read exactly if each of its keys comes at most once, with a value that is read as the
part for that key, and what does not come has its default. So the policy depends on the values for
each key alone. An array is read as the object that gives its items the keys in their order.
-/
namespace RowBinding.Config
open Column Json

/-- The key that a part is given with. -/
def keyOf : PolicyPart → PolicyKey
  | .generateNames _ => .generateNames
  | .useSeparator _ => .useSeparator
  | .separator _ => .separator
  | .columnCase _ => .columnCase

/-- The part of a policy for a key. -/
def partAt (p : NamingPolicy) : PolicyKey → PolicyPart
  | .generateNames => .generateNames p.generateNames
  | .useSeparator => .useSeparator p.useSeparator
  | .separator => .separator p.separator
  | .columnCase => .columnCase p.columnCase

theorem eq_of_partAt {p q : NamingPolicy} (h : ∀ key, partAt p key = partAt q key) : p = q := by
  have hg := h .generateNames
  have hu := h .useSeparator
  have hs := h .separator
  have hc := h .columnCase
  simp only [partAt, PolicyPart.generateNames.injEq, PolicyPart.useSeparator.injEq,
    PolicyPart.separator.injEq, PolicyPart.columnCase.injEq] at hg hu hs hc
  cases p
  cases q
  simp_all

theorem partAt_set (p : NamingPolicy) (b : PolicyPart) (key : PolicyKey) :
    partAt (p.set b) key = if keyOf b = key then b else partAt p key := by
  cases b <;> cases key <;> rfl

theorem name_injective {key key' : PolicyKey} (h : key.name = key'.name) : key = key' := by
  cases key <;> cases key' <;> first | rfl | exact absurd h (by decide)

theorem ofName?_eq_some_iff {name : String} {key : PolicyKey} :
    PolicyKey.ofName? name = some key ↔ name = key.name := by
  constructor
  · intro h
    have hname := List.find?_some h
    rw [beq_iff_eq] at hname
    exact hname.symm
  · rintro rfl
    exact ofName?_name key

/-- Items with the names of the keys in their order. -/
def named {α : Type} (keys : List PolicyKey) (items : List α) : List (String × α) :=
  (keys.map PolicyKey.name).zip items

namespace PartReader
variable {α : Type} {r : PartReader α}

/-- A part is read with the key that it is given with. -/
theorem keyOf_of_part {key : PolicyKey} {v : α} {b : PolicyPart} (h : r.part key v = .ok b) :
    keyOf b = key := by
  cases key <;>
    (obtain ⟨_, -, rfl⟩ := map_eq_ok_iff.1 h
     rfl)

/-- Two readers read a part alike if they read what it is made of alike. -/
theorem part_congr {β : Type} {r' : PartReader β} {key : PolicyKey} {v : α} {w : β}
    (htruth : ∀ b, r.truthValue v = .ok b ↔ r'.truthValue w = .ok b)
    (htext : ∀ s, r.text v = .ok s ↔ r'.text w = .ok s)
    (hcase : key = .columnCase → ∀ c, r.columnCase v = .ok c ↔ r'.columnCase w = .ok c)
    {b : PolicyPart} : r.part key v = .ok b ↔ r'.part key w = .ok b := by
  cases key with
  | generateNames | useSeparator =>
    exact map_eq_ok_iff.trans ((exists_congr fun _ =>
      and_congr_left fun _ => htruth _).trans map_eq_ok_iff.symm)
  | separator =>
    exact map_eq_ok_iff.trans ((exists_congr fun _ =>
      and_congr_left fun _ => htext _).trans map_eq_ok_iff.symm)
  | columnCase =>
    exact map_eq_ok_iff.trans ((exists_congr fun _ =>
      and_congr_left fun _ => hcase rfl _).trans map_eq_ok_iff.symm)

/-- How the members with known keys are read. -/
def known (r : PartReader α) (name : String) : Option (α → Except ReadError PolicyPart) :=
  (PolicyKey.ofName? name).map r.part

theorem policyOfMembers_eq (r : PartReader α) (members : List (Option String × α)) :
    r.policyOfMembers members =
      (readMembers r.known [] members).map fun parts =>
        NamingPolicy.setAll {} (parts.map Prod.snd) := rfl

theorem known_eq_some_iff {name : String} {read : α → Except ReadError PolicyPart} :
    r.known name = some read ↔ ∃ key : PolicyKey, name = key.name ∧ r.part key = read := by
  simp only [known, Option.map_eq_some_iff, ofName?_eq_some_iff]

theorem known_name (r : PartReader α) (key : PolicyKey) : r.known key.name = some (r.part key) :=
  known_eq_some_iff.2 ⟨key, rfl, rfl⟩

/-- The parts that were read are set, each in its place. -/
theorem partAt_setAll {seen : List String} {members : List (String × α)}
    {bs : List (String × PolicyPart)} (h : readMembers r.known seen (keyed members) = .ok bs)
    (p : NamingPolicy) (key : PolicyKey) :
    partAt (p.setAll (bs.map Prod.snd)) key = (bs.lookup key.name).getD (partAt p key) := by
  induction members generalizing seen bs p with
  | nil =>
    cases h
    rfl
  | cons m members ih =>
    obtain ⟨name, v⟩ := m
    obtain ⟨-, hrest⟩ | ⟨read, b, bs', hread, -, hb, hrest, rfl⟩ := cases_of_readMembers h
    · exact ih hrest p
    · obtain ⟨key', rfl, rfl⟩ := known_eq_some_iff.1 hread
      have hset := ih hrest (p.set b)
      rw [partAt_set, keyOf_of_part hb] at hset
      rw [List.map_cons, NamingPolicy.setAll, List.foldl_cons, ← NamingPolicy.setAll, hset]
      by_cases hkey : key' = key
      · subst key'
        rw [List.lookup_cons_self, lookup_of_seen hrest List.mem_cons_self, if_pos rfl]
        rfl
      · have hne : key.name ≠ key'.name := fun heq => hkey (name_injective heq).symm
        rw [List.lookup_cons, beq_false_of_ne hne, if_neg hkey]

/-- The values for each key are read as the parts of a policy, and what does not come has its
default. -/
def Gives (r : PartReader α) (given : PolicyKey → List α) (p : NamingPolicy) : Prop :=
  ∀ key, ∃ found, ReadOnce (r.part key) (given key) found ∧
    partAt p key = found.getD (partAt {} key)

/-- The policy that members give depends on the values for each key alone. -/
theorem policyOfMembers_eq_ok_iff {members : List (String × α)} {p : NamingPolicy} :
    r.policyOfMembers (keyed members) = .ok p ↔
      r.Gives (fun key => valuesOf key.name members) p := by
  have hgives {bs : List (String × PolicyPart)}
      (h : readMembers r.known [] (keyed members) = .ok bs) (key : PolicyKey) :
      ReadOnce (r.part key) (valuesOf key.name members) (bs.lookup key.name) :=
    readOnce_of_readMembers h (r.known_name key)
  constructor
  · intro h
    obtain ⟨bs, hbs, rfl⟩ := map_eq_ok_iff.1 h
    exact fun key => ⟨_, hgives hbs key, partAt_setAll hbs {} key⟩
  · intro h
    obtain ⟨bs, hbs⟩ : ∃ bs, readMembers r.known [] (keyed members) = .ok bs := by
      apply exists_readMembers
      intro name read hread
      obtain ⟨key, rfl, rfl⟩ := known_eq_some_iff.1 hread
      obtain ⟨found, hfound, -⟩ := h key
      exact ⟨found, hfound⟩
    refine map_eq_ok_iff.2 ⟨bs, hbs, eq_of_partAt fun key => ?_⟩
    obtain ⟨found, hfound, hpart⟩ := h key
    rw [partAt_setAll hbs {} key, hpart, (hgives hbs key).unique hfound]

/-- The order of the members does not matter. -/
theorem policyOfMembers_of_perm {members members' : List (String × α)} {p : NamingPolicy}
    (h : r.policyOfMembers (keyed members) = .ok p) (hperm : members.Perm members') :
    r.policyOfMembers (keyed members') = .ok p := by
  rw [policyOfMembers_eq_ok_iff] at h ⊢
  intro key
  obtain ⟨found, hfound, hpart⟩ := h key
  exact ⟨found, hfound.of_perm (valuesOf_perm hperm key.name), hpart⟩

theorem readMembers_named {keys : List PolicyKey} (hnodup : keys.Nodup) {seen : List String}
    (hseen : ∀ key ∈ keys, key.name ∉ seen) (items : List α) :
    (readMembers r.known seen (keyed (named keys items))).map (List.map Prod.snd) =
      r.parts keys items := by
  induction keys generalizing seen items with
  | nil => rfl
  | cons key keys ih =>
    cases items with
    | nil => rfl
    | cons v vs =>
      obtain ⟨hfresh, hnodup'⟩ := List.nodup_cons.1 hnodup
      have hkey : key.name ∉ seen := hseen key List.mem_cons_self
      have hseen' : ∀ key' ∈ keys, key'.name ∉ key.name :: seen := by
        intro key' hmem
        rw [List.mem_cons, not_or]
        refine ⟨fun heq => ?_, hseen key' (List.mem_cons_of_mem _ hmem)⟩
        exact hfresh (name_injective heq ▸ hmem)
      rw [named, List.map_cons, List.zip_cons_cons, keyed, List.map_cons, ← keyed, ← named]
      cases hb : r.part key v with
      | error e =>
        simp only [readMembers, r.known_name, List.contains_eq_mem, hkey, decide_false,
          Bool.false_eq_true, if_false, hb, parts]
        rfl
      | ok b =>
        rw [readMembers_known (r.known_name key) hkey hb, parts, hb, ← ih hnodup' hseen' vs]
        cases readMembers r.known (key.name :: seen) (keyed (named keys vs)) <;> rfl

/-- An array is read as the object that gives its items the keys in their order. -/
theorem policyOfItems_eq (r : PartReader α) (items : List α) :
    r.policyOfItems items = r.policyOfMembers (keyed (named PolicyKey.all items)) := by
  have hparts := readMembers_named (r := r) (by decide : PolicyKey.all.Nodup)
    (fun _ _ => List.not_mem_nil) items
  rw [policyOfItems, policyOfMembers_eq, ← hparts]
  cases readMembers r.known [] (keyed (named PolicyKey.all items)) <;> rfl

/-- Items are read as members that give them the first of the keys, in whatever order. -/
theorem policyOfItems_iff_members {items : List α} {members : List (String × α)}
    (hperm : members.Perm (named PolicyKey.all items)) {p : NamingPolicy} :
    r.policyOfItems items = .ok p ↔ r.policyOfMembers (keyed members) = .ok p := by
  rw [policyOfItems_eq]
  exact ⟨fun h => policyOfMembers_of_perm h hperm.symm,
    fun h => policyOfMembers_of_perm h hperm⟩

end PartReader

end RowBinding.Config
