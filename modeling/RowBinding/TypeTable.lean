/-!
# Type tables

A type table assigns a rule to the names of some types. The names are distinct. The entries keep
their order, for listing them; a look-up does not go through them but through an index that gives
the position of each name.

The index is filled in one pass over the names, which stops at the first name that is in the index
already. So `TypeTable.ofList` accepts a list of entries exactly when no name occurs twice.
-/
namespace RowBinding

/-- Adds names to an index of the `i` names before them. The first name that the index holds
already is in the way. -/
def indexNames (index : List (String × Nat)) (i : Nat) :
    List String → Except String (List (String × Nat))
  | [] => .ok index
  | n :: ns =>
    match index.lookup n with
    | some _ => .error n
    | none => indexNames ((n, i) :: index) (i + 1) ns

/-- The names are distinct, and the index has their positions and no others. -/
structure Indexes (index : List (String × Nat)) (names : List String) : Prop where
  distinct : names.Nodup
  lookup_eq : ∀ n, index.lookup n = names.idxOf? n

section Index
variable {index index' : List (String × Nat)} {before names : List String} {n : String}

theorem Indexes.nil : Indexes [] [] := ⟨.nil, fun _ => rfl⟩

theorem Indexes.lookup_eq_none_iff (h : Indexes index names) :
    index.lookup n = none ↔ n ∉ names := by
  rw [h.lookup_eq, List.idxOf?_eq_none_iff]

theorem Indexes.mem_of_lookup {i : Nat} (h : Indexes index names)
    (hi : index.lookup n = some i) : n ∈ names := by
  rw [h.lookup_eq, List.idxOf?_eq_some_iff] at hi
  obtain ⟨hlt, rfl, -⟩ := hi
  exact List.getElem_mem hlt

theorem Indexes.snoc (h : Indexes index names) (hn : n ∉ names) :
    Indexes ((n, names.length) :: index) (names ++ [n]) := by
  constructor
  · rw [List.nodup_append]
    refine ⟨h.distinct, by simp, ?_⟩
    rintro m hm _ hn' rfl
    exact hn (List.mem_singleton.1 hn' ▸ hm)
  · intro m
    rw [List.idxOf?, List.findIdx?_append, ← List.idxOf?, ← h.lookup_eq, List.lookup_cons]
    by_cases hm : m = n
    · subst hm
      rw [h.lookup_eq_none_iff.2 hn]
      simp
    · simp [beq_false_of_ne hm, beq_false_of_ne (Ne.symm hm)]

theorem indexes_of_indexNames (hi : Indexes index before)
    (h : indexNames index before.length names = .ok index') :
    Indexes index' (before ++ names) := by
  induction names generalizing index before with
  | nil =>
    rw [indexNames, Except.ok.injEq] at h
    rwa [List.append_nil, ← h]
  | cons n ns ih =>
    unfold indexNames at h
    split at h
    · cases h
    · next hn =>
      have hlen : before.length + 1 = (before ++ [n]).length := by simp
      rw [hlen] at h
      have htail := ih (hi.snoc (hi.lookup_eq_none_iff.1 hn)) h
      rwa [List.append_assoc, List.singleton_append] at htail

/-- The name in the way came before, and up to there no name came twice. -/
theorem exists_repeat_of_indexNames (hi : Indexes index before)
    (h : indexNames index before.length names = .error n) :
    ∃ l r, names = l ++ n :: r ∧ (before ++ l).Nodup ∧ n ∈ before ++ l := by
  induction names generalizing index before with
  | nil => cases h
  | cons m ns ih =>
    unfold indexNames at h
    split at h
    · next hm =>
      rw [Except.error.injEq] at h
      subst h
      refine ⟨[], ns, rfl, ?_⟩
      rw [List.append_nil]
      exact ⟨hi.distinct, hi.mem_of_lookup hm⟩
    · next hm =>
      have hlen : before.length + 1 = (before ++ [m]).length := by simp
      rw [hlen] at h
      obtain ⟨l, r, rfl, hl, hn⟩ := ih (hi.snoc (hi.lookup_eq_none_iff.1 hm)) h
      rw [List.append_assoc, List.singleton_append] at hl hn
      exact ⟨m :: l, r, rfl, hl, hn⟩

theorem not_nodup_of_repeat {l : List String} (hn : n ∈ l) (r : List String) :
    ¬ (l ++ n :: r).Nodup :=
  fun h => (List.nodup_append.1 h).2.2 n hn n List.mem_cons_self rfl

theorem not_nodup_of_indexNames (h : indexNames [] 0 names = .error n) : ¬ names.Nodup := by
  obtain ⟨l, r, rfl, -, hn⟩ := exists_repeat_of_indexNames .nil h
  exact not_nodup_of_repeat hn r

end Index

/-- The index of distinct names. -/
def indexDistinct (names : List String) (h : names.Nodup) : { index // Indexes index names } :=
  match hi : indexNames [] 0 names with
  | .error _ => absurd h (not_nodup_of_indexNames hi)
  | .ok index => ⟨index, indexes_of_indexNames .nil hi⟩

/-- Rules for some types, by name. -/
structure TypeTable (ρ : Type) where
  entries : List (String × ρ)
  index : List (String × Nat)
  indexed : Indexes index (entries.map Prod.fst)

namespace TypeTable
variable {ρ : Type}

/-- The table with these entries, or the first name that is given again. -/
def ofList (entries : List (String × ρ)) : Except String (TypeTable ρ) :=
  match h : indexNames [] 0 (entries.map Prod.fst) with
  | .error name => .error name
  | .ok index => .ok ⟨entries, index, indexes_of_indexNames .nil h⟩

/-- The table with these entries, which have distinct names. -/
def ofDistinct (entries : List (String × ρ)) (h : (entries.map Prod.fst).Nodup) : TypeTable ρ :=
  let index := indexDistinct (entries.map Prod.fst) h
  ⟨entries, index.1, index.2⟩

@[simp] theorem entries_ofDistinct (entries : List (String × ρ))
    (h : (entries.map Prod.fst).Nodup) : (ofDistinct entries h).entries = entries := rfl

def names (t : TypeTable ρ) : List String := t.entries.map Prod.fst

def size (t : TypeTable ρ) : Nat := t.entries.length

/-- The entry for the type of exactly this name, from its position. -/
def find? (t : TypeTable ρ) (name : String) : Option (String × ρ) :=
  (t.index.lookup name).bind fun i => t.entries[i]?

def lookup (t : TypeTable ρ) (name : String) : Option ρ := (t.find? name).map Prod.snd

end TypeTable

/-- What a table says about the name of a type. -/
inductive Resolution (ρ : Type) where
  | known (name : String) (rule : ρ)
  | unknown (name : String)

namespace Resolution
variable {ρ : Type}

def name : Resolution ρ → String
  | known n _ => n
  | unknown n => n

def isUnknown : Resolution ρ → Bool
  | known _ _ => false
  | unknown _ => true

end Resolution

/-- The entry for a name; a name without one is unknown, or dropped if unknown types are not
handled. -/
def TypeTable.resolve {ρ : Type} (t : TypeTable ρ) (name : String) (handleUnknown : Bool) :
    Option (Resolution ρ) :=
  match t.find? name with
  | some (found, rule) => some (.known found rule)
  | none => if handleUnknown then some (.unknown name) else none

end RowBinding
