import Mathlib.Data.List.Nodup
import RowBinding.TypeTable

/-!
# Looking up types

A table is made of a list of entries exactly when their names are distinct; otherwise the first
name that came before is returned. The index then leads to the entry that a search through the list
would find, so the order of the list does not matter to a look-up. A name is in a table exactly when
it has a rule there, and when unknown types are handled, every name resolves.
-/
namespace RowBinding.TypeTable
variable {ρ : Type} {t : TypeTable ρ} {name : String}

theorem find?_eq_search (t : TypeTable ρ) (name : String) :
    t.find? name = t.entries.find? (·.1 == name) := by
  rw [find?, t.indexed.lookup_eq, List.idxOf?, List.findIdx?_map,
    List.find?_eq_bind_findIdx?_getElem?]
  rfl

theorem fst_of_find? {e : String × ρ} (h : t.find? name = some e) : e.1 = name := by
  rw [find?_eq_search] at h
  simpa using List.find?_some h

theorem find?_eq_none_iff : t.find? name = none ↔ name ∉ t.names := by
  rw [find?_eq_search, List.find?_eq_none, names, List.mem_map]
  simp only [beq_iff_eq, not_exists, not_and]

theorem find?_eq_some_iff {e : String × ρ} :
    t.find? name = some e ↔ e ∈ t.entries ∧ e.1 = name := by
  constructor
  · intro h
    have hname := fst_of_find? h
    rw [find?_eq_search] at h
    exact ⟨List.mem_of_find?_eq_some h, hname⟩
  · rintro ⟨he, rfl⟩
    cases hd : t.find? e.1 with
    | none => exact absurd (List.mem_map_of_mem he) (find?_eq_none_iff.1 hd)
    | some d =>
      have hname := fst_of_find? hd
      rw [find?_eq_search] at hd
      rw [List.inj_on_of_nodup_map t.indexed.distinct (List.mem_of_find?_eq_some hd) he hname]

/-- Two tables with the same entries, in whatever order, find the same ones. -/
theorem find?_of_perm {t' : TypeTable ρ} (h : t'.entries.Perm t.entries) (name : String) :
    t'.find? name = t.find? name := by
  ext e
  rw [find?_eq_some_iff, find?_eq_some_iff, h.mem_iff]

theorem mem_entries_of_lookup {rule : ρ} (h : t.lookup name = some rule) :
    (name, rule) ∈ t.entries := by
  rw [lookup, Option.map_eq_some_iff] at h
  obtain ⟨e, he, rfl⟩ := h
  obtain ⟨hmem, rfl⟩ := find?_eq_some_iff.1 he
  exact hmem

theorem lookup_eq_none_iff : t.lookup name = none ↔ name ∉ t.names := by
  rw [lookup, Option.map_eq_none_iff, find?_eq_none_iff]

theorem exists_lookup (h : name ∈ t.names) : ∃ rule, t.lookup name = some rule := by
  cases hl : t.lookup name with
  | none => exact absurd h (lookup_eq_none_iff.1 hl)
  | some rule => exact ⟨rule, rfl⟩

/-- What is known is known under the name that was asked for. -/
theorem resolve_eq (t : TypeTable ρ) (name : String) (handleUnknown : Bool) :
    t.resolve name handleUnknown =
      match t.lookup name with
      | some rule => some (.known name rule)
      | none => if handleUnknown then some (.unknown name) else none := by
  rw [resolve, lookup]
  cases he : t.find? name with
  | none => rfl
  | some e =>
    obtain rfl := fst_of_find? he
    rfl

theorem resolve_of_lookup {rule : ρ} (h : t.lookup name = some rule) (handleUnknown : Bool) :
    t.resolve name handleUnknown = some (.known name rule) := by
  rw [resolve_eq, h]

theorem resolve_of_not_mem (h : name ∉ t.names) : t.resolve name true = some (.unknown name) := by
  rw [resolve_eq, lookup_eq_none_iff.2 h]
  rfl

theorem name_of_resolve {handleUnknown : Bool} {r : Resolution ρ}
    (h : t.resolve name handleUnknown = some r) :
    r.name = name ∧ (r.isUnknown = true ↔ name ∉ t.names) := by
  rw [resolve_eq] at h
  rw [← lookup_eq_none_iff]
  cases hl : t.lookup name with
  | some rule =>
    rw [hl, Option.some.injEq] at h
    subst h
    exact ⟨rfl, by simp [Resolution.isUnknown]⟩
  | none =>
    cases handleUnknown with
    | false => simp [hl] at h
    | true =>
      rw [hl] at h
      obtain rfl : Resolution.unknown name = r := by simpa using h
      exact ⟨rfl, by simp [Resolution.isUnknown]⟩

section Lists
variable {entries : List (String × ρ)}

theorem entries_of_ofList (h : ofList entries = .ok t) : t.entries = entries := by
  unfold ofList at h
  split at h
  · cases h
  · rw [Except.ok.injEq] at h
    rw [← h]

theorem exists_repeat_of_ofList (h : ofList entries = .error name) :
    ∃ l r, entries.map Prod.fst = l ++ name :: r ∧ l.Nodup ∧ name ∈ l := by
  unfold ofList at h
  split at h
  · next hn =>
    rw [Except.error.injEq] at h
    subst h
    exact exists_repeat_of_indexNames .nil hn
  · cases h

theorem exists_ofList_iff : (∃ t, ofList entries = .ok t) ↔ (entries.map Prod.fst).Nodup := by
  constructor
  · rintro ⟨t, h⟩
    rw [← entries_of_ofList h]
    exact t.indexed.distinct
  · intro hnd
    cases h : ofList entries with
    | ok t => exact ⟨t, rfl⟩
    | error name =>
      obtain ⟨l, r, he, -, hn⟩ := exists_repeat_of_ofList h
      exact absurd (he ▸ hnd) (not_nodup_of_repeat hn r)

/-- A list has at most one place where a name comes for the second time and none did before. -/
theorem first_repeat_unique {l l' r r' : List String} {n n' : String}
    (h : l ++ n :: r = l' ++ n' :: r') (hl : l.Nodup) (hn : n ∈ l) (hl' : l'.Nodup)
    (hn' : n' ∈ l') : n = n' := by
  rcases List.append_eq_append_iff.1 h with ⟨k, rfl, hk⟩ | ⟨k, rfl, hk⟩
  · cases k with
    | nil => simpa using (List.cons.inj hk).1
    | cons m k =>
      obtain rfl : n = m := (List.cons.inj hk).1
      exact absurd hl' (not_nodup_of_repeat hn k)
  · cases k with
    | nil => simpa using (List.cons.inj hk).1.symm
    | cons m k =>
      obtain rfl : n' = m := (List.cons.inj hk).1
      exact absurd hl (not_nodup_of_repeat hn' k)

theorem ofList_eq_error_iff : ofList entries = .error name ↔
    ∃ l r, entries.map Prod.fst = l ++ name :: r ∧ l.Nodup ∧ name ∈ l := by
  refine ⟨exists_repeat_of_ofList, ?_⟩
  rintro ⟨l, r, he, hl, hn⟩
  cases h : ofList entries with
  | ok t =>
    exact absurd (he ▸ exists_ofList_iff.1 ⟨t, h⟩) (not_nodup_of_repeat hn r)
  | error m =>
    obtain ⟨l', r', he', hl', hm⟩ := exists_repeat_of_ofList h
    rw [first_repeat_unique (he'.symm.trans he) hl' hm hl hn]

/-- A list of entries makes a table exactly when their names are distinct; otherwise the name of the
first entry that repeats one before it is returned. The table keeps the entries in order, and a name
is looked up and resolved as by a search through the list. The order of the entries does not show
in what is found. -/
theorem ofList_finds_entries (entries : List (String × ρ)) :
    ((∃ t, ofList entries = .ok t) ↔ (entries.map Prod.fst).Nodup) ∧
    (∀ n, ofList entries = .error n ↔
      ∃ before after, entries.map Prod.fst = before ++ n :: after ∧ before.Nodup ∧ n ∈ before) ∧
    ∀ t, ofList entries = .ok t →
      t.names = entries.map Prod.fst ∧ t.size = entries.length ∧
      (∀ n, t.find? n = entries.find? (·.1 == n) ∧
        t.lookup n = (entries.find? (·.1 == n)).map Prod.snd) ∧
      (∀ n handleUnknown, t.resolve n handleUnknown =
        match entries.find? (·.1 == n) with
        | some e => some (.known e.1 e.2)
        | none => if handleUnknown then some (.unknown n) else none) ∧
      (∀ n handleUnknown r, t.resolve n handleUnknown = some r →
        r.name = n ∧ (r.isUnknown = true ↔ n ∉ entries.map Prod.fst)) ∧
      ∀ entries', entries'.Perm entries → ∃ t', ofList entries' = .ok t' ∧
        ∀ n, t'.lookup n = t.lookup n ∧
          ∀ handleUnknown, t'.resolve n handleUnknown = t.resolve n handleUnknown := by
  refine ⟨exists_ofList_iff, fun n => ofList_eq_error_iff, fun t ht => ?_⟩
  have hentries := entries_of_ofList ht
  refine ⟨?_, ?_, fun n => ?_, fun n handleUnknown => ?_, fun n handleUnknown r hr => ?_, ?_⟩
  · rw [names, hentries]
  · rw [size, hentries]
  · rw [lookup, find?_eq_search, hentries]
    exact ⟨rfl, rfl⟩
  · rw [resolve, find?_eq_search, hentries]
    cases entries.find? (·.1 == n) <;> rfl
  · rw [← hentries]
    exact name_of_resolve hr
  · intro entries' hperm
    have hnd : (entries'.map Prod.fst).Nodup := by
      rw [(hperm.map Prod.fst).nodup_iff, ← exists_ofList_iff]
      exact ⟨t, ht⟩
    obtain ⟨t', ht'⟩ := exists_ofList_iff.2 hnd
    have hsame : ∀ n, t'.find? n = t.find? n := by
      apply find?_of_perm
      rwa [entries_of_ofList ht', hentries]
    refine ⟨t', ht', fun n => ⟨?_, fun handleUnknown => ?_⟩⟩
    · rw [lookup, lookup, hsame]
    · rw [resolve, resolve, hsame]

end Lists

/-- The name returned is the first to come again, not the first that will. -/
theorem ofList_finds_entries_reversed :
    let entries := [("int", 1), ("long", 2), ("String", 3)]
    ofList (entries ++ [("long", 4), ("int", 5)]) = .error "long" ∧
    ∃ t t', ofList entries = .ok t ∧ ofList entries.reverse = .ok t' ∧
      t.lookup "long" = some 2 ∧ t.resolve "Long" false = none ∧
      ∀ n handleUnknown, t'.resolve n handleUnknown = t.resolve n handleUnknown := by
  intro entries
  refine ⟨((ofList_finds_entries _).2.1 _).2 ?_, ?_⟩
  · exact ⟨["int", "long", "String"], ["int"], rfl, by decide, by decide⟩
  · obtain ⟨t, ht⟩ := (ofList_finds_entries entries).1.2 (by decide)
    obtain ⟨-, -, hfind, hresolve, -, hperm⟩ := (ofList_finds_entries entries).2.2 t ht
    obtain ⟨t', ht', hsame⟩ := hperm entries.reverse (List.reverse_perm entries)
    refine ⟨t, t', ht, ht', ?_, ?_, fun n => (hsame n).2⟩
    · rw [(hfind "long").2]
      rfl
    · rw [hresolve]
      rfl

end RowBinding.TypeTable
