import Mathlib.Data.List.Nodup
import Mathlib.Order.Bounds.Basic
import RowBinding.Proofs.Declaration.Parser
import RowBinding.Proofs.Request.Code

/-!
# Which blocks are accepted, and why others are not

A block is accepted exactly when all of its statements are well formed and no two have the same
name; its fields are then those that the statements declare, in order.

Of any other block the first offending statement decides the fault. What comes after it is never
looked at, so every block with the same beginning has the same fault, and so has the code asked for
with it.
-/
namespace RowBinding.Declaration
open Text

/-- The statement at `k` is not well formed, or a statement before it has its name. -/
def Offends (ss : List Statement) (k : Nat) : Prop :=
  ∃ s, ss[k]? = some s ∧ (¬ s.WellFormed ∨ ∃ j < k, ∃ r, ss[j]? = some r ∧ r.name? = s.name?)

theorem forall_not_offends_iff {ss : List Statement} :
    (∀ k, ¬ Offends ss k) ↔ (∀ s ∈ ss, s.WellFormed) ∧ (ss.map Statement.name?).Nodup := by
  constructor
  · intro h
    refine ⟨fun s hs => ?_, ?_⟩
    · obtain ⟨k, hk⟩ := List.mem_iff_getElem?.1 hs
      by_contra hw
      exact h k ⟨s, hk, .inl hw⟩
    · rw [List.nodup_iff_getElem?_ne_getElem?]
      intro j k hjk hk he
      rw [List.length_map] at hk
      refine h k ⟨ss[k], List.getElem?_eq_getElem hk, .inr ⟨j, hjk, ss[j], ?_, ?_⟩⟩
      · exact List.getElem?_eq_getElem (hjk.trans hk)
      · simpa [List.getElem?_map, List.getElem?_eq_getElem hk,
          List.getElem?_eq_getElem (hjk.trans hk)] using he
  · intro h k hoff
    obtain ⟨hw, hnd⟩ := h
    obtain ⟨s, hk, hs | ⟨j, hjk, r, hj, he⟩⟩ := hoff
    · exact hs (hw s (List.mem_of_getElem? hk))
    · have hlt : k < (ss.map Statement.name?).length := by
        rw [List.length_map]
        exact (List.getElem?_eq_some_iff.1 hk).1
      apply List.nodup_iff_getElem?_ne_getElem?.1 hnd j k hjk hlt
      rw [List.getElem?_map, List.getElem?_map, hj, hk, Option.map_some, Option.map_some, he]

theorem offends_take_iff {ss : List Statement} {n k : Nat} (hk : k < n) :
    Offends (ss.take n) k ↔ Offends ss k := by
  have htake (j : Nat) (hj : j ≤ k) : (ss.take n)[j]? = ss[j]? := by
    rw [List.getElem?_take, if_pos (by omega)]
  simp only [Offends, htake k le_rfl]
  refine exists_congr fun s => and_congr_right fun _ => or_congr_right (exists_congr fun j => ?_)
  refine and_congr_right fun hj => ?_
  rw [htake j hj.le]

section Block
variable {text : String} {ss : List Statement}

theorem parse_eq (h : StatementsOf text.toList ss) :
    parse text = parseStatements [] (ss.map Statement.text) := by
  rw [parse, statementsOf_iff.1 h]

theorem map_name_of_declares {fs : List Field} (h : List.Forall₂ Statement.Declares ss fs) :
    ss.map Statement.name? = (fs.map Field.identifier).map fun n => some n.toList := by
  induction h with
  | nil => rfl
  | cons hf _ ih => rw [List.map_cons, List.map_cons, List.map_cons, ih, Statement.name?, hf.name]

theorem nodup_names_iff {fs : List Field} (h : List.Forall₂ Statement.Declares ss fs) :
    (ss.map Statement.name?).Nodup ↔ (fs.map Field.identifier).Nodup := by
  rw [map_name_of_declares h, List.nodup_map_iff]
  intro m n he
  exact String.toList_injective (Option.some.inj he)

theorem parseStatements_text_eq_ok_iff (ht : ∀ s ∈ ss, tokens s.text = s.tokens)
    {fs : List Field} : parseStatements [] (ss.map Statement.text) = .ok fs ↔
      List.Forall₂ Statement.Declares ss fs ∧ ∀ k, ¬ Offends ss k := by
  have each : List.Forall₂ (fun s f => parseStatement s.text = .ok f) ss fs ↔
      (∀ s ∈ ss, s.WellFormed) ∧ List.Forall₂ Statement.Declares ss fs := by
    rw [← List.forall₂_and_left]
    constructor
    · intro hall
      exact ((List.forall₂_and_left _ _).2 ⟨ht, hall⟩).imp fun _ _ h =>
        (parseStatement_eq_ok_iff h.1).1 h.2
    · intro hall
      exact ((List.forall₂_and_left _ _).2 ⟨ht, hall⟩).imp fun _ _ h =>
        (parseStatement_eq_ok_iff h.1).2 h.2
  rw [parseStatements_eq_ok_iff, List.forall₂_map_left_iff, each, forall_not_offends_iff]
  constructor
  · intro h
    obtain ⟨⟨hw, hd⟩, hnd, -⟩ := h
    exact ⟨hd, hw, (nodup_names_iff hd).2 hnd⟩
  · intro h
    obtain ⟨hd, hw, hnd⟩ := h
    exact ⟨⟨hw, hd⟩, (nodup_names_iff hd).1 hnd, by simp⟩

theorem exists_declares {s : Statement} (h : s.WellFormed) : ∃ f, s.Declares f := by
  obtain ⟨before, type, name, hs, -⟩ := h
  exact ⟨windowField before type name, (declares_iff hs _).2 rfl⟩

theorem exists_forall₂_declares (h : ∀ s ∈ ss, s.WellFormed) :
    ∃ fs, List.Forall₂ Statement.Declares ss fs :=
  exists_forall₂ fun s hs => exists_declares (h s hs)

theorem parse_eq_ok_iff (h : StatementsOf text.toList ss) {fs : List Field} :
    parse text = .ok fs ↔ List.Forall₂ Statement.Declares ss fs ∧ ∀ k, ¬ Offends ss k := by
  rw [parse_eq h, parseStatements_text_eq_ok_iff fun s hs => tokens_text h hs]

/-- A name that the first fields have taken is the name of a statement before. -/
theorem exists_earlier_name {k : Nat} {fs : List Field}
    (hd : List.Forall₂ Statement.Declares (ss.take k) fs) {n : String} (hn : n ∈ takenNames fs)
    {s : Statement} (hs : s.name? = some n.toList) :
    ∃ j < k, ∃ r, ss[j]? = some r ∧ r.name? = s.name? := by
  obtain ⟨f, hf, hfn⟩ := mem_takenNames.1 hn
  have hname : s.name? ∈ (ss.take k).map Statement.name? := by
    rw [map_name_of_declares hd, List.map_map, List.mem_map]
    exact ⟨f, hf, by rw [Function.comp_apply, hfn, hs]⟩
  obtain ⟨r, hr, hrs⟩ := List.mem_map.1 hname
  obtain ⟨j, hj⟩ := List.mem_iff_getElem?.1 hr
  rw [List.getElem?_take] at hj
  split at hj
  · next hjk => exact ⟨j, hjk, r, hj, hrs⟩
  · cases hj

/-- The first refused statement is the first that offends, and the fault is its own. -/
theorem offends_of_refused (ht : ∀ s ∈ ss, tokens s.text = s.tokens) {k : Nat} {s : Statement}
    {fs : List Field} {e : Fault} (hk : ss[k]? = some s)
    (hfs : parseStatements [] ((ss.take k).map Statement.text) = .ok fs)
    (he : parseStatements (takenNames fs) [s.text] = .error e) :
    IsLeast {k | Offends ss k} k ∧ s.HasFault e := by
  obtain ⟨hd, hno⟩ := (parseStatements_text_eq_ok_iff fun r hr =>
    ht r (List.mem_of_mem_take hr)).1 hfs
  have hts := ht s (List.mem_of_getElem? hk)
  have hleast (hoff : Offends ss k) : IsLeast {k | Offends ss k} k := by
    refine ⟨hoff, fun j hj => ?_⟩
    by_contra hlt
    exact hno j ((offends_take_iff (Nat.lt_of_not_le hlt)).2 hj)
  rcases parseStatements_singleton_error he with he | ⟨f, hf, hmem, rfl⟩
  · obtain ⟨hw, hfault⟩ := parseStatement_eq_error hts he
    exact ⟨hleast ⟨s, hk, .inl hw⟩, hfault⟩
  · obtain ⟨⟨before, type, name, hs, hty, hn⟩, hdf⟩ := (parseStatement_eq_ok_iff hts).1 hf
    refine ⟨hleast ⟨s, hk, .inr ?_⟩, ?_⟩
    · exact exists_earlier_name hd hmem hdf.name
    · rw [(declares_iff hs f).1 hdf]
      exact .duplicate hs hn hty

/-- A refused block has a first statement that is refused, and it is refused for the same reason
whatever follows it. -/
theorem exists_refused (h : StatementsOf text.toList ss) {e : Fault} (he : parse text = .error e) :
    ∃ k s, ss[k]? = some s ∧ IsLeast {k | Offends ss k} k ∧ s.HasFault e ∧
      ∀ rest, parseStatements [] ((ss.take (k + 1)).map Statement.text ++ rest) = .error e := by
  rw [parse_eq h] at he
  obtain ⟨k, cs, fs, hk, hfs, hcs⟩ := exists_first_refused he
  rw [List.getElem?_map, Option.map_eq_some_iff] at hk
  obtain ⟨s, hk, rfl⟩ := hk
  rw [← List.map_take] at hfs
  rw [List.append_nil] at hcs
  obtain ⟨hleast, hfault⟩ := offends_of_refused (fun s hs => tokens_text h hs) hk hfs hcs
  refine ⟨k, s, hk, hleast, hfault, fun rest => ?_⟩
  have hpre : parseStatements [] ((ss.take (k + 1)).map Statement.text) = .error e := by
    rw [List.take_add_one, hk, List.map_append, parseStatements_append, hfs]
    simp only [Option.toList_some, List.map_cons, List.map_nil, List.append_nil, hcs]
    rfl
  rw [parseStatements_append, hpre]

end Block

theorem parseRetained_eq_error {text : String} {e : Fault} (h : parse text = .error e) :
    parseRetained text = .error e := map_eq_error_iff.2 h

theorem readCode_eq_error {text : String} {e : Fault} (h : parse text = .error e)
    {r : ReadRequest} (hr : r.fieldsText = text) : r.code = .error e := by
  rw [ReadRequest.code_eq_error_iff, hr]
  exact parseRetained_eq_error h

theorem bindCode_eq_error {text : String} {e : Fault} (h : parse text = .error e)
    {r : BindRequest} (hr : r.fieldsText = text) : r.code = .error e := by
  rw [BindRequest.code_eq_error_iff, hr]
  exact parseRetained_eq_error h

/-- A block is accepted exactly when its statements are well formed and their names distinct. Its
fields are then those that the statements declare, one for each and in order, and those retained
are the others than static and transient ones. -/
theorem parse_accepts_exactly_wellFormed {text : String} {ss : List Statement}
    (h : StatementsOf text.toList ss) :
    ((∃ fs, parse text = .ok fs) ↔
      (∀ s ∈ ss, s.WellFormed) ∧ (ss.map Statement.name?).Nodup) ∧
    ∀ fs, parse text = .ok fs →
      List.Forall₂ Statement.Declares ss fs ∧
      parseRetained text = .ok (fs.filter fun f => !f.isStatic && !f.isTransient) := by
  refine ⟨?_, ?_⟩
  · rw [← forall_not_offends_iff]
    constructor
    · intro hok
      obtain ⟨fs, hfs⟩ := hok
      exact ((parse_eq_ok_iff h).1 hfs).2
    · intro hno
      obtain ⟨fs, hfs⟩ := exists_forall₂_declares (forall_not_offends_iff.1 hno).1
      exact ⟨fs, (parse_eq_ok_iff h).2 ⟨hfs, hno⟩⟩
  · intro fs hfs
    refine ⟨((parse_eq_ok_iff h).1 hfs).1, ?_⟩
    rw [parseRetained, hfs]
    rfl

/-- A modifier seven tokens from the end is out of reach, and one between no-break spaces is not. -/
theorem parse_accepts_within_window :
    let ss := [.ofText "static a b c d e int x".toList, .ofText "transient\u00a0 A B\u3000y".toList]
    StatementsOf "static a b c d e int x;\n ; transient\u00a0 A B\u3000y".toList ss ∧
      List.Forall₂ Statement.Declares ss [⟨"x", "int", false, false⟩, ⟨"y", "B", false, true⟩] ∧
      parseRetained "static a b c d e int x;\n ; transient\u00a0 A B\u3000y" =
        .ok [⟨"x", "int", false, false⟩] := by
  intro ss
  have h : StatementsOf "static a b c d e int x;\n ; transient\u00a0 A B\u3000y".toList ss :=
    statementsOf_iff.2 (by decide)
  exact ⟨h, (parse_accepts_exactly_wellFormed h).2 _ (by decide)⟩

/-- A block is refused exactly when a statement offends, with the fault of the first that does.
Every block that has the same statements up to that one is refused with the same fault, and no code
is generated from it. -/
theorem parse_refuses_at_first_offence {text : String} {ss : List Statement}
    (h : StatementsOf text.toList ss) (e : Fault) :
    parse text = .error e ↔
      ∃ k s, ss[k]? = some s ∧ IsLeast {k | Offends ss k} k ∧ s.HasFault e ∧
        ∀ text' ss', StatementsOf text'.toList ss' → ss.take (k + 1) <+: ss' →
          parse text' = .error e ∧ parseRetained text' = .error e ∧
          (∀ r : ReadRequest, r.fieldsText = text' → r.code = .error e) ∧
          ∀ r : BindRequest, r.fieldsText = text' → r.code = .error e := by
  constructor
  · intro he
    obtain ⟨k, s, hk, hleast, hfault, hrest⟩ := exists_refused h he
    refine ⟨k, s, hk, hleast, hfault, ?_⟩
    intro text' ss' h' hpre
    obtain ⟨rest, rfl⟩ := hpre
    have hparse : parse text' = .error e := by
      rw [parse_eq h', List.map_append, hrest]
    exact ⟨hparse, parseRetained_eq_error hparse, fun r hr => readCode_eq_error hparse hr,
      fun r hr => bindCode_eq_error hparse hr⟩
  · intro hfirst
    obtain ⟨k, s, hk, hleast, hfault, -⟩ := hfirst
    cases hp : parse text with
    | ok fs => exact absurd hleast.1 (((parse_eq_ok_iff h).1 hp).2 k)
    | error d =>
      obtain ⟨k', s', hk', hleast', hfault', -⟩ := exists_refused h hp
      have hkk : k' = k := hleast'.unique hleast
      subst hkk
      rw [hk, Option.some.injEq] at hk'
      subst hk'
      rw [hfault.unique hfault']

/-- A name that a static field has taken is found before the token that misses its type. -/
theorem parse_refuses_duplicate_first :
    let ss := [.ofText "static int id".toList, .ofText "long id".toList, .ofText "orphan".toList]
    StatementsOf "static int id; long id; orphan".toList ss ∧
      ∃ k s, ss[k]? = some s ∧ IsLeast {k | Offends ss k} k ∧
        s.HasFault (.duplicateField "id" "long id") ∧
        ∀ text' ss', StatementsOf text'.toList ss' → ss.take (k + 1) <+: ss' →
          parse text' = .error (.duplicateField "id" "long id") ∧
          parseRetained text' = .error (.duplicateField "id" "long id") ∧
          (∀ r : ReadRequest, r.fieldsText = text' →
            r.code = .error (.duplicateField "id" "long id")) ∧
          ∀ r : BindRequest, r.fieldsText = text' →
            r.code = .error (.duplicateField "id" "long id") := by
  intro ss
  have h : StatementsOf "static int id; long id; orphan".toList ss := statementsOf_iff.2 (by decide)
  exact ⟨h, (parse_refuses_at_first_offence h _).1 (by decide)⟩

end RowBinding.Declaration
