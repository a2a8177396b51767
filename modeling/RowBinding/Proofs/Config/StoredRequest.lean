import RowBinding.Proofs.Config.Members
import RowBinding.Proofs.Request.Code
import RowBinding.Config.Request

/-!
# Stored requests

The stored members of a request are read exactly if each of the three required keys comes once
with a string and the optional key comes at most once, with null or a value of its kind. If
required keys are missing and all else is as it should be, the first of them is named.
-/
namespace RowBinding.Config
open Json

/-- A key that may be missing: it comes at most once, with null or a value that is read. -/
inductive ReadOptional {β : Type} (read : Value → Except ReadError β) :
    List Value → Option β → Prop
  | absent : ReadOptional read [] none
  | null : ReadOptional read [.null] none
  | present {v : Value} {b : β} (h : read v = .ok b) : ReadOptional read [v] (some b)

theorem readOptional_singleton_iff {β : Type} {read : Value → Except ReadError β} {v : Value}
    {b : Option β} :
    ReadOptional read [v] b ↔ v = .null ∧ b = none ∨ ∃ c, read v = .ok c ∧ b = some c := by
  constructor
  · intro h
    cases h with
    | null => exact .inl ⟨rfl, rfl⟩
    | present hv => exact .inr ⟨_, hv, rfl⟩
  · rintro (⟨rfl, rfl⟩ | ⟨c, hv, rfl⟩)
    · exact .null
    · exact .present hv

theorem textOf_eq_ok_iff {v : Value} {s : String} : textOf v = .ok s ↔ v = .string s := by
  cases v <;> simp [textOf]

theorem ReadOptional.unique {β : Type} {read : Value → Except ReadError β} {vs : List Value}
    {b b' : Option β} (hrefused : ∀ b, read .null ≠ .ok b) (h : ReadOptional read vs b)
    (h' : ReadOptional read vs b') : b = b' := by
  cases h with
  | absent =>
    cases h'
    rfl
  | null =>
    cases h' with
    | null => rfl
    | present hv => exact absurd hv (hrefused _)
  | present hv =>
    cases h' with
    | null => exact absurd hv (hrefused _)
    | present hv' =>
      rw [hv] at hv'
      cases hv'
      rfl

section Optional
variable {β : Type} {read : Value → Except ReadError β}
  {orNull : Value → Except ReadError (Option β)}

/-- A reader that reads null as nothing and anything else as `read` does. -/
theorem readOptional_iff (hnull : orNull .null = .ok none)
    (hother : ∀ v, v ≠ .null → orNull v = (read v).map some)
    (hrefused : ∀ b, read .null ≠ .ok b) {vs : List Value} {b : Option β} :
    ReadOptional read vs b ↔ ∃ found, ReadOnce orNull vs found ∧ found.join = b := by
  constructor
  · intro h
    cases h with
    | absent => exact ⟨none, .absent, rfl⟩
    | null => exact ⟨some none, .present hnull, rfl⟩
    | @present v b hv =>
      have hne : v ≠ .null := by
        rintro rfl
        exact hrefused b hv
      have horNull : orNull v = .ok (some b) := by
        rw [hother v hne, hv]
        rfl
      exact ⟨some (some b), .present horNull, rfl⟩
  · rintro ⟨found, h, rfl⟩
    cases h with
    | absent => exact .absent
    | @present v o hv =>
      by_cases hne : v = .null
      · subst v
        rw [hnull] at hv
        cases hv
        exact .null
      · rw [hother v hne] at hv
        obtain ⟨b, hb, rfl⟩ := map_eq_ok_iff.1 hv
        exact .present hb

theorem readOptional_policy_iff {vs : List Value} {p : Option Column.NamingPolicy} :
    ReadOptional policyOf vs p ↔ ∃ found, ReadOnce optionalPolicyOf vs found ∧ found.join = p := by
  refine readOptional_iff rfl (fun v hv => ?_) nofun
  cases v <;> first | rfl | exact absurd rfl hv

theorem readOptional_text_iff {vs : List Value} {s : Option String} :
    ReadOptional textOf vs s ↔ ∃ found, ReadOnce optionalTextOf vs found ∧ found.join = s := by
  refine readOptional_iff rfl (fun v hv => ?_) nofun
  cases v <;> first | rfl | exact absurd rfl hv

end Optional

/-- The keys that a request must have besides the direction. -/
def requiredKeys : Direction → List String
  | .readerToObject => ["reader_id", "object_id", "fields_text"]
  | .objectToWriter => ["writer_id", "object_id", "fields_text"]

/-- A key comes at most once, and then with a string. -/
def TextIfGiven (members : List (String × Value)) (key : String) : Prop :=
  valuesOf key members = [] ∨ ∃ s, valuesOf key members = [.string s]

/-- How required texts are read before they are looked for. -/
def someText (v : Value) : Except ReadError (Option String) := (textOf v).map some

section Required
variable {members : List (String × Value)} {found : List (String × Option String)} {key : String}

theorem someText_eq_ok_iff {v : Value} {t : Option String} :
    someText v = .ok t ↔ ∃ s, v = .string s ∧ t = some s := by
  rw [someText, map_eq_ok_iff]
  exact exists_congr fun s => and_congr textOf_eq_ok_iff eq_comm

theorem exists_readOnce_someText (h : TextIfGiven members key) :
    ∃ t, ReadOnce someText (valuesOf key members) t := by
  obtain h | ⟨s, h⟩ := h
  · exact ⟨none, by rw [h]; exact .absent⟩
  · exact ⟨some (some s), by rw [h]; exact .present rfl⟩

/-- A text was found where there is one, and nothing where there is none. -/
theorem cases_of_readOnce_someText {vs : List Value} {t : Option (Option String)}
    (h : ReadOnce someText vs t) :
    vs = [] ∧ t = none ∨ ∃ s, vs = [.string s] ∧ t = some (some s) := by
  cases h with
  | absent => exact .inl ⟨rfl, rfl⟩
  | present hv =>
    obtain ⟨s, rfl, rfl⟩ := someText_eq_ok_iff.1 hv
    exact .inr ⟨s, rfl, rfl⟩

/-- What a key is required to have was found where its values were read. -/
theorem required_eq_ok_iff (h : ReadOnce someText (valuesOf key members) (found.lookup key))
    {s : String} : required found key = .ok s ↔ valuesOf key members = [.string s] := by
  obtain ⟨hvs, ht⟩ | ⟨s', hvs, ht⟩ := cases_of_readOnce_someText h
  · simp [required, hvs, ht]
  · simp [required, hvs, ht]

theorem required_of_missing (h : ReadOnce someText (valuesOf key members) (found.lookup key))
    (hnil : valuesOf key members = []) : required found key = .error (.missingField key) := by
  obtain ⟨-, ht⟩ | ⟨s, hvs, -⟩ := cases_of_readOnce_someText h
  · rw [required, ht]
  · rw [hnil] at hvs
    cases hvs

theorem exists_required (h : ReadOnce someText (valuesOf key members) (found.lookup key))
    (hne : valuesOf key members ≠ []) : ∃ s, required found key = .ok s := by
  obtain ⟨hvs, -⟩ | ⟨s, -, ht⟩ := cases_of_readOnce_someText h
  · exact absurd hvs hne
  · exact ⟨s, by rw [required, ht]⟩

variable {k₁ k₂ k₃ : String} {γ : Type} {f : String → String → String → γ}

/-- Three required texts, looked for in order. -/
def requireThree (found : List (String × Option String)) (k₁ k₂ k₃ : String)
    (f : String → String → String → γ) : Except ReadError γ := do
  let a ← required found k₁
  let b ← required found k₂
  let c ← required found k₃
  return f a b c

theorem requireThree_eq_ok_iff
    (h : ∀ k ∈ [k₁, k₂, k₃], ReadOnce someText (valuesOf k members) (found.lookup k)) {x : γ} :
    requireThree found k₁ k₂ k₃ f = .ok x ↔
      ∃ a b c, valuesOf k₁ members = [.string a] ∧ valuesOf k₂ members = [.string b] ∧
        valuesOf k₃ members = [.string c] ∧ f a b c = x := by
  simp only [List.forall_mem_cons] at h
  obtain ⟨h₁, h₂, h₃, -⟩ := h
  simp only [requireThree, bind_eq_ok_iff, required_eq_ok_iff h₁, required_eq_ok_iff h₂,
    required_eq_ok_iff h₃, pure, Except.pure, Except.ok.injEq]
  constructor
  · rintro ⟨a, ha, b, hb, c, hc, hx⟩
    exact ⟨a, b, c, ha, hb, hc, hx⟩
  · rintro ⟨a, b, c, ha, hb, hc, hx⟩
    exact ⟨a, ha, b, hb, c, hc, hx⟩

/-- A required text that comes before others: if it is there, the others decide. -/
theorem bind_required_of_missing {ks : List String} {g : String → Except ReadError γ}
    (h : ReadOnce someText (valuesOf k₁ members) (found.lookup k₁))
    (hfirst : (k₁ :: ks).find? (fun k => (valuesOf k members).isEmpty) = some key)
    (hg : ks.find? (fun k => (valuesOf k members).isEmpty) = some key →
      ∀ s, g s = .error (.missingField key)) :
    (required found k₁ >>= g) = .error (.missingField key) := by
  by_cases hnil : valuesOf k₁ members = []
  · rw [List.find?_cons_of_pos (by simp [hnil])] at hfirst
    cases hfirst
    rw [required_of_missing h hnil]
    rfl
  · rw [List.find?_cons_of_neg (by simp [hnil])] at hfirst
    obtain ⟨s, hs⟩ := exists_required h hnil
    rw [hs]
    exact hg hfirst s

/-- The first of three texts that is missing is named. -/
theorem requireThree_of_missing
    (h : ∀ k ∈ [k₁, k₂, k₃], ReadOnce someText (valuesOf k members) (found.lookup k))
    (hfirst : [k₁, k₂, k₃].find? (fun k => (valuesOf k members).isEmpty) = some key) :
    requireThree found k₁ k₂ k₃ f = .error (.missingField key) := by
  simp only [List.forall_mem_cons] at h
  obtain ⟨h₁, h₂, h₃, -⟩ := h
  apply bind_required_of_missing h₁ hfirst
  intro hfirst a
  apply bind_required_of_missing h₂ hfirst
  intro hfirst b
  apply bind_required_of_missing h₃ hfirst
  intro hfirst
  cases hfirst

end Required

section Stored
variable {members : List (String × Value)}

theorem textIfGiven_of_three {k₁ k₂ k₃ a b c : String} (ha : valuesOf k₁ members = [.string a])
    (hb : valuesOf k₂ members = [.string b]) (hc : valuesOf k₃ members = [.string c]) :
    ∀ key ∈ [k₁, k₂, k₃], TextIfGiven members key := by
  simp only [List.forall_mem_cons]
  exact ⟨.inr ⟨_, ha⟩, .inr ⟨_, hb⟩, .inr ⟨_, hc⟩, by simp⟩

theorem readRequestText_eq_some_iff {key : String}
    {read : Value → Except ReadError (Option String)} :
    readRequestText key = some read ↔
      key ∈ requiredKeys .readerToObject ∧ read = someText := by
  simp only [readRequestText, requiredKeys, List.mem_cons, List.not_mem_nil, or_false,
    Bool.or_eq_true, decide_eq_true_eq, or_assoc]
  split
  · next h => simp [h, eq_comm, someText, funext_iff]
  · next h => simp [h]

theorem readRequestPolicy_eq_some_iff {key : String}
    {read : Value → Except ReadError (Option Column.NamingPolicy)} :
    readRequestPolicy key = some read ↔ key = "naming" ∧ read = optionalPolicyOf := by
  rw [readRequestPolicy]
  split
  · next h => simp [h, eq_comm]
  · next h => simp [h]

theorem bindRequestText_eq_some_iff {key : String}
    {read : Value → Except ReadError (Option String)} :
    bindRequestText key = some read ↔
      key ∈ requiredKeys .objectToWriter ∧ read = someText ∨
        key = "counter_id" ∧ read = optionalTextOf := by
  simp only [bindRequestText, requiredKeys, List.mem_cons, List.not_mem_nil, or_false,
    Bool.or_eq_true, decide_eq_true_eq, or_assoc]
  split
  · next h =>
    have hne : key ≠ "counter_id" := by
      obtain rfl | rfl | rfl := h <;> decide
    simp [h, hne, eq_comm, someText, funext_iff]
  · next h =>
    split
    · next hc => simp [hc, eq_comm]
    · next hc => simp [h, hc]

/-- The optional key of a direction comes at most once, with null or a value that is read. -/
def OptionalReadable (members : List (String × Value)) : Direction → Prop
  | .readerToObject => ∃ p, ReadOptional policyOf (valuesOf "naming" members) p
  | .objectToWriter => ∃ c, ReadOptional textOf (valuesOf "counter_id" members) c

theorem exists_policies (h : OptionalReadable members .readerToObject) :
    ∃ policies, readMembers readRequestPolicy [] (asRead members) = .ok policies := by
  obtain ⟨p, hp⟩ := h
  obtain ⟨found, hfound, -⟩ := readOptional_policy_iff.1 hp
  apply exists_readMembers
  intro key read hread
  obtain ⟨rfl, rfl⟩ := readRequestPolicy_eq_some_iff.1 hread
  exact ⟨found, hfound⟩

theorem exists_found_of_reader (h : ∀ key ∈ requiredKeys .readerToObject, TextIfGiven members key) :
    ∃ found, readMembers readRequestText [] (asRead members) = .ok found := by
  apply exists_readMembers
  intro key read hread
  obtain ⟨hkey, rfl⟩ := readRequestText_eq_some_iff.1 hread
  exact exists_readOnce_someText (h key hkey)

section Reader
variable {policies : List (String × Option Column.NamingPolicy)}
  {found : List (String × Option String)}

theorem readRequestOf_eq
    (hpolicies : readMembers readRequestPolicy [] (asRead members) = .ok policies)
    (hfound : readMembers readRequestText [] (asRead members) = .ok found) :
    readRequestOf members = requireThree found "reader_id" "object_id" "fields_text"
      fun a b c => ⟨a, b, c, (policies.lookup "naming").join⟩ := by
  rw [readRequestOf, hpolicies, hfound]
  rfl

theorem readOnce_of_reader (hfound : readMembers readRequestText [] (asRead members) = .ok found) :
    ∀ k ∈ requiredKeys .readerToObject,
      ReadOnce someText (valuesOf k members) (found.lookup k) := by
  intro k hk
  exact readOnce_of_readMembers hfound (readRequestText_eq_some_iff.2 ⟨hk, rfl⟩)

theorem readOptional_of_policies
    (hpolicies : readMembers readRequestPolicy [] (asRead members) = .ok policies) :
    ReadOptional policyOf (valuesOf "naming" members) (policies.lookup "naming").join :=
  readOptional_policy_iff.2 ⟨_, readOnce_of_readMembers hpolicies
    (readRequestPolicy_eq_some_iff.2 ⟨rfl, rfl⟩), rfl⟩

end Reader

theorem readRequestOf_eq_ok_iff {r : ReadRequest} :
    readRequestOf members = .ok r ↔
      valuesOf "reader_id" members = [.string r.readerId] ∧
      valuesOf "object_id" members = [.string r.objectId] ∧
      valuesOf "fields_text" members = [.string r.fieldsText] ∧
      ReadOptional policyOf (valuesOf "naming" members) r.naming := by
  constructor
  · intro h
    have hdo := h
    simp only [readRequestOf, bind_eq_ok_iff] at hdo
    obtain ⟨policies, hpolicies, found, hfound, -⟩ := hdo
    rw [readRequestOf_eq hpolicies hfound, requireThree_eq_ok_iff (readOnce_of_reader hfound)] at h
    obtain ⟨a, b, c, ha, hb, hc, rfl⟩ := h
    exact ⟨ha, hb, hc, readOptional_of_policies hpolicies⟩
  · rintro ⟨ha, hb, hc, hnaming⟩
    obtain ⟨policies, hpolicies⟩ := exists_policies ⟨_, hnaming⟩
    obtain ⟨found, hfound⟩ := exists_found_of_reader (textIfGiven_of_three ha hb hc)
    rw [readRequestOf_eq hpolicies hfound, requireThree_eq_ok_iff (readOnce_of_reader hfound)]
    have hsame := (readOptional_of_policies hpolicies).unique nofun hnaming
    exact ⟨_, _, _, ha, hb, hc, by rw [hsame]⟩

theorem readRequestOf_of_missing {key : String}
    (htexts : ∀ k ∈ requiredKeys .readerToObject, TextIfGiven members k)
    (hoptional : OptionalReadable members .readerToObject)
    (hfirst : (requiredKeys .readerToObject).find? (fun k => (valuesOf k members).isEmpty) =
      some key) : readRequestOf members = .error (.missingField key) := by
  obtain ⟨policies, hpolicies⟩ := exists_policies hoptional
  obtain ⟨found, hfound⟩ := exists_found_of_reader htexts
  rw [readRequestOf_eq hpolicies hfound]
  exact requireThree_of_missing (readOnce_of_reader hfound) hfirst

theorem exists_found_of_writer (h : ∀ key ∈ requiredKeys .objectToWriter, TextIfGiven members key)
    (hcounter : OptionalReadable members .objectToWriter) :
    ∃ found, readMembers bindRequestText [] (asRead members) = .ok found := by
  apply exists_readMembers
  intro key read hread
  obtain ⟨hkey, rfl⟩ | ⟨rfl, rfl⟩ := bindRequestText_eq_some_iff.1 hread
  · exact exists_readOnce_someText (h key hkey)
  · obtain ⟨c, hc⟩ := hcounter
    obtain ⟨t, ht, -⟩ := readOptional_text_iff.1 hc
    exact ⟨t, ht⟩

section Writer
variable {found : List (String × Option String)}

theorem bindRequestOf_eq (hfound : readMembers bindRequestText [] (asRead members) = .ok found) :
    bindRequestOf members = requireThree found "writer_id" "object_id" "fields_text"
      fun a b c => ⟨a, b, c, (found.lookup "counter_id").join⟩ := by
  rw [bindRequestOf, hfound]
  rfl

theorem readOnce_of_writer (hfound : readMembers bindRequestText [] (asRead members) = .ok found) :
    ∀ k ∈ requiredKeys .objectToWriter,
      ReadOnce someText (valuesOf k members) (found.lookup k) := by
  intro k hk
  exact readOnce_of_readMembers hfound (bindRequestText_eq_some_iff.2 (.inl ⟨hk, rfl⟩))

theorem readOptional_of_writer
    (hfound : readMembers bindRequestText [] (asRead members) = .ok found) :
    ReadOptional textOf (valuesOf "counter_id" members) (found.lookup "counter_id").join :=
  readOptional_text_iff.2 ⟨_, readOnce_of_readMembers hfound
    (bindRequestText_eq_some_iff.2 (.inr ⟨rfl, rfl⟩)), rfl⟩

end Writer

theorem bindRequestOf_eq_ok_iff {r : BindRequest} :
    bindRequestOf members = .ok r ↔
      valuesOf "writer_id" members = [.string r.writerId] ∧
      valuesOf "object_id" members = [.string r.objectId] ∧
      valuesOf "fields_text" members = [.string r.fieldsText] ∧
      ReadOptional textOf (valuesOf "counter_id" members) r.counterId := by
  constructor
  · intro h
    have hdo := h
    simp only [bindRequestOf, bind_eq_ok_iff] at hdo
    obtain ⟨found, hfound, -⟩ := hdo
    rw [bindRequestOf_eq hfound, requireThree_eq_ok_iff (readOnce_of_writer hfound)] at h
    obtain ⟨a, b, c, ha, hb, hc, rfl⟩ := h
    exact ⟨ha, hb, hc, readOptional_of_writer hfound⟩
  · rintro ⟨ha, hb, hc, hcounter⟩
    obtain ⟨found, hfound⟩ :=
      exists_found_of_writer (textIfGiven_of_three ha hb hc) ⟨_, hcounter⟩
    rw [bindRequestOf_eq hfound, requireThree_eq_ok_iff (readOnce_of_writer hfound)]
    have hsame := (readOptional_of_writer hfound).unique nofun hcounter
    exact ⟨_, _, _, ha, hb, hc, by rw [hsame]⟩

theorem bindRequestOf_of_missing {key : String}
    (htexts : ∀ k ∈ requiredKeys .objectToWriter, TextIfGiven members k)
    (hoptional : OptionalReadable members .objectToWriter)
    (hfirst : (requiredKeys .objectToWriter).find? (fun k => (valuesOf k members).isEmpty) =
      some key) : bindRequestOf members = .error (.missingField key) := by
  obtain ⟨found, hfound⟩ := exists_found_of_writer htexts hoptional
  rw [bindRequestOf_eq hfound]
  exact requireThree_of_missing (readOnce_of_writer hfound) hfirst

end Stored

end RowBinding.Config
