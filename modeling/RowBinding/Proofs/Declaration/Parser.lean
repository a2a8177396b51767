import RowBinding.Proofs.Declaration.Grammar

/-!
# Reading statements

What `parseStatement` makes of one statement, in the terms of the grammar, and what
`parseStatements` makes of a list of them: it reads each one, in order, and stops at the first that
is refused. Reading a list in two goes gives the same as reading it in one.
-/
namespace RowBinding.Declaration
open Text

section Single
variable {s : Statement}

theorem mem_window_iff {before : List (List Char)} {type name : List Char}
    (hs : s.tokens = before ++ [type, name]) (word : String) :
    (before.reverse.take modifierWindow).contains word.toList = true ↔ s.HasModifier word := by
  rw [Statement.reverse_tokens_iff] at hs
  rw [List.contains_iff_mem, List.mem_iff_getElem?]
  simp only [Statement.HasModifier, Statement.fromEnd?, hs, modifierWindow, List.getElem?_take]
  constructor
  · intro hmem
    obtain ⟨i, hi⟩ := hmem
    split at hi
    · exact ⟨i + 2, by omega, by omega, hi⟩
    · simp at hi
  · intro hmod
    obtain ⟨i, h2, h5, hi⟩ := hmod
    obtain ⟨j, rfl⟩ := Nat.exists_eq_add_of_le' h2
    exact ⟨j, by rw [if_pos (by omega)]; exact hi⟩

theorem parseStatement_short (ht : tokens s.text = s.tokens) (hs : s.tokens.length < 2) :
    parseStatement s.text = .error (.missingTokens (String.ofList s.text)) := by
  rw [parseStatement, ht]
  split
  · next hr =>
    rw [← List.length_reverse, hr] at hs
    simp only [List.length_cons] at hs
    omega
  · rfl

def windowField (before : List (List Char)) (type name : List Char) : Field where
  identifier := String.ofList name
  declaredType := String.ofList type
  isStatic := (before.reverse.take modifierWindow).contains "static".toList
  isTransient := (before.reverse.take modifierWindow).contains "transient".toList

open Classical in
theorem parseStatement_long {before : List (List Char)} {type name : List Char}
    (ht : tokens s.text = s.tokens) (hs : s.tokens = before ++ [type, name]) :
    parseStatement s.text =
      if IsIdentifier name then
        if IsIdentifier type then .ok (windowField before type name)
        else .error (.invalidTypeName (String.ofList type) (String.ofList s.text))
      else .error (.invalidFieldName (String.ofList name) (String.ofList s.text)) := by
  rw [parseStatement, ht, Statement.reverse_tokens_iff.1 hs]
  simp only [← isIdentifierChars_iff, windowField]
  cases isIdentifierChars name <;> cases isIdentifierChars type <;> rfl

theorem declares_iff {before : List (List Char)} {type name : List Char}
    (hs : s.tokens = before ++ [type, name]) (f : Field) :
    s.Declares f ↔ f = windowField before type name := by
  have hr := Statement.reverse_tokens_iff.1 hs
  constructor
  · intro ⟨hn, hty, hst, htr⟩
    simp only [Statement.fromEnd?, hr, List.getElem?_cons_zero, List.getElem?_cons_succ,
      Option.some.injEq] at hn hty
    rw [← mem_window_iff hs, ← Bool.eq_iff_iff] at hst htr
    rw [windowField, hn, hty, String.ofList_toList, String.ofList_toList, ← hst, ← htr]
  · intro hf
    subst f
    exact ⟨by simp [Statement.fromEnd?, hr, windowField],
      by simp [Statement.fromEnd?, hr, windowField], mem_window_iff hs _, mem_window_iff hs _⟩

/-- A statement is read as a field exactly when it is well formed, and as the field it declares. -/
theorem parseStatement_eq_ok_iff (ht : tokens s.text = s.tokens) {f : Field} :
    parseStatement s.text = .ok f ↔ s.WellFormed ∧ s.Declares f := by
  constructor
  · intro h
    rcases s.short_or_long with hs | ⟨before, type, name, hs⟩
    · rw [parseStatement_short ht hs] at h
      cases h
    · rw [parseStatement_long ht hs] at h
      split_ifs at h with hn hty
      rw [Except.ok.injEq] at h
      exact ⟨⟨before, type, name, hs, hty, hn⟩, (declares_iff hs f).2 h.symm⟩
  · intro h
    obtain ⟨⟨before, type, name, hs, hty, hn⟩, hf⟩ := h
    rw [parseStatement_long ht hs, if_pos hn, if_pos hty, (declares_iff hs f).1 hf]

theorem parseStatement_eq_error (ht : tokens s.text = s.tokens) {e : Fault}
    (h : parseStatement s.text = .error e) : ¬ s.WellFormed ∧ s.HasFault e := by
  refine ⟨?_, ?_⟩
  · intro hw
    obtain ⟨before, type, name, hs, hty, hn⟩ := hw
    rw [parseStatement_long ht hs, if_pos hn, if_pos hty] at h
    cases h
  rcases s.short_or_long with hs | ⟨before, type, name, hs⟩
  · rw [parseStatement_short ht hs, Except.error.injEq] at h
    exact h ▸ .missingTokens hs
  rw [parseStatement_long ht hs] at h
  split_ifs at h with hn hty
  · rw [Except.error.injEq] at h
    exact h ▸ .typeName hs hn hty
  · rw [Except.error.injEq] at h
    exact h ▸ .fieldName hs hn

theorem isIdentifier_of_parseStatement {s : List Char} {f : Field} (h : parseStatement s = .ok f) :
    isIdentifier f.identifier ∧ isIdentifier f.declaredType := by
  rw [parseStatement] at h
  split at h
  · split_ifs at h with hn hty
    rw [Except.ok.injEq] at h
    subst h
    simp only [isIdentifier, String.toList_ofList]
    exact ⟨by simpa using hn, by simpa using hty⟩
  · cases h

end Single

def takenNames (fs : List Field) : List String := (fs.map Field.identifier).reverse

theorem mem_takenNames {fs : List Field} {n : String} :
    n ∈ takenNames fs ↔ ∃ f ∈ fs, f.identifier = n := by
  rw [takenNames, List.mem_reverse, List.mem_map]

/-- Statements are read in two goes as in one, when the second knows the names that the first has
taken. -/
theorem parseStatements_append (seen : List String) (a b : List (List Char)) :
    parseStatements seen (a ++ b) =
      match parseStatements seen a with
      | .error e => .error e
      | .ok fs => (parseStatements (takenNames fs ++ seen) b).map (fs ++ ·) := by
  induction a generalizing seen with
  | nil => cases h : parseStatements seen b <;> simp [parseStatements, takenNames, h, Except.map]
  | cons s a ih =>
    rw [List.cons_append, parseStatements, parseStatements]
    cases parseStatement s with
    | error e => rfl
    | ok f =>
      simp only
      split
      · rfl
      · rw [ih]
        cases parseStatements (f.identifier :: seen) a with
        | error e => rfl
        | ok fs =>
          simp only [takenNames, List.map_cons, List.reverse_cons, List.append_assoc,
            List.singleton_append]
          cases parseStatements ((fs.map Field.identifier).reverse ++ f.identifier :: seen) b
          all_goals rfl

theorem parseStatements_cons_eq_ok_iff {seen : List String} {s : List Char}
    {ss : List (List Char)} {fs : List Field} :
    parseStatements seen (s :: ss) = .ok fs ↔
      ∃ f gs, fs = f :: gs ∧ parseStatement s = .ok f ∧ f.identifier ∉ seen ∧
        parseStatements (f.identifier :: seen) ss = .ok gs := by
  rw [parseStatements]
  cases hs : parseStatement s with
  | error e => simp
  | ok f =>
    simp only [List.contains_iff_mem, Except.ok.injEq]
    by_cases hseen : f.identifier ∈ seen
    · simp [hseen]
    · cases hr : parseStatements (f.identifier :: seen) ss with
      | error e => simp [hseen, hr]
      | ok gs => simp [hseen, hr, eq_comm]

/-- Statements are read exactly when each is and no name is taken twice. -/
theorem parseStatements_eq_ok_iff {seen : List String} {ss : List (List Char)} {fs : List Field} :
    parseStatements seen ss = .ok fs ↔
      List.Forall₂ (fun s f => parseStatement s = .ok f) ss fs ∧
        (fs.map Field.identifier).Nodup ∧ ∀ f ∈ fs, f.identifier ∉ seen := by
  induction ss generalizing seen fs with
  | nil =>
    rw [parseStatements, Except.ok.injEq, List.forall₂_nil_left_iff]
    constructor
    · intro hfs
      subst fs
      simp
    · intro h
      exact h.1.symm
  | cons s ss ih =>
    rw [parseStatements_cons_eq_ok_iff]
    constructor
    · intro h
      obtain ⟨f, gs, rfl, hs, hf, hgs⟩ := h
      obtain ⟨hall, hnd, hnew⟩ := ih.1 hgs
      simp only [List.mem_cons, not_or] at hnew
      refine ⟨.cons hs hall, ?_, ?_⟩
      · rw [List.map_cons, List.nodup_cons, List.mem_map]
        refine ⟨?_, hnd⟩
        intro htaken
        obtain ⟨g, hg, he⟩ := htaken
        exact (hnew g hg).1 he
      · intro g hg
        rcases List.mem_cons.1 hg with rfl | hg
        · exact hf
        · exact (hnew g hg).2
    · intro h
      obtain ⟨hall, hnd, hnew⟩ := h
      obtain ⟨f, gs, hs, hgs, rfl⟩ := List.forall₂_cons_left_iff.1 hall
      rw [List.map_cons, List.nodup_cons, List.mem_map] at hnd
      refine ⟨f, gs, rfl, hs, hnew f (by simp), ih.2 ⟨hgs, hnd.2, ?_⟩⟩
      intro g hg
      rw [List.mem_cons, not_or]
      exact ⟨fun he => hnd.1 ⟨g, hg, he⟩, hnew g (List.mem_cons_of_mem f hg)⟩

/-- Which names are taken decides only whether statements are read, not what they are read as. -/
theorem parseStatements_seen_iff {seen : List String} {ss : List (List Char)} {fs : List Field} :
    parseStatements seen ss = .ok fs ↔
      parseStatements [] ss = .ok fs ∧ ∀ f ∈ fs, f.identifier ∉ seen := by
  rw [parseStatements_eq_ok_iff, parseStatements_eq_ok_iff]
  constructor
  · intro h
    obtain ⟨hall, hnd, hnew⟩ := h
    exact ⟨⟨hall, hnd, by simp⟩, hnew⟩
  · intro h
    obtain ⟨⟨hall, hnd, -⟩, hnew⟩ := h
    exact ⟨hall, hnd, hnew⟩

/-- What every accepted block declares: identifiers for names and types, and no name twice. -/
structure Declarable (fs : List Field) : Prop where
  identifiers : ∀ f ∈ fs, isIdentifier f.identifier
  types : ∀ f ∈ fs, isIdentifier f.declaredType
  distinct : (fs.map Field.identifier).Nodup

theorem declarable_of_parse {text : String} {fs : List Field} (h : parse text = .ok fs) :
    Declarable fs := by
  obtain ⟨hall, hnd, -⟩ := parseStatements_eq_ok_iff.1 h
  have hid : ∀ f ∈ fs, isIdentifier f.identifier ∧ isIdentifier f.declaredType := by
    have hflip := List.Forall₂.flip hall
    exact ((List.forall₂_and_left fs _).1 (hflip.imp fun f s hs =>
      ⟨isIdentifier_of_parseStatement hs, hs⟩)).1
  exact ⟨fun f hf => (hid f hf).1, fun f hf => (hid f hf).2, hnd⟩

theorem parseStatements_singleton_error {seen : List String} {s : List Char} {e : Fault}
    (h : parseStatements seen [s] = .error e) : parseStatement s = .error e ∨
      ∃ f, parseStatement s = .ok f ∧ f.identifier ∈ seen ∧
        e = .duplicateField f.identifier (String.ofList s) := by
  rw [parseStatements] at h
  cases hs : parseStatement s with
  | error d =>
    simp only [hs, Except.error.injEq] at h
    exact .inl (congrArg Except.error h)
  | ok f =>
    simp only [hs] at h
    split at h
    · next hseen =>
      rw [Except.error.injEq] at h
      exact .inr ⟨f, rfl, List.contains_iff_mem.1 hseen, h.symm⟩
    · simp [parseStatements] at h

theorem exists_first_refused {seen : List String} {ss : List (List Char)} {e : Fault}
    (h : parseStatements seen ss = .error e) :
    ∃ k s fs, ss[k]? = some s ∧ parseStatements seen (ss.take k) = .ok fs ∧
      parseStatements (takenNames fs ++ seen) [s] = .error e := by
  induction ss using List.reverseRecOn with
  | nil => simp [parseStatements] at h
  | append_singleton ss s ih =>
    rw [parseStatements_append] at h
    cases hr : parseStatements seen ss with
    | error d =>
      rw [hr, Except.error.injEq] at h
      subst h
      obtain ⟨k, t, fs, hk, hfs, ht⟩ := ih hr
      have hlt : k < ss.length := (List.getElem?_eq_some_iff.1 hk).1
      exact ⟨k, t, fs, by rw [List.getElem?_append_left hlt, hk],
        by rw [List.take_append_of_le_length hlt.le, hfs], ht⟩
    | ok fs =>
      simp only [hr] at h
      refine ⟨ss.length, s, fs, by simp, by simpa using hr, ?_⟩
      cases hs : parseStatements (takenNames fs ++ seen) [s] with
      | error d => simpa [hs, Except.map] using h
      | ok gs => simp [hs, Except.map] at h

end RowBinding.Declaration
