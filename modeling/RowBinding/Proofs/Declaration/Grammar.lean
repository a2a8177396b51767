import Mathlib.Data.List.Forall2
import RowBinding.Declaration.Parser
import RowBinding.Proofs.Text.Runs
import RowBinding.Proofs.Text.Trim

/-!
# The grammar of declaration blocks

What a block of declarations is, said without reading it from left to right. `StatementsOf` relates
a text to its statements, each with its tokens; every text has exactly one list of statements. A
statement is well formed when its last two tokens are identifiers, and `Declares` gives the field
that it then stands for. `Statement.HasFault` says what is wrong with any other statement, and with
one whose name is taken.
-/
namespace RowBinding.Declaration
open Text

/-- An ASCII letter or an underscore. -/
def IsLetter (c : Char) : Prop := ('A' ≤ c ∧ c ≤ 'Z') ∨ ('a' ≤ c ∧ c ≤ 'z') ∨ c = '_'

def IsDigit (c : Char) : Prop := '0' ≤ c ∧ c ≤ '9'

def IsIdentifier (w : List Char) : Prop :=
  ∃ c cs, w = c :: cs ∧ IsLetter c ∧ ∀ d ∈ cs, IsLetter d ∨ IsDigit d

theorem isIdentifierStart_iff (c : Char) : isIdentifierStart c = true ↔ IsLetter c := by
  have halpha : c.isAlpha =
      (decide ('A' ≤ c ∧ c ≤ 'Z') || (decide ('a' ≤ c) && decide (c ≤ 'z'))) := rfl
  simp only [isIdentifierStart, IsLetter, halpha, Bool.or_eq_true, decide_eq_true_eq,
    Bool.and_eq_true, beq_iff_eq, or_assoc]

theorem isIdentifierPart_iff (c : Char) :
    isIdentifierPart c = true ↔ IsLetter c ∨ IsDigit c := by
  have hd : c.isDigit = true ↔ IsDigit c := by
    simp only [IsDigit, Char.isDigit, Bool.and_eq_true, decide_eq_true_eq, Char.le_def]
  rw [← isIdentifierStart_iff, ← hd]
  simp only [isIdentifierPart, isIdentifierStart, Char.isAlphanum, Bool.or_eq_true]
  tauto

theorem isIdentifierChars_iff (w : List Char) : isIdentifierChars w = true ↔ IsIdentifier w := by
  cases w with
  | nil => simp [isIdentifierChars, IsIdentifier]
  | cons c cs =>
    simp only [isIdentifierChars, IsIdentifier, Bool.and_eq_true, List.all_eq_true,
      isIdentifierStart_iff, isIdentifierPart_iff, List.cons.injEq]
    constructor
    · intro h
      obtain ⟨hc, hcs⟩ := h
      exact ⟨c, cs, ⟨rfl, rfl⟩, hc, hcs⟩
    · intro h
      obtain ⟨_, _, ⟨rfl, rfl⟩, hc, hcs⟩ := h
      exact ⟨hc, hcs⟩

theorem toNat_of_isIdentifierPart {c : Char} (h : isIdentifierPart c) :
    (48 ≤ c.toNat ∧ c.toNat ≤ 57) ∨ (65 ≤ c.toNat ∧ c.toNat ≤ 90) ∨ c.toNat = 95 ∨
      (97 ≤ c.toNat ∧ c.toNat ≤ 122) := by
  rw [isIdentifierPart_iff] at h
  simp only [IsLetter, IsDigit, Char.le_def, UInt32.le_iff_toNat_le] at h
  rcases h with (h | h | rfl) | h
  · exact .inr (.inl h)
  · exact .inr (.inr (.inr h))
  · exact .inr (.inr (.inl rfl))
  · exact .inl h

theorem lt_of_isIdentifierPart {c : Char} (h : isIdentifierPart c) : c.toNat < 128 := by
  have hpart := toNat_of_isIdentifierPart h
  omega

theorem isIdentifierPart_of_mem {s : String} (h : isIdentifier s) {c : Char} (hc : c ∈ s.toList) :
    isIdentifierPart c := by
  obtain ⟨d, cs, hs, hd, hcs⟩ := (isIdentifierChars_iff s.toList).1 h
  rw [hs] at hc
  rw [isIdentifierPart_iff]
  rcases List.mem_cons.1 hc with rfl | hc
  · exact .inl hd
  · exact hcs c hc

/-- A text with its tokens, the maximal runs of characters that are not blank. -/
structure Statement where
  text : List Char
  tokens : List (List Char)
  tokens_runs : MaximalRuns isBlank text tokens

namespace Statement

/-- The token at a place counted from the end; the last token is at 0. -/
def fromEnd? (s : Statement) (i : Nat) : Option (List Char) := s.tokens.reverse[i]?

def name? (s : Statement) : Option (List Char) := s.fromEnd? 0

/-- The last token and the one before it are identifiers. -/
def WellFormed (s : Statement) : Prop :=
  ∃ before type name, s.tokens = before ++ [type, name] ∧ IsIdentifier type ∧ IsIdentifier name

/-- A word is among the third to the sixth token from the end. -/
def HasModifier (s : Statement) (word : String) : Prop :=
  ∃ i, 2 ≤ i ∧ i ≤ 5 ∧ s.fromEnd? i = some word.toList

structure Declares (s : Statement) (f : Field) : Prop where
  name : s.fromEnd? 0 = some f.identifier.toList
  type : s.fromEnd? 1 = some f.declaredType.toList
  static : f.isStatic = true ↔ s.HasModifier "static"
  transient : f.isTransient = true ↔ s.HasModifier "transient"

/-- What is wrong with a statement that declares no field, or none that may be declared there. The
cases exclude each other. -/
inductive HasFault (s : Statement) : Fault → Prop
  | missingTokens : s.tokens.length < 2 → HasFault s (.missingTokens (String.ofList s.text))
  | fieldName {before : List (List Char)} {type name : List Char} :
      s.tokens = before ++ [type, name] → ¬ IsIdentifier name →
      HasFault s (.invalidFieldName (String.ofList name) (String.ofList s.text))
  | typeName {before : List (List Char)} {type name : List Char} :
      s.tokens = before ++ [type, name] → IsIdentifier name → ¬ IsIdentifier type →
      HasFault s (.invalidTypeName (String.ofList type) (String.ofList s.text))
  | duplicate {before : List (List Char)} {type name : List Char} :
      s.tokens = before ++ [type, name] → IsIdentifier name → IsIdentifier type →
      HasFault s (.duplicateField (String.ofList name) (String.ofList s.text))

def ofText (cs : List Char) : Statement := ⟨cs, runs isBlank cs, maximalRuns_iff.2 rfl⟩

theorem runs_text (s : Statement) : runs isBlank s.text = s.tokens := s.tokens_runs.runs_eq

theorem ofText_text (s : Statement) : ofText s.text = s := by
  cases s with
  | mk text tokens h =>
    obtain rfl := h.runs_eq
    rfl

theorem reverse_tokens_iff {s : Statement} {before : List (List Char)} {type name : List Char} :
    s.tokens = before ++ [type, name] ↔ s.tokens.reverse = name :: type :: before.reverse := by
  rw [List.reverse_eq_iff]
  simp

theorem short_or_long (s : Statement) :
    s.tokens.length < 2 ∨ ∃ before type name, s.tokens = before ++ [type, name] := by
  match hr : s.tokens.reverse with
  | [] =>
    left
    rw [List.reverse_eq_nil_iff.1 hr]
    simp
  | [t] =>
    left
    rw [List.reverse_eq_iff.1 hr]
    simp
  | name :: type :: before =>
    right
    exact ⟨before.reverse, type, name, by rw [reverse_tokens_iff, hr, List.reverse_reverse]⟩

theorem not_short {s : Statement} {before : List (List Char)} {type name : List Char}
    (ht : s.tokens = before ++ [type, name]) : ¬ s.tokens.length < 2 := by
  rw [ht, List.length_append, List.length_cons, List.length_singleton]
  omega

theorem HasFault.eq_missingTokens {s : Statement} {e : Fault} (h : s.HasFault e)
    (hs : s.tokens.length < 2) : e = .missingTokens (String.ofList s.text) := by
  cases h with
  | missingTokens => rfl
  | fieldName ht => exact absurd hs (not_short ht)
  | typeName ht => exact absurd hs (not_short ht)
  | duplicate ht => exact absurd hs (not_short ht)

open Classical in
theorem HasFault.eq_ite {s : Statement} {e : Fault} {before : List (List Char)}
    {type name : List Char} (h : s.HasFault e) (ht : s.tokens = before ++ [type, name]) :
    e = if IsIdentifier name then
        if IsIdentifier type then .duplicateField (String.ofList name) (String.ofList s.text)
        else .invalidTypeName (String.ofList type) (String.ofList s.text)
      else .invalidFieldName (String.ofList name) (String.ofList s.text) := by
  have same {b : List (List Char)} {t n : List Char} (h' : s.tokens = b ++ [t, n]) :
      t = type ∧ n = name := by
    rw [reverse_tokens_iff] at ht h'
    rw [ht] at h'
    simp only [List.cons.injEq] at h'
    exact ⟨h'.2.1.symm, h'.1.symm⟩
  cases h with
  | missingTokens hs => exact absurd hs (not_short ht)
  | fieldName h' hn =>
    obtain ⟨rfl, rfl⟩ := same h'
    rw [if_neg hn]
  | typeName h' hn hty =>
    obtain ⟨rfl, rfl⟩ := same h'
    rw [if_pos hn, if_neg hty]
  | duplicate h' hn hty =>
    obtain ⟨rfl, rfl⟩ := same h'
    rw [if_pos hn, if_pos hty]

theorem HasFault.unique {s : Statement} {e e' : Fault} (h : s.HasFault e) (h' : s.HasFault e') :
    e = e' := by
  rcases s.short_or_long with hs | ⟨before, type, name, ht⟩
  · rw [h.eq_missingTokens hs, h'.eq_missingTokens hs]
  · rw [h.eq_ite ht, h'.eq_ite ht]

end Statement

/-- The statements of a text. The text is cut at its semicolons; pieces of blanks are passed over,
and of every other piece the blanks at its ends. -/
def StatementsOf (text : List Char) (ss : List Statement) : Prop :=
  ∃ ps : List (List Char), ps ≠ [] ∧ (∀ p ∈ ps, ';' ∉ p) ∧ [';'].intercalate ps = text ∧
    List.Forall₂ (fun p s => Trimmed p s.text) (ps.filter fun p => p.any (!isBlank ·)) ss

theorem filter_map_trimBlank (ps : List (List Char)) :
    (ps.map trimBlank).filter (!·.isEmpty) =
      (ps.filter fun p => p.any (!isBlank ·)).map trimBlank := by
  rw [List.filter_map]
  congr 1
  apply List.filter_congr
  intro p _
  rw [Function.comp_apply, Bool.eq_iff_iff]
  simp [trimBlank_eq_nil_iff]

theorem forall₂_trimmed_iff {ps : List (List Char)} {ss : List Statement} :
    List.Forall₂ (fun p s => Trimmed p s.text) ps ss ↔
      ss.map Statement.text = ps.map trimBlank := by
  simp only [trimmed_iff]
  constructor
  · intro h
    induction h with
    | nil => rfl
    | cons hp _ ih => rw [List.map_cons, List.map_cons, ih, hp]
  · intro h
    induction ps generalizing ss with
    | nil =>
      rw [List.map_nil, List.map_eq_nil_iff] at h
      rw [h]
      exact .nil
    | cons p ps ih =>
      obtain ⟨s, ss, rfl, hs, hss⟩ := List.map_eq_cons_iff.1 h
      exact .cons hs.symm (ih hss)

theorem statements_append_cons (a b : List Char) :
    statements (a ++ ';' :: b) = statements a ++ statements b := by
  simp only [statements]
  rw [pieces_append_cons (by decide), List.map_append, List.filter_append]

theorem statementsOf_iff {text : List Char} {ss : List Statement} :
    StatementsOf text ss ↔ ss.map Statement.text = statements text := by
  have cut (ps : List (List Char)) (h : text.splitOn ';' = ps) :
      statements text = (ps.filter fun p => p.any (!isBlank ·)).map trimBlank := by
    rw [statements, pieces_eq_splitOnP, ← List.splitOn_eq_splitOnP, h, filter_map_trimBlank]
  constructor
  · intro h
    obtain ⟨ps, hne, hps, rfl, hss⟩ := h
    rw [cut ps (List.splitOn_intercalate ';' hps hne)]
    exact forall₂_trimmed_iff.1 hss
  · intro h
    refine ⟨text.splitOn ';', List.splitOn_ne_nil _ _, ?_, List.intercalate_splitOn ';', ?_⟩
    · intro p hp hc
      rw [List.splitOn_eq_splitOnP, ← pieces_eq_splitOnP] at hp
      simpa using eq_false_of_mem_pieces hp ';' hc
    · rw [forall₂_trimmed_iff, h, cut _ rfl]

/-- A text has exactly one list of statements. -/
theorem existsUnique_statementsOf (text : List Char) : ∃! ss, StatementsOf text ss := by
  refine ⟨(statements text).map Statement.ofText, statementsOf_iff.2 ?_, fun ss h => ?_⟩
  · rw [List.map_map]
    exact List.map_id _
  · rw [← statementsOf_iff.1 h, List.map_map]
    refine (List.map_id ss).symm.trans (List.map_congr_left fun s _ => ?_)
    exact s.ofText_text.symm

/-- The reader sees the tokens of a statement. -/
theorem tokens_text {text : List Char} {ss : List Statement} (h : StatementsOf text ss)
    {s : Statement} (hs : s ∈ ss) : tokens s.text = s.tokens := by
  have hmem : s.text ∈ statements text := by
    rw [← statementsOf_iff.1 h]
    exact List.mem_map_of_mem hs
  obtain ⟨hmem, hne⟩ := List.mem_filter.1 hmem
  obtain ⟨p, -, hp⟩ := List.mem_map.1 hmem
  have ht : IsTight s.text := hp ▸ isTight_trimBlank p
  rw [tokens, stretches_eq_runs (by simpa using hne) ht.1 ht.2, s.runs_text]

end RowBinding.Declaration
