import RowBinding.Proofs.Declaration.Parser
import RowBinding.Proofs.Request.Code

/-!
# Statements without code

A statement that declares a static or transient field is skipped: it must be in order and takes a
name, but no code is generated for it. So a block of which the skipped statements are taken away is
accepted when the whole block is, and its fields are the retained ones. Two accepted blocks that
have the same other statements in the same order therefore give the same code.
-/
namespace RowBinding
open Text

namespace Declaration

/-- The statement declares a field that is static or transient. -/
def isSkipped (statement : List Char) : Bool :=
  match parseStatement statement with
  | .ok f => !f.isRetained
  | .error _ => false

/-- The statements of a block that are not skipped. -/
def keptStatements (text : String) : List (List Char) :=
  (statements text.toList).filter (!isSkipped ·)

/-- The text without the pieces between semicolons that hold a skipped statement. -/
def withoutSkipped (text : String) : String :=
  String.ofList <| [';'].intercalate <|
    (pieces (· == ';') text.toList).filter fun p => !isSkipped (trimBlank p)

theorem isSkipped_eq {s : List Char} {f : Field} (h : parseStatement s = .ok f) :
    isSkipped s = !f.isRetained := by
  rw [isSkipped, h]

theorem filter_kept_append_cons {s : List Char} (h : isSkipped s = true) (l r : List (List Char)) :
    (l ++ s :: r).filter (!isSkipped ·) = (l ++ r).filter (!isSkipped ·) := by
  simp [h]

theorem statements_intercalate {ps : List (List Char)} (h : ∀ p ∈ ps, ';' ∉ p) :
    statements ([';'].intercalate ps) = (ps.map trimBlank).filter (!·.isEmpty) := by
  by_cases hne : ps = []
  · subst hne
    rfl
  · have hpieces : pieces (· == ';') ([';'].intercalate ps) = ps := by
      rw [pieces_eq_splitOnP, ← List.splitOn_eq_splitOnP, List.splitOn_intercalate ';' h hne]
    rw [statements, hpieces]

theorem statements_withoutSkipped (text : String) :
    statements (withoutSkipped text).toList = keptStatements text := by
  have hpieces : ∀ p ∈ (pieces (· == ';') text.toList).filter fun p => !isSkipped (trimBlank p),
      ';' ∉ p := by
    intro p hp hsemicolon
    simpa using eq_false_of_mem_pieces (List.mem_filter.1 hp).1 ';' hsemicolon
  have htrimmed : ((pieces (· == ';') text.toList).map trimBlank).filter (!isSkipped ·) =
      ((pieces (· == ';') text.toList).filter fun p => !isSkipped (trimBlank p)).map trimBlank :=
    List.filter_map
  rw [withoutSkipped, String.toList_ofList, statements_intercalate hpieces, keptStatements,
    statements, List.filter_comm, htrimmed]

example : withoutSkipped "int x; static int n; String s" = "int x; String s" := by decide

/-- The names of skipped statements are free when the statements are taken away, and no others are
taken. -/
theorem parseStatements_kept {seen : List String} {ss : List (List Char)} {fs : List Field}
    (h : parseStatements seen ss = .ok fs) :
    parseStatements seen (ss.filter (!isSkipped ·)) = .ok (fs.filter Field.isRetained) := by
  obtain ⟨hread, hdistinct, hseen⟩ := parseStatements_eq_ok_iff.1 h
  refine parseStatements_eq_ok_iff.2 ⟨?_, ?_, fun f hf => hseen f (List.mem_filter.1 hf).1⟩
  · refine List.rel_filter ?_ hread
    intro s f hs
    simp [isSkipped_eq hs]
  · exact hdistinct.sublist (List.filter_sublist.map Field.identifier)

end Declaration

open Declaration

variable {text text' : String} {fs fs' : List Field}

theorem parse_of_statements_kept (h : parse text = .ok fs)
    (hkept : statements text'.toList = keptStatements text) :
    parse text' = .ok (fs.filter Field.isRetained) := by
  rw [parse, hkept]
  exact parseStatements_kept h

/-- Both blocks give code, and the same, whatever names and policies they are requested with. -/
def SameCode (text text' : String) : Prop :=
  (∀ r : ReadRequest, ∃ code, { r with fieldsText := text }.code = .ok code ∧
    { r with fieldsText := text' }.code = .ok code) ∧
  ∀ r : BindRequest, ∃ code, { r with fieldsText := text }.code = .ok code ∧
    { r with fieldsText := text' }.code = .ok code

theorem sameCode_of_retained (h : parseRetained text = .ok fs) (h' : parseRetained text' = .ok fs) :
    SameCode text text' :=
  ⟨fun r => ⟨_, r.code_eq h, r.code_eq h'⟩, fun r => ⟨_, r.code_eq h, r.code_eq h'⟩⟩

theorem sameCode_of_kept (h : parse text = .ok fs) (h' : parse text' = .ok fs')
    (hkept : keptStatements text' = keptStatements text) : SameCode text text' := by
  have hread : parseStatements [] (keptStatements text) = .ok (fs.filter Field.isRetained) :=
    parseStatements_kept h
  have hread' : parseStatements [] (keptStatements text') = .ok (fs'.filter Field.isRetained) :=
    parseStatements_kept h'
  rw [hkept, hread, Except.ok.injEq] at hread'
  exact sameCode_of_retained (parseRetained_eq_ok_iff.2 ⟨fs, h, rfl⟩)
    (parseRetained_eq_ok_iff.2 ⟨fs', h', hread'.symm⟩)

/-- When the skipped statements of an accepted block are taken away, the rest is accepted, its
fields are the retained ones, and the code stays as it is, positions included. How the rest is laid
out does not matter. The code also stays as it is when a skipped statement is put in the place of
another, there or elsewhere in the block, as long as the block is accepted; so it does whenever the
statements that are not skipped stay as they are. -/
theorem code_without_skipped (h : parse text = .ok fs) :
    (statements (withoutSkipped text).toList = keptStatements text ∧
      parse (withoutSkipped text) = .ok (fs.filter Field.isRetained) ∧
      SameCode text (withoutSkipped text)) ∧
    (∀ text', statements text'.toList = keptStatements text →
      parse text' = .ok (fs.filter Field.isRetained) ∧ SameCode text text') ∧
    (∀ text' fs' l s r l' s' r', parse text' = .ok fs' →
      statements text.toList = l ++ s :: r → isSkipped s = true →
      statements text'.toList = l' ++ s' :: r' → isSkipped s' = true → l' ++ r' = l ++ r →
      SameCode text text') ∧
    ∀ text' fs', parse text' = .ok fs' →
      keptStatements text' = keptStatements text → SameCode text text' := by
  have htaken : ∀ text', statements text'.toList = keptStatements text →
      parse text' = .ok (fs.filter Field.isRetained) ∧ SameCode text text' := by
    intro text' hkept
    have hread := parse_of_statements_kept h hkept
    refine ⟨hread, sameCode_of_kept h hread ?_⟩
    rw [keptStatements, hkept, keptStatements, List.filter_filter]
    simp only [Bool.and_self]
  refine ⟨?_, htaken, ?_, fun text' fs' h' hkept => sameCode_of_kept h h' hkept⟩
  · exact ⟨statements_withoutSkipped text, htaken _ (statements_withoutSkipped text)⟩
  · intro text' fs' l s r l' s' r' h' hs hskipped hs' hskipped' hrest
    apply sameCode_of_kept h h'
    rw [keptStatements, keptStatements, hs, hs', filter_kept_append_cons hskipped,
      filter_kept_append_cons hskipped', hrest]

/-- A static field is left out, and given another type, other modifiers and another place. -/
theorem code_without_skipped_between :
    let text := "int x; static int n; String s"
    parse text = .ok [⟨"x", "int", false, false⟩, ⟨"n", "int", true, false⟩,
        ⟨"s", "String", false, false⟩] ∧
      parse "int x; String s" = .ok [⟨"x", "int", false, false⟩, ⟨"s", "String", false, false⟩] ∧
      SameCode text "int x; String s" ∧
        SameCode text "final transient Date n; int x; String s" := by
  intro text
  have hread : parse text = .ok [⟨"x", "int", false, false⟩, ⟨"n", "int", true, false⟩,
      ⟨"s", "String", false, false⟩] := by decide
  have hmoved : parse "final transient Date n; int x; String s" = .ok
      [⟨"n", "Date", false, true⟩, ⟨"x", "int", false, false⟩, ⟨"s", "String", false, false⟩] := by
    decide
  obtain ⟨-, htaken, hreplaced, -⟩ := code_without_skipped hread
  obtain ⟨hrest, hsame⟩ := htaken "int x; String s" (by decide)
  refine ⟨hread, hrest, hsame, ?_⟩
  exact hreplaced _ _ ["int x".toList] "static int n".toList ["String s".toList]
    [] "final transient Date n".toList ["int x".toList, "String s".toList]
    hmoved (by decide) (by decide) (by decide) (by decide) (by decide)

end RowBinding
