import RowBinding.Proofs.Declaration.Parser
import RowBinding.Request.Generate

/-!
# Layouts of a block

`Layout fs cs` says that `cs` is a way to write down the fields `fs`. A field is written as at most
four modifiers, its type and its identifier, with any blanks between them. Statements end at
semicolons, with any blanks around them; blank statements may stand anywhere, and the last
semicolon may be left out.

Fields have many layouts, and every one of them is read as these fields. So a block that was read
may be laid out anew, and the code does not depend on the layout.
-/
namespace RowBinding.Declaration
open Text

/-- Text that is neither cut nor trimmed. -/
def IsToken (w : List Char) : Prop := w ≠ [] ∧ ∀ c ∈ w, isBlank c = false ∧ c ≠ ';'

instance : DecidablePred IsToken := fun w =>
  decidable_of_iff (w ≠ [] ∧ w.all (fun c => !isBlank c && c != ';') = true)
    (by simp [IsToken])

theorem IsToken.not_blank {w : List Char} (h : IsToken w) : ∀ c ∈ w, isBlank c = false :=
  fun c hc => (h.2 c hc).1

theorem isToken_of_isIdentifier {s : String} (h : isIdentifier s) : IsToken s.toList := by
  refine ⟨?_, fun c hc => ?_⟩
  · obtain ⟨c, cs, hs, -⟩ := (isIdentifierChars_iff s.toList).1 h
    simp [hs]
  · have hn := toNat_of_isIdentifierPart (isIdentifierPart_of_mem h hc)
    refine ⟨?_, ?_⟩
    · rw [Bool.eq_false_iff]
      simp only [ne_eq, isBlank, Bool.or_eq_true, Bool.and_eq_true, decide_eq_true_eq, beq_iff_eq]
      omega
    · rintro rfl
      revert hn
      decide

/-- Tokens in order, with blanks between neighbours and none at the ends. -/
inductive Spaced : List (List Char) → List Char → Prop
  | last (w : List Char) : Spaced [w] w
  | cons {w g cs : List Char} {ws : List (List Char)} :
      g ≠ [] → (∀ c ∈ g, isBlank c) → Spaced ws cs → Spaced (w :: ws) (w ++ g ++ cs)

theorem spaced_intercalate {ws : List (List Char)} (hne : ws ≠ []) :
    Spaced ws ([' '].intercalate ws) := by
  induction ws with
  | nil => exact absurd rfl hne
  | cons w ws ih =>
    cases ws with
    | nil => simpa using Spaced.last w
    | cons v vs =>
      rw [List.intercalate_cons_cons]
      exact .cons (by simp) (by simp [isBlank]) (ih (by simp))

namespace Spaced
variable {ws : List (List Char)} {cs : List Char}

theorem ne_nil (h : Spaced ws cs) (hws : ∀ w ∈ ws, IsToken w) : cs ≠ [] := by
  cases h with
  | last => exact (hws cs (by simp)).1
  | cons hne _ _ => simp [hne]

theorem runs_eq (h : Spaced ws cs) (hws : ∀ w ∈ ws, IsToken w) : runs isBlank cs = ws := by
  induction h with
  | last w =>
    have hw : IsToken w := hws w (by simp)
    exact runs_eq_singleton hw.1 hw.not_blank
  | @cons w g cs ws hne hg _ ih =>
    obtain ⟨c, g, rfl⟩ := List.exists_cons_of_ne_nil hne
    have hw := hws w (by simp)
    have hg' : ∀ d ∈ g, isBlank d := fun d hd => hg d (by simp [hd])
    rw [List.append_assoc, List.cons_append, runs_append_cons (hg c (by simp)),
      runs_eq_singleton hw.1 hw.not_blank, runs_append_left hg',
      ih fun v hv => hws v (by simp [hv])]
    rfl

theorem isTight (h : Spaced ws cs) (hws : ∀ w ∈ ws, IsToken w) : IsTight cs := by
  induction h with
  | last w => exact isTight_of_forall (hws w (by simp)).not_blank
  | @cons w g cs ws _ _ h ih =>
    have hw := hws w (by simp)
    have htail : ∀ v ∈ ws, IsToken v := fun v hv => hws v (by simp [hv])
    exact (isTight_of_forall hw.not_blank).join (ih htail) hw.1 (h.ne_nil htail) g

theorem tokens_eq (h : Spaced ws cs) (hws : ∀ w ∈ ws, IsToken w) : tokens cs = ws := by
  have ht := h.isTight hws
  rw [tokens, stretches_eq_runs (h.ne_nil hws) ht.1 ht.2, h.runs_eq hws]

theorem not_semicolon (h : Spaced ws cs) (hws : ∀ w ∈ ws, IsToken w) : ∀ c ∈ cs, c ≠ ';' := by
  induction h with
  | last w => exact fun c hc => ((hws w (by simp)).2 c hc).2
  | @cons w g cs ws _ hg _ ih =>
    intro c hc
    simp only [List.mem_append] at hc
    rcases hc with (hc | hc) | hc
    · exact ((hws w (by simp)).2 c hc).2
    · rintro rfl
      exact absurd (hg ';' hc) (by decide)
    · exact ih (fun v hv => hws v (by simp [hv])) c hc

end Spaced

/-- Up to four modifiers, the type and the identifier. -/
def Field.WrittenAs (f : Field) (cs : List Char) : Prop :=
  ∃ ms : List (List Char), ms.length ≤ 4 ∧ (∀ m ∈ ms, IsToken m) ∧
    (f.isStatic = true ↔ "static".toList ∈ ms) ∧ (f.isTransient = true ↔ "transient".toList ∈ ms) ∧
    Spaced (ms ++ [f.declaredType.toList, f.identifier.toList]) cs

section Field
variable {f : Field} {cs : List Char}

theorem isToken_of_mem_written (hid : isIdentifier f.identifier) (hty : isIdentifier f.declaredType)
    {ms : List (List Char)} (hms : ∀ m ∈ ms, IsToken m) :
    ∀ w ∈ ms ++ [f.declaredType.toList, f.identifier.toList], IsToken w := by
  intro w hw
  simp only [List.mem_append, List.mem_cons, List.not_mem_nil, or_false] at hw
  rcases hw with hw | rfl | rfl
  · exact hms w hw
  · exact isToken_of_isIdentifier hty
  · exact isToken_of_isIdentifier hid

theorem windowField_eq {ms : List (List Char)} (hlen : ms.length ≤ 4)
    (hst : f.isStatic = true ↔ "static".toList ∈ ms)
    (htr : f.isTransient = true ↔ "transient".toList ∈ ms) :
    windowField ms f.declaredType.toList f.identifier.toList = f := by
  have hall : ms.reverse.take modifierWindow = ms.reverse :=
    List.take_of_length_le (by simpa [modifierWindow] using hlen)
  have hflag (b : Bool) (w : List Char) (h : b = true ↔ w ∈ ms) : ms.reverse.contains w = b := by
    rw [Bool.eq_iff_iff, List.contains_iff_mem, List.mem_reverse, h]
  simp only [windowField, hall, String.ofList_toList, hflag _ _ hst, hflag _ _ htr]

theorem Field.WrittenAs.parse_eq (h : f.WrittenAs cs) (hid : isIdentifier f.identifier)
    (hty : isIdentifier f.declaredType) : parseStatement cs = .ok f := by
  obtain ⟨ms, hlen, hms, hst, htr, hcs⟩ := h
  have hws := isToken_of_mem_written hid hty hms
  have hruns : (Statement.ofText cs).tokens = ms ++ [f.declaredType.toList, f.identifier.toList] :=
    hcs.runs_eq hws
  have hread : tokens (Statement.ofText cs).text = (Statement.ofText cs).tokens := by
    rw [hruns]
    exact hcs.tokens_eq hws
  have hp := parseStatement_long hread hruns
  rw [if_pos ((isIdentifierChars_iff _).1 hid), if_pos ((isIdentifierChars_iff _).1 hty),
    windowField_eq hlen hst htr] at hp
  exact hp

end Field

/-- What stands between two semicolons: blanks alone, or a field with blanks around it. -/
inductive Piece : List Field → List Char → Prop
  | blank {g : List Char} : (∀ c ∈ g, isBlank c) → Piece [] g
  | field {f : Field} {l cs r : List Char} :
      (∀ c ∈ l, isBlank c) → f.WrittenAs cs → (∀ c ∈ r, isBlank c) → Piece [f] (l ++ cs ++ r)

/-- A way to write down a list of fields. -/
inductive Layout : List Field → List Char → Prop
  | last {fs : List Field} {p : List Char} : Piece fs p → Layout fs p
  | cons {fs gs : List Field} {p cs : List Char} :
      Piece fs p → Layout gs cs → Layout (fs ++ gs) (p ++ ';' :: cs)

theorem not_semicolon_of_blank {g : List Char} (hg : ∀ c ∈ g, isBlank c) : ∀ c ∈ g, c ≠ ';' := by
  rintro c hc rfl
  exact absurd (hg ';' hc) (by decide)

theorem statements_of_not_semicolon {p : List Char} (hp : ∀ c ∈ p, c ≠ ';') :
    statements p = [trimBlank p].filter (!·.isEmpty) := by
  rw [statements, pieces_eq_singleton (by simpa using hp), List.map_singleton]

theorem Piece.reads {fs : List Field} {p : List Char} (h : Piece fs p)
    (hid : ∀ f ∈ fs, isIdentifier f.identifier) (hty : ∀ f ∈ fs, isIdentifier f.declaredType) :
    List.Forall₂ (fun s f => parseStatement s = .ok f) (statements p) fs := by
  cases h with
  | blank hg =>
    rw [statements_of_not_semicolon (not_semicolon_of_blank hg), trimBlank_of_blank hg]
    exact .nil
  | @field f l cs r hl hf hr =>
    have hparse := hf.parse_eq (hid f (by simp)) (hty f (by simp))
    obtain ⟨ms, -, hms, -, -, hcs⟩ := hf
    have hws := isToken_of_mem_written (hid f (by simp)) (hty f (by simp)) hms
    have hp : ∀ c ∈ l ++ cs ++ r, c ≠ ';' := by
      intro c hc
      simp only [List.mem_append] at hc
      rcases hc with (hc | hc) | hc
      · exact not_semicolon_of_blank hl c hc
      · exact hcs.not_semicolon hws c hc
      · exact not_semicolon_of_blank hr c hc
    have htrim : trimBlank (l ++ cs ++ r) = cs :=
      Trimmed.eq ⟨hcs.isTight hws, l, r, rfl, hl, hr⟩
    have hkeep : [cs].filter (!·.isEmpty) = [cs] := by simp [hcs.ne_nil hws]
    rw [statements_of_not_semicolon hp, htrim, hkeep]
    exact .cons hparse .nil

theorem Layout.reads {fs : List Field} {cs : List Char} (h : Layout fs cs)
    (hid : ∀ f ∈ fs, isIdentifier f.identifier) (hty : ∀ f ∈ fs, isIdentifier f.declaredType) :
    List.Forall₂ (fun s f => parseStatement s = .ok f) (statements cs) fs := by
  induction h with
  | last hp => exact hp.reads hid hty
  | cons hp _ ih =>
    simp only [List.forall_mem_append] at hid hty
    rw [statements_append_cons]
    exact List.rel_append (hp.reads hid.1 hty.1) (ih hid.2 hty.2)

theorem Layout.parse_eq {fs : List Field} {text : String} (h : Layout fs text.toList)
    (hfs : Declarable fs) : parse text = .ok fs :=
  parseStatements_eq_ok_iff.2 ⟨h.reads hfs.identifiers hfs.types, hfs.distinct, by simp⟩

/-- The fewest modifiers that make a field static or transient, or neither. -/
def plainModifiers (isStatic isTransient : Bool) : List (List Char) :=
  (if isStatic then ["static".toList] else []) ++ if isTransient then ["transient".toList] else []

theorem plainModifiers_spec : ∀ isStatic isTransient,
    (plainModifiers isStatic isTransient).length ≤ 4 ∧
      (∀ m ∈ plainModifiers isStatic isTransient, IsToken m) ∧
      (isStatic = true ↔ "static".toList ∈ plainModifiers isStatic isTransient) ∧
      (isTransient = true ↔ "transient".toList ∈ plainModifiers isStatic isTransient) := by
  decide

def Field.plainText (f : Field) : List Char :=
  [' '].intercalate
    (plainModifiers f.isStatic f.isTransient ++ [f.declaredType.toList, f.identifier.toList])

theorem Field.writtenAs_plainText (f : Field) : f.WrittenAs f.plainText := by
  obtain ⟨hlen, hms, hst, htr⟩ := plainModifiers_spec f.isStatic f.isTransient
  exact ⟨_, hlen, hms, hst, htr, spaced_intercalate (by simp)⟩

/-- Single spaces between tokens, a semicolon after each field and nothing else. -/
def plainLayout (fs : List Field) : String :=
  String.ofList (fs.flatMap fun f => f.plainText ++ [';'])

theorem layout_plainLayout (fs : List Field) : Layout fs (plainLayout fs).toList := by
  rw [plainLayout, String.toList_ofList]
  induction fs with
  | nil => exact .last (.blank (by simp))
  | cons f fs ih =>
    have hf : Piece [f] f.plainText := by
      simpa using Piece.field (l := []) (r := []) (by simp) f.writtenAs_plainText (by simp)
    simpa using Layout.cons hf ih

/-- Every layout of fields that can be declared is read as these fields. The fields of an accepted
block have a layout and are read back from each. No code depends on which layout it was asked
for with. -/
theorem layouts_read_alike (fs : List Field) :
    (Declarable fs → ∀ t : String, Layout fs t.toList → parse t = .ok fs) ∧
    (∀ text, parse text = .ok fs →
      (∃ t : String, Layout fs t.toList) ∧ ∀ t : String, Layout fs t.toList → parse t = .ok fs) ∧
    (Declarable fs → ∀ t t' : String, Layout fs t.toList → Layout fs t'.toList →
      (∀ r : ReadRequest, { r with fieldsText := t }.code = { r with fieldsText := t' }.code) ∧
      ∀ r : BindRequest, { r with fieldsText := t }.code = { r with fieldsText := t' }.code) := by
  refine ⟨fun hfs t ht => ht.parse_eq hfs, ?_, ?_⟩
  · intro text htext
    refine ⟨⟨plainLayout fs, layout_plainLayout fs⟩, fun t ht => ?_⟩
    exact ht.parse_eq (declarable_of_parse htext)
  · intro hfs t t' ht ht'
    have hsame : parseRetained t = parseRetained t' := by
      rw [parseRetained, parseRetained, ht.parse_eq hfs, ht'.parse_eq hfs]
    constructor
    · intro r
      simp only [ReadRequest.code, ReadRequest.rowReader, hsame]
    · intro r
      simp only [BindRequest.code, BindRequest.parameterWriter, BindRequest.counter, hsame]

/-- The words for modifiers are names here. Blanks beyond ASCII separate, blank statements are
passed over, and the last semicolon is missing. -/
theorem layouts_read_alike_keywords :
    let fs : List Field := [⟨"static", "transient", false, false⟩, ⟨"x", "int", true, false⟩]
    let t := "\n;\u2003transient\u00a0static ; ;static final  int\tx\u3000"
    Declarable fs ∧ Layout fs t.toList ∧ Layout fs (plainLayout fs).toList ∧
      parse t = .ok fs ∧ parse (plainLayout fs) = .ok fs ∧
      ∀ r : BindRequest,
        { r with fieldsText := t }.code = { r with fieldsText := plainLayout fs }.code := by
  intro fs t
  have hfs : Declarable fs := ⟨by decide, by decide, by decide⟩
  have blanks {g : List Char} (hg : g.all isBlank = true) : ∀ c ∈ g, isBlank c :=
    List.all_eq_true.1 hg
  have hname : Field.WrittenAs ⟨"static", "transient", false, false⟩
      "transient\u00a0static".toList :=
    ⟨[], by decide, by decide, by decide, by decide,
      .cons (g := ['\u00a0']) (by decide) (blanks (by decide)) (.last _)⟩
  have hx : Field.WrittenAs ⟨"x", "int", true, false⟩ "static final  int\tx".toList :=
    ⟨["static".toList, "final".toList], by decide, by decide, by decide, by decide,
      .cons (g := [' ']) (by decide) (blanks (by decide)) <|
      .cons (g := [' ', ' ']) (by decide) (blanks (by decide)) <|
      .cons (g := ['\t']) (by decide) (blanks (by decide)) (.last _)⟩
  have hpieces :=
    Layout.cons (.blank (blanks (g := ['\n']) (by decide))) <|
    .cons (.field (blanks (g := ['\u2003']) (by decide)) hname (blanks (g := [' ']) (by decide))) <|
    .cons (.blank (blanks (g := [' ']) (by decide))) <|
    .last (.field (blanks (g := []) (by decide)) hx (blanks (g := ['\u3000']) (by decide)))
  have ht : Layout fs t.toList := by
    refine Eq.mp (congrArg (Layout fs) ?_) hpieces
    decide
  have hplain := layout_plainLayout fs
  obtain ⟨hread, -, hsame⟩ := layouts_read_alike fs
  exact ⟨hfs, ht, hplain, hread hfs _ ht, hread hfs _ hplain, (hsame hfs _ _ ht hplain).2⟩

end RowBinding.Declaration
