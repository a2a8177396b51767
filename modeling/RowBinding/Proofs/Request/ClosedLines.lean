import RowBinding.Proofs.Column.Literals
import RowBinding.Proofs.Letter.Ascii
import RowBinding.Proofs.Request.LineStructure
import RowBinding.Proofs.Text.Closed

/-!
# Closed lines

Each line of generated code is a closed text and the semicolon that ends it. The tables put
arguments into texts that keep them closed, also where they repeat them, and the names that the
program makes up are identifiers. So the literals of a line end in it, its parentheses are balanced,
and whatever it calls on a variable has an identifier as its name.
-/
namespace RowBinding
open Binding Column Declaration Letter Reading Text

theorem isIdentifierPart_toUpper {c : Char} (h : isIdentifierPart c) :
    isIdentifierPart c.toUpper := by
  refine of_ascii (P := fun c => isIdentifierPart c → isIdentifierPart c.toUpper) ?_
    (lt_of_isIdentifierPart h) h
  decide +kernel

theorem isIdentifierPart_of_mem_capitalize {s : String} (h : ∀ c ∈ s.toList, isIdentifierPart c) :
    ∀ c ∈ (capitalize s).toList, isIdentifierPart c := by
  rw [capitalize, String.toList_ofList]
  cases hs : s.toList with
  | nil => simp [capitalizeChars]
  | cons d ds =>
    rw [hs] at h
    have hd := h d List.mem_cons_self
    rw [capitalizeChars, toUpper_of_ascii (lt_of_isIdentifierPart hd)]
    intro c hc
    rcases List.mem_cons.1 hc with rfl | hc
    · exact isIdentifierPart_toUpper hd
    · exact h c (List.mem_cons_of_mem d hc)

theorem isIdentifier_append {a b : String} (ha : isIdentifier a)
    (hb : ∀ c ∈ b.toList, isIdentifierPart c) : isIdentifier (a ++ b) := by
  obtain ⟨c, cs, hac, hc, hcs⟩ := (isIdentifierChars_iff a.toList).1 ha
  refine (isIdentifierChars_iff _).2 ⟨c, cs ++ b.toList, ?_, hc, ?_⟩
  · rw [String.toList_append, hac, List.cons_append]
  · intro d hd
    rcases List.mem_append.1 hd with hd | hd
    · exact hcs d hd
    · exact (isIdentifierPart_iff d).1 (hb d hd)

theorem isIdentifier_append_capitalize {a s : String} (ha : isIdentifier a) (hs : isIdentifier s) :
    isIdentifier (a ++ capitalize s) :=
  isIdentifier_append ha (isIdentifierPart_of_mem_capitalize fun _ hc =>
    isIdentifierPart_of_mem hs hc)

theorem isLiteralChar_of_isIdentifierPart {c : Char} (h : isIdentifierPart c) :
    isLiteralChar c := by
  refine of_ascii (P := fun c => isIdentifierPart c → isLiteralChar c) ?_
    (lt_of_isIdentifierPart h) h
  decide +kernel

theorem lt_of_isLiteralChar {c : Char} (h : isLiteralChar c) : c.toNat < 128 := by
  simp only [isLiteralChar, Bool.and_eq_true, decide_eq_true_eq] at h
  exact h.1

/-- A change of case keeps a literal a literal. -/
theorem isLiteralChar_of_mem_apply {cs : List Char} (h : ∀ c ∈ cs, isLiteralChar c)
    (choice : ColumnCase) : ∀ d ∈ choice.apply cs, isLiteralChar d := by
  have hascii : ∀ c ∈ cs, c.toNat < 128 := fun c hc => lt_of_isLiteralChar (h c hc)
  rw [choice.apply_of_ascii hascii]
  intro d hd
  obtain ⟨c, hc, rfl⟩ := List.mem_map.1 hd
  exact choice.of_onAscii (P := fun c d => isLiteralChar c → isLiteralChar d) (by decide +kernel)
    (hascii c hc) (h c hc)

theorem isClosed_columnLiteral {p : NamingPolicy} {identifier : String}
    (hp : ∀ c ∈ p.separator.toList, isLiteralChar c) (h : isIdentifier identifier) :
    IsClosed (p.columnLiteral identifier) := by
  cases hnames : p.generateNames with
  | true =>
    have hbase : ∀ c ∈ p.baseName identifier.toList, isLiteralChar c := by
      intro c hc
      rcases mem_baseName hc with hc | hc
      · exact isLiteralChar_of_isIdentifierPart (isIdentifierPart_of_mem h hc)
      · exact hp c hc
    rw [columnLiteral_eq hnames]
    exact isClosed_literal (isLiteralChar_of_mem_apply hbase p.columnCase)
  | false =>
    rw [columnLiteral_of_no_names hnames]
    decide

theorem readWrapping_leads (typeName : String) : (readWrapping typeName).LeadsFrom .plain := by
  unfold readWrapping
  split
  all_goals decide

/-- The accessor calls come after the dot that follows the row. -/
theorem columnWrapping_leads :
    ∀ T ∈ Reading.standardRules.names, (columnWrapping T).LeadsFrom .dot := by
  decide +kernel

theorem valueWrapping_leads (typeName : String) : (valueWrapping typeName).LeadsFrom .plain := by
  unfold valueWrapping
  split
  case h_7 =>
    split
    all_goals decide
  all_goals decide

theorem isIdentifier_set_setterOf (typeName : String) :
    isIdentifier ("set" ++ setterOf typeName) := by
  have htable : ∀ e ∈ Binding.standardRules.entries,
      isIdentifier (e.2.accessorSuffix.getD e.1) := by
    decide
  have htext : isIdentifier ("set" ++ "String") := by decide
  rw [setterOf]
  cases hrule : Binding.standardRules.lookup typeName with
  | some rule =>
    have hsuffix := htable _ (TypeTable.mem_entries_of_lookup hrule)
    exact isIdentifier_append_capitalize (by decide) hsuffix
  | none => exact htext

theorem isIdentifier_getterStart_capitalize (typeName : String) {identifier : String}
    (h : isIdentifier identifier) :
    isIdentifier (getterStart typeName ++ capitalize identifier) := by
  unfold getterStart
  split
  all_goals exact isIdentifier_append_capitalize (by decide) h

/-- Outside literals, the line calls something on a variable: `name` stands between the dot after
the variable and the next parenthesis, with no dot between. -/
def Calls (line target name : String) : Prop :=
  ∃ before after, line = before ++ target ++ "." ++ name ++ "(" ++ after ∧
    Even (before.toList.count '"') ∧ ∀ c ∈ name.toList, c ∉ ['.', '(', ')']

example : Calls "o.setBorn((java.util.Date) rs.getDate(\"\"));" "rs" "getDate" :=
  ⟨"o.setBorn((java.util.Date) ", "\"\"));", by decide, by decide, by simp⟩

/-- A line whose literals and parentheses are closed, that ends with its one semicolon, and that
calls only identifiers on the given variables. -/
structure LexicallyClosed (targets : List String) (line : String) : Prop where
  literals : Even (line.toList.count '"')
  semicolon : ∃ body, line = body ++ ";" ∧ ';' ∉ body.toList
  opened : ∀ p, p <+: line.toList → p.count ')' ≤ p.count '('
  balanced : line.toList.count '(' = line.toList.count ')'
  calls : ∀ target ∈ targets, ∀ name, Calls line target name → isIdentifier name

def IsClosedLine (line : String) : Prop := ∃ body, line = body ++ ";" ∧ IsClosed body

section Line
variable {line : String}

/-- Nothing but a whole line has a semicolon at its end. -/
theorem prefix_of_prefix_line {cs p : List Char} {c : Char} (hp : p ++ [c] <+: cs ++ [';'])
    (hc : c ≠ ';') : p ++ [c] <+: cs := by
  rcases List.prefix_concat_iff.1 hp with he | hp
  · have hlast := congrArg List.getLast? he
    rw [List.getLast?_concat, List.getLast?_concat] at hlast
    exact absurd (Option.some.inj hlast) hc
  · exact hp

theorem isIdentifier_of_calls {body target name : String} (hbody : IsClosed body)
    (htarget : isIdentifier target) (h : Calls (body ++ ";") target name) :
    isIdentifier name := by
  obtain ⟨before, after, hline, heven, hname⟩ := h
  have hprefix : before.toList ++ target.toList ++ '.' :: (name.toList ++ ['(']) <+:
      body.toList := by
    have hchars := congrArg String.toList hline
    simp only [String.toList_append] at hchars
    have hwhole : before.toList ++ target.toList ++ '.' :: name.toList ++ ['('] <+:
        body.toList ++ [';'] := by
      refine ⟨after.toList, ?_⟩
      simpa using hchars.symm
    simpa using prefix_of_prefix_line hwhole (by decide)
  obtain ⟨rest, hrest⟩ := hprefix
  have hrun :
      Scan.start.run (before.toList ++ target.toList ++ '.' :: (name.toList ++ '(' :: rest)) =
        some Scan.start := by
    have hbody : Scan.start.run body.toList = some Scan.start := hbody
    simpa [← hrest] using hbody
  rw [Scan.run_append, Option.bind_eq_some_iff] at hrun
  obtain ⟨u, hu, hcall⟩ := hrun
  have hquotes : (before.toList ++ target.toList).count '"' = before.toList.count '"' := by
    have hnone : target.toList.count '"' = 0 := by
      refine List.count_eq_zero.2 fun hc => ?_
      exact absurd (isIdentifierPart_of_mem htarget hc) (by decide)
    rw [List.count_append, hnone, Nat.add_zero]
  have hplace : u.place ≠ .literal := by
    rw [← hquotes, Scan.even_count_quote_iff hu] at heven
    simp [heven, Scan.start]
  exact Scan.isIdentifierChars_of_run hplace hcall hname

theorem IsClosedLine.lexicallyClosed (h : IsClosedLine line) {targets : List String}
    (htargets : ∀ target ∈ targets, isIdentifier target) : LexicallyClosed targets line := by
  obtain ⟨body, rfl, hbody⟩ := h
  have hrun : Scan.start.run body.toList = some Scan.start := hbody
  have hdepth := Scan.run_depth hrun
  have hend : (body ++ ";").toList = body.toList ++ [';'] := String.toList_append ..
  have hcount {c : Char} (hc : ';' ≠ c) : (body ++ ";").toList.count c = body.toList.count c := by
    rw [hend, List.count_append, List.count_singleton, if_neg (by simpa using hc), Nat.add_zero]
  refine ⟨?_, ⟨body, rfl, Scan.not_mem_semicolon hrun⟩, ?_, ?_, ?_⟩
  · rw [hcount (by decide), Scan.even_count_quote_iff hrun]
  · intro p hp
    rw [hend] at hp
    rcases List.prefix_concat_iff.1 hp with rfl | hp
    · rw [← hend, hcount (by decide), hcount (by decide)]
      exact Scan.count_le_of_isPrefix hrun List.prefix_rfl
    · exact Scan.count_le_of_isPrefix hrun hp
  · rw [hcount (by decide), hcount (by decide)]
    omega
  · intro target htarget name hname
    exact isIdentifier_of_calls hbody (htargets target htarget) hname

end Line

theorem isClosedLine_call {target name arguments : String} (htarget : isIdentifier target)
    (hname : isIdentifier ("set" ++ name)) (harguments : IsClosed arguments) :
    IsClosedLine (target ++ ".set" ++ name ++ "(" ++ arguments ++ ");") := by
  have hset : ".set" = "." ++ "set" := by decide
  have hclose : ");" = ")" ++ ";" := by decide
  refine ⟨target ++ ("." ++ ("set" ++ name) ++ "(" ++ arguments ++ ")"), ?_, ?_⟩
  · simp only [hset, hclose, String.append_assoc]
  · exact (isClosed_of_isIdentifier htarget).append (isClosed_call hname harguments)

theorem IsClosedLine.comment {line : String} (h : IsClosedLine line) :
    IsClosedLine ("//" ++ line) := by
  obtain ⟨body, rfl, hbody⟩ := h
  have hmark : IsClosed "//" := by decide
  exact ⟨"//" ++ body, by rw [String.append_assoc], hmark.append hbody⟩

theorem isIdentifier_set_capitalize {identifier : String} (h : isIdentifier identifier) :
    isIdentifier ("set" ++ capitalize identifier) := isIdentifier_append_capitalize (by decide) h

namespace Reading.RowReader
variable {r : RowReader} {f : Field}

theorem isClosedLine_of_mem_group (ht : r.table = standardRules) (hu : r.handleUnknown = true)
    (hreader : isIdentifier r.reader) (hobject : isIdentifier r.object)
    (hsep : ∀ c ∈ r.naming.separator.toList, isLiteralChar c) (hid : isIdentifier f.identifier)
    (hty : isIdentifier f.declaredType) : ∀ l ∈ r.group f, IsClosedLine l := by
  have hset := isIdentifier_set_capitalize hid
  by_cases hT : f.declaredType ∈ standardRules.names
  · have haccessor : Scan.Leads ⟨.dot, 0⟩
        ((columnWrapping f.declaredType).fill (r.naming.columnLiteral f.identifier)) Scan.start :=
      Wrapping.leads_fill (columnWrapping_leads _ hT) (isClosed_columnLiteral hsep hid)
    have hdot : Scan.Leads Scan.start "." ⟨.dot, 0⟩ := rfl
    have hread : IsClosed (r.reader ++ "." ++
        (columnWrapping f.declaredType).fill (r.naming.columnLiteral f.identifier)) :=
      (Scan.Leads.append (isClosed_of_isIdentifier hreader) hdot).append haccessor
    have hvalue := Wrapping.leads_fill (readWrapping_leads f.declaredType) hread
    rw [group_of_known ht hT]
    simpa only [List.mem_singleton, forall_eq] using isClosedLine_call hobject hset hvalue
  · have hspace : IsClosed " " := by decide
    have hdeclaration : IsClosedLine (f.declaredType ++ " " ++ f.identifier ++ ";") :=
      ⟨_, rfl, ((isClosed_of_isIdentifier hty).append hspace).append (isClosed_of_isIdentifier hid)⟩
    have hcall := isClosedLine_call hobject hset (isClosed_of_isIdentifier hid)
    rw [group_of_unknown ht hu hT]
    simpa only [List.mem_cons, List.not_mem_nil, or_false, forall_eq_or_imp, forall_eq,
      String.append_assoc] using And.intro hdeclaration.comment hcall.comment

end Reading.RowReader

theorem isClosed_indexText {counter : Option String} (h : ∀ c ∈ counter, isIdentifier c) (k : Nat) :
    IsClosed (indexText counter k) := by
  cases counter with
  | none =>
    refine isClosed_of_forall fun c hc => ?_
    have hdigit := Nat.isDigit_of_mem_toDigits (by decide) (by decide) (Nat.toList_repr ▸ hc)
    simp [isIdentifierPart, Char.isAlphanum, hdigit]
  | some c =>
    have hplus : IsClosed "++" := by decide
    exact (isClosed_of_isIdentifier (h c rfl)).append hplus

theorem isClosedLine_bindingText {writer index object : String} {f : Field}
    (hwriter : isIdentifier writer) (hindex : IsClosed index) (hobject : isIdentifier object)
    (hid : isIdentifier f.identifier) : IsClosedLine (bindingText writer index object f) := by
  have hempty : IsClosed "" := by decide
  have hcomma : IsClosed ", " := by decide
  have hget : IsClosed (object ++ "." ++ getterStart f.declaredType ++
      capitalize f.identifier ++ "()") := by
    have hcall := (isClosed_of_isIdentifier hobject).append
      (isClosed_call (isIdentifier_getterStart_capitalize f.declaredType hid) hempty)
    have hparentheses : "()" = "(" ++ "" ++ ")" := by decide
    simpa only [hparentheses, String.append_assoc] using hcall
  have hvalue := Wrapping.leads_fill (valueWrapping_leads f.declaredType) hget
  have hcall := isClosedLine_call hwriter (isIdentifier_set_setterOf f.declaredType)
    ((hindex.append hcomma).append hvalue)
  simpa only [bindingText, String.append_assoc] using hcall

theorem ReadRequest.isLiteralChar_separator {r : ReadRequest}
    (h : ∀ p ∈ r.naming, ∀ c ∈ p.separator.toList, isLiteralChar c) :
    ∀ c ∈ r.rowReader.naming.separator.toList, isLiteralChar c := by
  rw [rowReader]
  cases hp : r.naming with
  | none =>
    have hdefault : isIdentifier "_" := by decide
    exact fun c hc => isLiteralChar_of_isIdentifierPart (isIdentifierPart_of_mem hdefault hc)
  | some p => exact h p hp

theorem oneLine_of_isLiteralChar {s : String} (h : ∀ c ∈ s.toList, isLiteralChar c) :
    OneLine s := by
  intro hc
  have hbreak : isLiteralChar '\n' = false := by decide
  have hliteral := h _ hc
  rw [hbreak] at hliteral
  cases hliteral

/-- Every line of generated code is lexically closed, if the variables are identifiers and the
separator of the naming policy is made of characters that may stand in literals. -/
theorem lexicallyClosed_of_code :
    (∀ (r : ReadRequest) (out : String), isIdentifier r.readerId → isIdentifier r.objectId →
      (∀ p ∈ r.naming, ∀ c ∈ p.separator.toList, isLiteralChar c) → r.code = .ok out →
      ∃ ls, HasLines out ls ∧ ∀ l ∈ ls, LexicallyClosed [r.objectId, r.readerId] l) ∧
    ∀ (r : BindRequest) (out : String), isIdentifier r.writerId → isIdentifier r.objectId →
      (∀ c ∈ r.counter, isIdentifier c) → r.code = .ok out →
      ∃ ls, HasLines out ls ∧ ∀ l ∈ ls, LexicallyClosed [r.objectId, r.writerId] l := by
  refine ⟨?_, ?_⟩
  · intro r out hreader hobject hsep hout
    obtain ⟨fs, hfs, rfl⟩ := r.code_eq_ok_iff.1 hout
    have hseparator := ReadRequest.isLiteralChar_separator hsep
    refine ⟨_, RowReader.hasLines_lines rfl rfl (oneLine_of_isIdentifier hreader)
      (oneLine_of_isIdentifier hobject) (oneLine_of_isLiteralChar hseparator)
      (oneLine_of_parseRetained hfs), ?_⟩
    intro l hl
    obtain ⟨g, hg, hl⟩ := List.mem_flatten.1 hl
    obtain ⟨f, hf, rfl⟩ := List.mem_map.1 hg
    obtain ⟨hid, hty⟩ := isIdentifier_of_parseRetained hfs f hf
    have hclosed :=
      RowReader.isClosedLine_of_mem_group rfl rfl hreader hobject hseparator hid hty l hl
    exact hclosed.lexicallyClosed (by simp [hobject, hreader])
  · intro r out hwriter hobject hcounter hout
    obtain ⟨fs, hfs, rfl⟩ := r.code_eq_ok_iff.1 hout
    have hstatements : ∀ l ∈ r.bindingTexts fs, IsClosedLine l := by
      intro l hl
      obtain ⟨i, hi, rfl⟩ := List.mem_mapIdx.1 hl
      exact isClosedLine_bindingText hwriter (isClosed_indexText hcounter _) hobject
        (isIdentifier_of_parseRetained hfs _ (List.getElem_mem hi)).1
    refine ⟨_, BindRequest.hasLines_lines (oneLine_of_isIdentifier hwriter)
      (oneLine_of_isIdentifier hobject) (fun c hc => oneLine_of_isIdentifier (hcounter c hc))
      fun f hf => (oneLine_of_parseRetained hfs f hf).1, ?_⟩
    intro l hl
    have hclosed : IsClosedLine l := by
      split at hl
      · next c hc =>
        rcases List.mem_cons.1 hl with rfl | hl
        · have hint : IsClosed "int " := by decide
          have hone : IsClosed " = 1" := by decide
          have hend : " = 1;" = " = 1" ++ ";" := by decide
          refine ⟨"int " ++ c ++ " = 1", by rw [hend, ← String.append_assoc], ?_⟩
          exact (hint.append (isClosed_of_isIdentifier (hcounter c hc))).append hone
        · exact hstatements l hl
      · exact hstatements l hl
    exact hclosed.lexicallyClosed (by simp [hobject, hwriter])

/-- A guard against null repeats the whole accessor call with its literal, and a variable may have
the name of a package that the code mentions. -/
theorem lexicallyClosed_of_code_with_guard :
    let r : ReadRequest :=
      ⟨"rs", "java", "Boolean isOld; Date born", some ⟨true, true, ".' ", .upper⟩⟩
    let b : BindRequest := ⟨"ps", "java", "Boolean isOld; Address home", some " i "⟩
    (isIdentifier r.readerId ∧ isIdentifier r.objectId ∧
      (∀ p ∈ r.naming, ∀ c ∈ p.separator.toList, isLiteralChar c) ∧
      r.code = .ok ("java.setIsOld(rs.getString(\"IS.' OLD\") == null ? null : " ++
        "Boolean.parseBoolean(rs.getString(\"IS.' OLD\")));\n" ++
        "java.setBorn((java.util.Date) rs.getDate(\"BORN\"));") ∧
      ∃ out ls, r.code = .ok out ∧ HasLines out ls ∧
        ∀ l ∈ ls, LexicallyClosed [r.objectId, r.readerId] l) ∧
    (isIdentifier b.writerId ∧ isIdentifier b.objectId ∧ (∀ c ∈ b.counter, isIdentifier c) ∧
      b.code = .ok ("int i = 1;\nps.setString(i++, java.isIsOld() == null ? null : " ++
        "Boolean.toString(java.isIsOld()));\nps.setString(i++, " ++
        "(java.getHome() == null ? null : java.getHome().toString()));") ∧
      ∃ out ls, b.code = .ok out ∧ HasLines out ls ∧
        ∀ l ∈ ls, LexicallyClosed [b.objectId, b.writerId] l) := by
  intro r b
  have hsep : ∀ p ∈ r.naming, ∀ c ∈ p.separator.toList, isLiteralChar c := by
    simp [r, isLiteralChar]
  have hcounter : ∀ c ∈ b.counter, isIdentifier c := by decide
  have hr : r.code = .ok ("java.setIsOld(rs.getString(\"IS.' OLD\") == null ? null : " ++
      "Boolean.parseBoolean(rs.getString(\"IS.' OLD\")));\n" ++
      "java.setBorn((java.util.Date) rs.getDate(\"BORN\"));") := by
    decide +kernel
  have hb : b.code = .ok ("int i = 1;\nps.setString(i++, java.isIsOld() == null ? null : " ++
      "Boolean.toString(java.isIsOld()));\nps.setString(i++, " ++
      "(java.getHome() == null ? null : java.getHome().toString()));") := by
    decide +kernel
  obtain ⟨ls, hlines, hclosed⟩ := lexicallyClosed_of_code.1 r _ (by decide) (by decide) hsep hr
  obtain ⟨ls', hlines', hclosed'⟩ :=
    lexicallyClosed_of_code.2 b _ (by decide) (by decide) hcounter hb
  exact ⟨⟨by decide, by decide, hsep, hr, _, ls, hr, hlines, hclosed⟩,
    by decide, by decide, hcounter, hb, _, ls', hb, hlines', hclosed'⟩

end RowBinding
