import RowBinding.Proofs.Binding.Numbering
import RowBinding.Proofs.Declaration.Parser
import RowBinding.Proofs.Request.Code

/-!
# Joined blocks

Two blocks joined by a semicolon have the statements of the first and then those of the second. They
are accepted together exactly when each is accepted and no name is in both, and then the fields are
those of the first followed by those of the second.

Code is generated field by field, so the lines of the first block stay as they are. Those of the
second follow; where positions are literals, they go on after the retained fields of the first.
-/
namespace RowBinding
open Binding Declaration Text

theorem parse_joined (a b : String) : parse (a ++ ";" ++ b) =
    match parse a with
    | .error e => .error e
    | .ok fs => (parseStatements (takenNames fs) (statements b.toList)).map (fs ++ ·) := by
  have hjoin : (a ++ ";" ++ b).toList = a.toList ++ ';' :: b.toList := by simp
  rw [parse, parse, hjoin, statements_append_cons, parseStatements_append]
  cases parseStatements [] (statements a.toList) with
  | error e => rfl
  | ok fs => simp only [List.append_nil]

theorem parse_joined_eq_ok_iff (a b : String) (fs : List Field) :
    parse (a ++ ";" ++ b) = .ok fs ↔ ∃ fa fb, parse a = .ok fa ∧ parse b = .ok fb ∧
      (∀ f ∈ fa, ∀ g ∈ fb, f.identifier ≠ g.identifier) ∧ fs = fa ++ fb := by
  rw [parse_joined]
  cases ha : parse a with
  | error e => simp
  | ok fa =>
    have hnew (fb : List Field) : (∀ g ∈ fb, g.identifier ∉ takenNames fa) ↔
        ∀ f ∈ fa, ∀ g ∈ fb, f.identifier ≠ g.identifier := by
      simp only [mem_takenNames, not_exists, not_and]
      exact ⟨fun h f hf g hg => h g hg f hf, fun h g hg f hf => h f hf g hg⟩
    simp only [Except.ok.injEq, exists_and_left, exists_eq_left', ← hnew]
    rw [map_eq_ok_iff]
    constructor
    · intro h
      obtain ⟨fb, hb, rfl⟩ := h
      obtain ⟨hread, hdis⟩ := parseStatements_seen_iff.1 hb
      exact ⟨fb, hread, hdis, rfl⟩
    · intro h
      obtain ⟨fb, hread, hdis, rfl⟩ := h
      exact ⟨fb, parseStatements_seen_iff.2 ⟨hread, hdis⟩, rfl⟩

theorem parseRetained_joined {a b : String} {fa fb : List Field} (ha : parse a = .ok fa)
    (hb : parse b = .ok fb) (hab : parse (a ++ ";" ++ b) = .ok (fa ++ fb)) :
    ∃ ra rb, parseRetained a = .ok ra ∧ parseRetained b = .ok rb ∧
      parseRetained (a ++ ";" ++ b) = .ok (ra ++ rb) := by
  refine ⟨fa.filter Field.isRetained, fb.filter Field.isRetained, ?_, ?_, ?_⟩
  · exact parseRetained_eq_ok_iff.2 ⟨fa, ha, rfl⟩
  · exact parseRetained_eq_ok_iff.2 ⟨fb, hb, rfl⟩
  · exact parseRetained_eq_ok_iff.2 ⟨fa ++ fb, hab, List.filter_append fa fb⟩

theorem Reading.RowReader.lines_append (r : Reading.RowReader) (a b : List Field) :
    r.lines (a ++ b) = r.lines a ++ r.lines b := List.flatMap_append

/-- Where a counter is used, the position of a statement does not show. -/
theorem Binding.ParameterWriter.statement_of_counter {w : ParameterWriter} {c : String}
    (hc : w.counter = some c) (k k' : Nat) (p : Parameter) :
    w.statement k p = w.statement k' p := by
  simp only [statement, indexText, hc]

theorem Binding.ParameterWriter.statement_of_no_counter {w : ParameterWriter}
    (hc : w.counter = none) (k : Nat) (p : Parameter) : w.statement k p =
      w.writer ++ "." ++ p.setter ++ "(" ++ k.repr ++ ", " ++ p.value ++ ");" := by
  simp only [statement, indexText, hc]

/-- The lines that further fields add: with a counter those they would have alone but for its
declaration, else those they would have alone with later positions. -/
theorem BindRequest.exists_added_lines (r : BindRequest) (a b : List Field) : ∃ added,
    r.parameterWriter.lines (a ++ b) = r.parameterWriter.lines a ++ added ∧
    match r.counter with
    | some c => r.parameterWriter.lines b = ("int " ++ c ++ " = 1;") :: added
    | none => ∃ ps : List Parameter,
        let text := fun k (p : Parameter) =>
          r.writerId ++ "." ++ p.setter ++ "(" ++ k.repr ++ ", " ++ p.value ++ ");"
        r.parameterWriter.lines b = ps.mapIdx (fun i p => text (i + 1) p) ∧
          added = ps.mapIdx fun i p => text (i + 1 + a.length) p := by
  have hb := r.parameterWriter.lines_eq_mapIdx rfl b
  refine ⟨_, r.parameterWriter.lines_append rfl a b, ?_⟩
  generalize b.map (parameterOf r.parameterWriter.table r.parameterWriter.object) = ps at hb ⊢
  have hcounter : r.parameterWriter.counter = r.counter := rfl
  cases hc : r.counter with
  | some c =>
    rw [hc] at hcounter
    have hsame : ps.mapIdx (fun i p => r.parameterWriter.statement (1 + i) p) =
        ps.mapIdx fun i p => r.parameterWriter.statement (1 + (i + a.length)) p := by
      simp only [ParameterWriter.statement_of_counter hcounter _ 0]
    rw [hb, hsame, ParameterWriter.header, hcounter]
    rfl
  | none =>
    rw [hc] at hcounter
    refine ⟨ps, ?_, ?_⟩
    · rw [hb, ParameterWriter.header, hcounter, List.nil_append]
      simp only [ParameterWriter.statement_of_no_counter hcounter, Nat.add_comm 1]
      rfl
    · simp only [ParameterWriter.statement_of_no_counter hcounter, Nat.add_comm 1,
        Nat.add_right_comm]
      rfl

/-- Two blocks joined by a semicolon are accepted exactly when each is and they share no name; the
fields are then those of the first and those of the second. A fault of the first is the fault of
both. The lines of the joined blocks are those of the first followed by those of the second, without
its counter line, and with its literal positions moved up by the retained fields of the first. -/
theorem code_of_joined (a b : String) :
    (∀ fs, parse (a ++ ";" ++ b) = .ok fs ↔ ∃ fa fb, parse a = .ok fa ∧ parse b = .ok fb ∧
      (∀ f ∈ fa, ∀ g ∈ fb, f.identifier ≠ g.identifier) ∧ fs = fa ++ fb) ∧
    (∀ e, parse a = .error e → parse (a ++ ";" ++ b) = .error e) ∧
    ∀ fs, parse (a ++ ";" ++ b) = .ok fs →
      ∃ ra rb, parseRetained a = .ok ra ∧ parseRetained b = .ok rb ∧
        (∀ r : ReadRequest,
          { r with fieldsText := a }.code = .ok (joinLines (r.rowReader.lines ra)) ∧
          { r with fieldsText := b }.code = .ok (joinLines (r.rowReader.lines rb)) ∧
          { r with fieldsText := a ++ ";" ++ b }.code =
            .ok (joinLines (r.rowReader.lines ra ++ r.rowReader.lines rb))) ∧
        ∀ r : BindRequest, ∃ added,
          { r with fieldsText := a }.code = .ok (joinLines (r.parameterWriter.lines ra)) ∧
          { r with fieldsText := b }.code = .ok (joinLines (r.parameterWriter.lines rb)) ∧
          { r with fieldsText := a ++ ";" ++ b }.code =
            .ok (joinLines (r.parameterWriter.lines ra ++ added)) ∧
          match r.counter with
          | some c => r.parameterWriter.lines rb = ("int " ++ c ++ " = 1;") :: added
          | none => ∃ ps : List Parameter,
              let text := fun k (p : Parameter) =>
                r.writerId ++ "." ++ p.setter ++ "(" ++ k.repr ++ ", " ++ p.value ++ ");"
              r.parameterWriter.lines rb = ps.mapIdx (fun i p => text (i + 1) p) ∧
                added = ps.mapIdx fun i p => text (i + 1 + ra.length) p := by
  refine ⟨parse_joined_eq_ok_iff a b, ?_, ?_⟩
  · intro e he
    rw [parse_joined, he]
  · intro fs hfs
    obtain ⟨fa, fb, ha, hb, -, rfl⟩ := (parse_joined_eq_ok_iff a b fs).1 hfs
    obtain ⟨ra, rb, hra, hrb, hrab⟩ := parseRetained_joined ha hb hfs
    refine ⟨ra, rb, hra, hrb, fun r => ⟨r.code_eq hra, r.code_eq hrb, ?_⟩, fun r => ?_⟩
    · rw [r.code_eq hrab, Reading.RowReader.lines_append]
    · obtain ⟨added, hadd, hshape⟩ := r.exists_added_lines ra rb
      refine ⟨added, r.code_eq hra, r.code_eq hrb, ?_, hshape⟩
      rw [r.code_eq hrab, hadd]

/-- A static field takes no position, and a type without a rule takes one like any other. -/
theorem code_of_joined_around_static :
    parse ("static int n; int x" ++ ";" ++ "Address home; long y") =
        .ok [⟨"n", "int", true, false⟩, ⟨"x", "int", false, false⟩,
          ⟨"home", "Address", false, false⟩, ⟨"y", "long", false, false⟩] ∧
      (∃ ra rb, parseRetained "static int n; int x" = .ok ra ∧
        parseRetained "Address home; long y" = .ok rb ∧
        ∀ r : ReadRequest,
          { r with fieldsText := "static int n; int x" ++ ";" ++ "Address home; long y" }.code =
            .ok (joinLines (r.rowReader.lines ra ++ r.rowReader.lines rb))) ∧
      parse "orphan" = .error (.missingTokens "orphan") ∧
      parse ("orphan" ++ ";" ++ "int x") = .error (.missingTokens "orphan") := by
  have hok : parse ("static int n; int x" ++ ";" ++ "Address home; long y") =
      .ok [⟨"n", "int", true, false⟩, ⟨"x", "int", false, false⟩,
        ⟨"home", "Address", false, false⟩, ⟨"y", "long", false, false⟩] := by decide
  have horphan : parse "orphan" = .error (.missingTokens "orphan") := by decide
  obtain ⟨ra, rb, hra, hrb, hread, -⟩ := (code_of_joined _ _).2.2 _ hok
  exact ⟨hok, ⟨ra, rb, hra, hrb, fun r => (hread r).2.2⟩, horphan,
    (code_of_joined "orphan" "int x").2.1 _ horphan⟩

example :
    BindRequest.code ⟨"ps", "o", "static int n; int x" ++ ";" ++ "Address home; long y", none⟩ =
      .ok (joinLines ["ps.setInt(1, o.getX());",
        "ps.setString(2, (o.getHome() == null ? null : o.getHome().toString()));",
        "ps.setLong(3, o.getY());"]) := by decide

end RowBinding
