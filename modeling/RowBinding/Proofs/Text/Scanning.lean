import Mathlib.Algebra.Group.Nat.Even
import Mathlib.Data.List.Basic
import RowBinding.Proofs.Declaration.Grammar

/-!
# Scanning lines

A line of code is scanned from left to right. The state of a scan says whether it stands inside a
literal or in the name after a dot, and how many parentheses are open. A scan stops at a character
that does not fit: a semicolon, a parenthesis that closes none, a dot that no name follows.

What a step can do is said once, in `Goes`. A run over a whole line then counts its parentheses and
quotation marks, and every name that it passes after a dot is an identifier.
-/
namespace RowBinding.Text
open Declaration

/-- Where a scan stands: outside literals and names after dots, right after a dot, in the name after
a dot, or inside a literal. -/
inductive Place where
  | plain
  | dot
  | member
  | literal
deriving DecidableEq, Repr

structure Scan where
  place : Place
  depth : Nat
deriving DecidableEq, Repr

/-- The ASCII characters that a literal may hold. None of them ends the literal or escapes its end,
and parentheses and semicolons do not hide in it. -/
def isLiteralChar (c : Char) : Bool :=
  c.toNat < 128 && !(['"', '\\', '(', ')', ';', '\n'].contains c)

/-- What may stand outside literals besides names, dots and parentheses. -/
def isOperator (c : Char) : Bool := [' ', ',', '=', '?', ':', '+', '/'].contains c

namespace Scan

/-- Nothing is open. -/
def start : Scan := ⟨.plain, 0⟩

/-- A dot or a parenthesis, which may come after a name. -/
def punctuate (depth : Nat) (c : Char) : Option Scan :=
  if c = '.' then some ⟨.dot, depth⟩
  else if c = '(' then some ⟨.plain, depth + 1⟩
  else if c = ')' ∧ 0 < depth then some ⟨.plain, depth - 1⟩
  else none

def step (s : Scan) (c : Char) : Option Scan :=
  match s.place with
  | .plain =>
    if c = '"' then some ⟨.literal, s.depth⟩
    else if isIdentifierPart c || isOperator c then some s
    else punctuate s.depth c
  | .dot => if isIdentifierStart c then some ⟨.member, s.depth⟩ else none
  | .member => if isIdentifierPart c then some s else punctuate s.depth c
  | .literal =>
    if c = '"' then some ⟨.plain, s.depth⟩ else if isLiteralChar c then some s else none

def run (s : Scan) (cs : List Char) : Option Scan := cs.foldlM step s

@[simp] theorem run_nil (s : Scan) : s.run [] = some s := rfl

theorem run_cons (s : Scan) (c : Char) (cs : List Char) :
    s.run (c :: cs) = (s.step c).bind fun t => t.run cs := rfl

theorem run_append (s : Scan) (a b : List Char) :
    s.run (a ++ b) = (s.run a).bind fun t => t.run b := List.foldlM_append

/-- The ways in which a scan can go on. -/
inductive Goes (s : Scan) : Char → Scan → Prop
  | openLiteral : s.place = .plain → Goes s '"' ⟨.literal, s.depth⟩
  | closeLiteral : s.place = .literal → Goes s '"' ⟨.plain, s.depth⟩
  | inLiteral {c : Char} : s.place = .literal → isLiteralChar c → Goes s c s
  | inPlain {c : Char} : s.place = .plain → isIdentifierPart c ∨ isOperator c → Goes s c s
  | startName {c : Char} : s.place = .dot → isIdentifierStart c → Goes s c ⟨.member, s.depth⟩
  | inName {c : Char} : s.place = .member → isIdentifierPart c → Goes s c s
  | dot : s.place = .plain ∨ s.place = .member → Goes s '.' ⟨.dot, s.depth⟩
  | openParenthesis : s.place = .plain ∨ s.place = .member → Goes s '(' ⟨.plain, s.depth + 1⟩
  | closeParenthesis {depth : Nat} : s.place = .plain ∨ s.place = .member → s.depth = depth + 1 →
      Goes s ')' ⟨.plain, depth⟩

/-- The characters that a scan counts, and the one that it never passes. -/
def marks : List Char := ['"', '(', ')', ';']

theorem not_mem_marks_of_isIdentifierPart {c : Char} (h : isIdentifierPart c) : c ∉ marks := by
  intro hc
  simp only [marks, List.mem_cons, List.not_mem_nil, or_false] at hc
  rcases hc with rfl | rfl | rfl | rfl
  all_goals exact absurd h (by decide)

theorem not_mem_marks_of_isOperator {c : Char} (h : isOperator c) : c ∉ marks := by
  intro hc
  simp only [marks, List.mem_cons, List.not_mem_nil, or_false] at hc
  rcases hc with rfl | rfl | rfl | rfl
  all_goals exact absurd h (by decide)

theorem not_mem_marks_of_isLiteralChar {c : Char} (h : isLiteralChar c) : c ∉ marks := by
  intro hc
  simp only [marks, List.mem_cons, List.not_mem_nil, or_false] at hc
  rcases hc with rfl | rfl | rfl | rfl
  all_goals exact absurd h (by decide)

theorem isIdentifierPart_of_isIdentifierStart {c : Char} (h : isIdentifierStart c) :
    isIdentifierPart c := by
  rw [isIdentifierPart_iff]
  exact .inl ((isIdentifierStart_iff c).1 h)

variable {s t : Scan} {c : Char} {cs : List Char}

theorem goes_of_punctuate (hs : s.place = .plain ∨ s.place = .member)
    (h : punctuate s.depth c = some t) : s.Goes c t := by
  unfold punctuate at h
  split_ifs at h with hdot hopen hclose
  · cases h
    subst hdot
    exact .dot hs
  · cases h
    subst hopen
    exact .openParenthesis hs
  · cases h
    obtain ⟨rfl, hpos⟩ := hclose
    exact .closeParenthesis hs (by omega)

theorem goes_of_step (h : s.step c = some t) : s.Goes c t := by
  unfold step at h
  split at h
  · next hs =>
    split_ifs at h with hquote hplain
    · cases h
      subst hquote
      exact .openLiteral hs
    · cases h
      exact .inPlain hs (by simpa using hplain)
    · exact goes_of_punctuate (.inl hs) h
  · next hs =>
    split_ifs at h with hstart
    cases h
    exact .startName hs hstart
  · next hs =>
    split_ifs at h with hpart
    · cases h
      exact .inName hs hpart
    · exact goes_of_punctuate (.inr hs) h
  · next hs =>
    split_ifs at h with hquote hliteral
    · cases h
      subst hquote
      exact .closeLiteral hs
    · cases h
      exact .inLiteral hs hliteral

theorem step_of_goes (h : s.Goes c t) : s.step c = some t := by
  have hdot : isIdentifierPart '.' = false ∧ isOperator '.' = false := by decide
  have hopen : isIdentifierPart '(' = false ∧ isOperator '(' = false := by decide
  have hclose : isIdentifierPart ')' = false ∧ isOperator ')' = false := by decide
  cases h with
  | openLiteral hs | closeLiteral hs => simp [step, hs]
  | inLiteral hs hc =>
    have hmark := not_mem_marks_of_isLiteralChar hc
    have hquote : c ≠ '"' := by
      rintro rfl
      exact hmark (by decide)
    simp [step, hs, hc, hquote]
  | inPlain hs hc =>
    have hquote : c ≠ '"' := by
      rintro rfl
      exact absurd hc (by decide)
    simp [step, hs, hc, hquote]
  | startName hs hc | inName hs hc => simp [step, hs, hc]
  | dot hs => rcases hs with hs | hs <;> simp [step, hs, hdot, punctuate]
  | openParenthesis hs => rcases hs with hs | hs <;> simp [step, hs, hopen, punctuate]
  | closeParenthesis hs hdepth =>
    rcases hs with hs | hs <;> simp [step, hs, hclose, hdepth, punctuate]

theorem step_eq_some_iff : s.step c = some t ↔ s.Goes c t := ⟨goes_of_step, step_of_goes⟩

theorem run_cons_eq_some_iff :
    s.run (c :: cs) = some t ↔ ∃ u, s.Goes c u ∧ u.run cs = some t := by
  rw [run_cons, Option.bind_eq_some_iff]
  simp only [step_eq_some_iff]

/-- What a step does to the depth, and to whether the scan is in a literal. -/
theorem Goes.effect (h : s.Goes c t) :
    (c = '"' ∧ t.depth = s.depth ∧ (t.place = .literal ↔ s.place ≠ .literal)) ∨
    (c = '(' ∧ t.depth = s.depth + 1 ∧ (t.place = .literal ↔ s.place = .literal)) ∨
    (c = ')' ∧ s.depth = t.depth + 1 ∧ (t.place = .literal ↔ s.place = .literal)) ∨
    (c ∉ marks ∧ t.depth = s.depth ∧ (t.place = .literal ↔ s.place = .literal)) := by
  cases h with
  | openLiteral hs => exact .inl ⟨rfl, rfl, by simp [hs]⟩
  | closeLiteral hs => exact .inl ⟨rfl, rfl, by simp [hs]⟩
  | openParenthesis hs =>
    refine .inr (.inl ⟨rfl, rfl, ?_⟩)
    rcases hs with hs | hs <;> simp [hs]
  | closeParenthesis hs hdepth =>
    refine .inr (.inr (.inl ⟨rfl, hdepth, ?_⟩))
    rcases hs with hs | hs <;> simp [hs]
  | dot hs =>
    refine .inr (.inr (.inr ⟨by decide, rfl, ?_⟩))
    rcases hs with hs | hs <;> simp [hs]
  | inLiteral _ hc => exact .inr (.inr (.inr ⟨not_mem_marks_of_isLiteralChar hc, rfl, Iff.rfl⟩))
  | inPlain _ hc =>
    have hmark : c ∉ marks := by
      rcases hc with hc | hc
      · exact not_mem_marks_of_isIdentifierPart hc
      · exact not_mem_marks_of_isOperator hc
    exact .inr (.inr (.inr ⟨hmark, rfl, Iff.rfl⟩))
  | startName hs hc =>
    have hmark := not_mem_marks_of_isIdentifierPart (isIdentifierPart_of_isIdentifierStart hc)
    exact .inr (.inr (.inr ⟨hmark, rfl, by simp [hs]⟩))
  | inName _ hc =>
    exact .inr (.inr (.inr ⟨not_mem_marks_of_isIdentifierPart hc, rfl, Iff.rfl⟩))

theorem run_depth (h : s.run cs = some t) : t.depth + cs.count ')' = s.depth + cs.count '(' := by
  induction cs generalizing s with
  | nil =>
    cases h
    rfl
  | cons c cs ih =>
    obtain ⟨u, hstep, hrun⟩ := run_cons_eq_some_iff.1 h
    have hrest := ih hrun
    simp only [List.count_cons, beq_iff_eq]
    rcases hstep.effect with
      ⟨rfl, hdepth, -⟩ | ⟨rfl, hdepth, -⟩ | ⟨rfl, hdepth, -⟩ | ⟨hc, hdepth, -⟩
    · rw [if_neg (by decide), if_neg (by decide)]
      omega
    · rw [if_neg (by decide), if_pos rfl]
      omega
    · rw [if_pos rfl, if_neg (by decide)]
      omega
    · have hne (d : Char) (hd : d ∈ marks) : c ≠ d := by
        rintro rfl
        exact hc hd
      rw [if_neg (hne _ (by decide)), if_neg (hne _ (by decide))]
      omega

theorem even_count_quote_iff (h : s.run cs = some t) :
    Even (cs.count '"') ↔ (t.place = .literal ↔ s.place = .literal) := by
  induction cs generalizing s with
  | nil =>
    cases h
    simp
  | cons c cs ih =>
    obtain ⟨u, hstep, hrun⟩ := run_cons_eq_some_iff.1 h
    have hrest := ih hrun
    have hother (hc : c ≠ '"') (hplace : u.place = .literal ↔ s.place = .literal) :
        Even ((c :: cs).count '"') ↔ (t.place = .literal ↔ s.place = .literal) := by
      rw [List.count_cons_of_ne hc, hrest, hplace]
    rcases hstep.effect with
      ⟨rfl, -, hplace⟩ | ⟨rfl, -, hplace⟩ | ⟨rfl, -, hplace⟩ | ⟨hc, -, hplace⟩
    · rw [List.count_cons_self, Nat.even_add_one, hrest, hplace]
      tauto
    · exact hother (by decide) hplace
    · exact hother (by decide) hplace
    · refine hother ?_ hplace
      rintro rfl
      exact hc (by decide)

theorem not_mem_semicolon (h : s.run cs = some t) : ';' ∉ cs := by
  induction cs generalizing s with
  | nil => simp
  | cons c cs ih =>
    obtain ⟨u, hstep, hrun⟩ := run_cons_eq_some_iff.1 h
    have heffect := hstep.effect
    intro hc
    rcases List.mem_cons.1 hc with rfl | hc
    · simp [marks] at heffect
    · exact ih hrun hc

/-- No beginning of a line closes more parentheses than it opens. -/
theorem count_le_of_isPrefix {p : List Char} (h : start.run cs = some t) (hp : p <+: cs) :
    p.count ')' ≤ p.count '(' := by
  obtain ⟨rest, rfl⟩ := hp
  rw [run_append, Option.bind_eq_some_iff] at h
  obtain ⟨u, hu, -⟩ := h
  have hdepth := run_depth hu
  have hstart : start.depth = 0 := rfl
  omega

theorem isIdentifierPart_of_run {name after : List Char} (hs : s.place = .member)
    (h : s.run (name ++ after) = some t) (hname : ∀ c ∈ name, c ∉ ['.', '(', ')']) :
    name.all isIdentifierPart := by
  induction name with
  | nil => rfl
  | cons c cs ih =>
    obtain ⟨u, hstep, hrun⟩ := run_cons_eq_some_iff.1 h
    have hc := hname c List.mem_cons_self
    cases hstep with
    | inName _ hpart =>
      have hcs := ih hrun fun d hd => hname d (List.mem_cons_of_mem c hd)
      rw [List.all_cons, hpart, hcs]
      rfl
    | dot | openParenthesis | closeParenthesis => exact absurd (by decide) hc
    | openLiteral hplace | closeLiteral hplace | inLiteral hplace | inPlain hplace
    | startName hplace => simp [hs] at hplace

/-- What stands between a dot and the next parenthesis or dot is an identifier. -/
theorem isIdentifierChars_of_run {name after : List Char} (hs : s.place ≠ .literal)
    (h : s.run ('.' :: (name ++ '(' :: after)) = some t)
    (hname : ∀ c ∈ name, c ∉ ['.', '(', ')']) : isIdentifierChars name := by
  obtain ⟨u, hdot, hrun⟩ := run_cons_eq_some_iff.1 h
  have hu : u.place = .dot := by
    cases hdot with
    | dot => rfl
    | inLiteral hplace => exact absurd hplace hs
    | inPlain _ hc | startName _ hc | inName _ hc => exact absurd hc (by decide)
  match name with
  | [] =>
    obtain ⟨v, hopen, -⟩ := run_cons_eq_some_iff.1 hrun
    cases hopen with
    | startName _ hc => exact absurd hc (by decide)
    | inLiteral hplace | inPlain hplace | inName hplace => simp [hu] at hplace
    | openParenthesis hplace => simp [hu] at hplace
  | c :: cs =>
    obtain ⟨v, hstart, hrun⟩ := run_cons_eq_some_iff.1 hrun
    cases hstart with
    | startName _ hc =>
      have hcs := isIdentifierPart_of_run rfl hrun fun d hd => hname d (List.mem_cons_of_mem c hd)
      rw [isIdentifierChars, hc, hcs]
      rfl
    | openLiteral hplace | closeLiteral hplace | inLiteral hplace | inPlain hplace
    | inName hplace | dot hplace | openParenthesis hplace | closeParenthesis hplace =>
      simp [hu] at hplace

/-- Parentheses that are open around a text are left alone. -/
theorem Goes.deepen (h : s.Goes c t) (k : Nat) :
    (⟨s.place, s.depth + k⟩ : Scan).Goes c ⟨t.place, t.depth + k⟩ := by
  cases h with
  | openLiteral hs => exact .openLiteral hs
  | closeLiteral hs => exact .closeLiteral hs
  | inLiteral hs hc => exact .inLiteral hs hc
  | inPlain hs hc => exact .inPlain hs hc
  | startName hs hc => exact .startName hs hc
  | inName hs hc => exact .inName hs hc
  | dot hs => exact .dot hs
  | openParenthesis hs =>
    rw [Nat.add_right_comm]
    exact .openParenthesis hs
  | closeParenthesis hs hdepth =>
    refine .closeParenthesis hs ?_
    rw [hdepth, Nat.add_right_comm]

theorem run_deepen (h : s.run cs = some t) (k : Nat) :
    run ⟨s.place, s.depth + k⟩ cs = some ⟨t.place, t.depth + k⟩ := by
  induction cs generalizing s with
  | nil =>
    cases h
    rfl
  | cons c cs ih =>
    obtain ⟨u, hstep, hrun⟩ := run_cons_eq_some_iff.1 h
    exact run_cons_eq_some_iff.2 ⟨_, hstep.deepen k, ih hrun⟩

theorem run_of_forall (h : ∀ c ∈ cs, s.Goes c s) : s.run cs = some s := by
  induction cs with
  | nil => rfl
  | cons c cs ih =>
    have hrest := ih fun d hd => h d (List.mem_cons_of_mem c hd)
    exact run_cons_eq_some_iff.2 ⟨s, h c List.mem_cons_self, hrest⟩

end Scan

end RowBinding.Text
