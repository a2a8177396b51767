import RowBinding.Proofs.Text.Scanning
import RowBinding.Proofs.Text.Wrapping

/-!
# Closed texts

A text is closed if a scan that stands outside literals and names comes back there, with as many
parentheses open as before. Closed texts stay closed when they are joined, given to a method as
arguments or put into the holes of a wrapping, whatever else they hold.
-/
namespace RowBinding.Text
open Declaration

namespace Scan
variable {s t : Scan}

/-- A scan of the whole text goes from `s` to `t`. -/
def Leads (s : Scan) (a : String) (t : Scan) : Prop := s.run a.toList = some t

instance (s : Scan) (a : String) (t : Scan) : Decidable (s.Leads a t) :=
  inferInstanceAs (Decidable (_ = _))

theorem Leads.append {u : Scan} {a b : String} (ha : s.Leads a t) (hb : t.Leads b u) :
    s.Leads (a ++ b) u := by
  rw [Leads, String.toList_append, run_append, ha, Option.bind_some, hb]

theorem leads_dot_identifier {name : String} (h : isIdentifier name) (depth : Nat) :
    Leads ⟨.plain, depth⟩ ("." ++ name) ⟨.member, depth⟩ := by
  obtain ⟨c, cs, hname, hc, hcs⟩ := (isIdentifierChars_iff name.toList).1 h
  have hdot : Leads ⟨.plain, depth⟩ "." ⟨.dot, depth⟩ := rfl
  have hstart : Goes ⟨.dot, depth⟩ c ⟨.member, depth⟩ :=
    .startName rfl ((isIdentifierStart_iff c).2 hc)
  have hrest : run ⟨.member, depth⟩ cs = some ⟨.member, depth⟩ :=
    run_of_forall fun d hd => .inName rfl ((isIdentifierPart_iff d).2 (hcs d hd))
  refine hdot.append ?_
  rw [Leads, hname]
  exact run_cons_eq_some_iff.2 ⟨_, hstart, hrest⟩

end Scan

/-- A text that leads from outside literals and names back to there. -/
def IsClosed (a : String) : Prop := Scan.start.Leads a Scan.start

instance : DecidablePred IsClosed := fun _ => inferInstanceAs (Decidable (Scan.Leads _ _ _))

section Closed
variable {a b : String}

theorem IsClosed.leads (h : IsClosed a) (depth : Nat) :
    Scan.Leads ⟨.plain, depth⟩ a ⟨.plain, depth⟩ := by
  have hdeep := Scan.run_deepen h depth
  simpa only [Scan.Leads, Scan.start, Nat.zero_add] using hdeep

theorem IsClosed.append (ha : IsClosed a) (hb : IsClosed b) : IsClosed (a ++ b) :=
  Scan.Leads.append ha hb

theorem isClosed_of_forall (h : ∀ c ∈ a.toList, isIdentifierPart c) : IsClosed a :=
  Scan.run_of_forall fun c hc => .inPlain rfl (.inl (h c hc))

theorem isClosed_of_isIdentifier (h : isIdentifier a) : IsClosed a :=
  isClosed_of_forall fun _ hc => isIdentifierPart_of_mem h hc

theorem isClosed_literal {cs : List Char} (h : ∀ c ∈ cs, isLiteralChar c) :
    IsClosed (String.ofList ('"' :: (cs ++ ['"']))) := by
  have hcontent : Scan.run ⟨.literal, 0⟩ cs = some ⟨.literal, 0⟩ :=
    Scan.run_of_forall fun c hc => .inLiteral rfl (h c hc)
  have hclose : Scan.run ⟨.literal, 0⟩ (cs ++ ['"']) = some Scan.start := by
    rw [Scan.run_append, hcontent]
    rfl
  rw [IsClosed, Scan.Leads, String.toList_ofList]
  exact Scan.run_cons_eq_some_iff.2 ⟨_, .openLiteral rfl, hclose⟩

/-- A call of a method, without what it is called on. -/
theorem isClosed_call {name : String} (hname : isIdentifier name) (ha : IsClosed a) :
    IsClosed ("." ++ name ++ "(" ++ a ++ ")") := by
  have hopen : Scan.Leads ⟨.member, 0⟩ "(" ⟨.plain, 1⟩ := rfl
  have hclose : Scan.Leads ⟨.plain, 1⟩ ")" Scan.start := rfl
  exact (((Scan.leads_dot_identifier hname 0).append hopen).append (ha.leads 1)).append hclose

end Closed

namespace Wrapping

/-- Scanned from a place, the pieces lead to where nothing is open, and between two of them the scan
stands outside literals and names. -/
def LeadsFrom (w : Wrapping) (place : Place) : Prop :=
  w.pieces.foldlM (fun s piece => (s.run piece.toList).filter (·.place = .plain)) ⟨place, 0⟩ =
    some Scan.start

instance (w : Wrapping) (place : Place) : Decidable (w.LeadsFrom place) :=
  inferInstanceAs (Decidable (_ = _))

theorem leads_foldl {s t u : Scan} {a filled : String} {ps : List String} (ha : IsClosed a)
    (hfilled : s.Leads filled t) (hplain : t.place = .plain)
    (h : ps.foldlM (fun s piece => (s.run piece.toList).filter (·.place = .plain)) t = some u) :
    s.Leads (ps.foldl (fun filled piece => filled ++ a ++ piece) filled) u := by
  induction ps generalizing t filled with
  | nil =>
    cases h
    exact hfilled
  | cons p ps ih =>
    rw [List.foldlM_cons, Option.bind_eq_bind, Option.bind_eq_some_iff] at h
    obtain ⟨v, hv, hrest⟩ := h
    obtain ⟨hv, hvplain⟩ := Option.filter_eq_some_iff.1 hv
    obtain ⟨place, depth⟩ := t
    have hplace : place = .plain := hplain
    subst hplace
    exact ih ((hfilled.append (ha.leads depth)).append hv) (by simpa using hvplain) hrest

theorem leads_fill {w : Wrapping} {place : Place} {a : String} (hw : w.LeadsFrom place)
    (ha : IsClosed a) : Scan.Leads ⟨place, 0⟩ (w.fill a) Scan.start := by
  rw [LeadsFrom, pieces, List.foldlM_cons, Option.bind_eq_bind, Option.bind_eq_some_iff] at hw
  obtain ⟨v, hv, hrest⟩ := hw
  obtain ⟨hv, hplain⟩ := Option.filter_eq_some_iff.1 hv
  have hfilled : Scan.Leads ⟨place, 0⟩ w.before v := hv
  have hfill : w.fill a =
    (w.after :: w.again).foldl (fun filled piece => filled ++ a ++ piece) w.before := rfl
  rw [hfill]
  exact leads_foldl ha hfilled (by simpa using hplain) hrest

end Wrapping

end RowBinding.Text
