import RowBinding.Proofs.Json.Rendering

/-!
# Texts inside texts

A text that writes a value writes it also inside a larger text, where a value is due and the next
thing is a comma or a closing mark. Its tokens are the same there: only a numeral could go on, and
a mark ends it. And the run over them never looks at what is open around it, so it
completes the same outline and goes on from there.
-/
namespace RowBinding.Json
open Text Outline

/-- The text starts with a mark between values. -/
def StartsWithMark (x : List Char) : Prop := ∃ c cs t, x = c :: cs ∧ markToken c = some t

theorem stringElements_append {cs rest : List Char} {es : List Element}
    (h : stringElements cs = some (es, rest)) (x : List Char) :
    stringElements (cs ++ x) = some (es, rest ++ x) := by
  fun_induction stringElements cs generalizing es rest with
  | case1 => cases h
  | case2 r =>
    cases h
    rfl
  | case3 a b c d r n es' after hr hn ih =>
    cases h
    simp only [List.cons_append, stringElements, hn, ih hr]
  | case4 => cases h
  | case5 e r _ c es' after hr hc ih =>
    cases h
    have hescape := readAs_escape hc (r ++ x)
    rwa [ih hr] at hescape
  | case6 => cases h
  | case7 => cases h
  | case8 c r hquote _ hescape hc es' after hr ih =>
    cases h
    have hslash : c ≠ '\\' := by
      rintro rfl
      cases r with
      | nil => cases hr
      | cons e r => exact hescape e r rfl rfl
    have hchar := readAs_char hquote hslash (by omega) (r ++ x)
    rwa [ih hr] at hchar
  | case9 => cases h

theorem stringToken_append {cs rest : List Char} {t : Token}
    (h : stringToken cs = some (t, rest)) (x : List Char) :
    stringToken (cs ++ x) = some (t, rest ++ x) := by
  obtain ⟨⟨es, after⟩, hread, heq⟩ := Option.map_eq_some_iff.1 h
  cases heq
  rw [stringToken, stringElements_append hread]
  rfl

theorem after?_append {word cs rest : List Char} (h : after? word cs = some rest)
    (x : List Char) : after? word (cs ++ x) = some (rest ++ x) := by
  fun_induction after? word cs with
  | case1 cs =>
    cases h
    rfl
  | case2 => cases h
  | case3 w ws cs ih =>
    rw [List.cons_append, after?, if_pos rfl]
    exact ih h
  | case4 => cases h

theorem wordToken_append {word cs rest : List Char} {t u : Token}
    (h : wordToken word t cs = some (u, rest)) (x : List Char) :
    wordToken word t (cs ++ x) = some (u, rest ++ x) := by
  obtain ⟨after, hread, heq⟩ := Option.map_eq_some_iff.1 h
  cases heq
  rw [wordToken, after?_append hread]
  rfl

section Numerals
variable {x : List Char}

/-- No numeral goes on with a mark. -/
theorem StartsWithMark.exists_cons (hx : StartsWithMark x) : ∃ c cs, x = c :: cs ∧
    c.isDigit = false ∧ c ≠ '.' ∧ c ≠ 'e' ∧ c ≠ 'E' := by
  obtain ⟨c, cs, t, rfl, ht⟩ := hx
  refine ⟨c, cs, rfl, ?_⟩
  have hc : c = '[' ∨ c = ']' ∨ c = '\x7b' ∨ c = '\x7d' ∨ c = ',' ∨ c = ':' := by
    unfold markToken at ht
    grind
  rcases hc with rfl | rfl | rfl | rfl | rfl | rfl <;> decide

theorem leadingDigits_append (hx : StartsWithMark x) (cs : List Char) :
    leadingDigits (cs ++ x) = ((leadingDigits cs).1, (leadingDigits cs).2 ++ x) := by
  induction cs with
  | nil =>
    obtain ⟨c, cs, rfl, hc, -⟩ := hx.exists_cons
    simp [leadingDigits, hc]
  | cons c cs ih =>
    cases hc : c.isDigit with
    | false => simp [leadingDigits, hc]
    | true => simpa [leadingDigits, hc] using ih

variable {cs rest : List Char}

theorem wholePart_append (hx : StartsWithMark x) {ds : List Nat}
    (h : wholePart cs = some (ds, rest)) : wholePart (cs ++ x) = some (ds, rest ++ x) := by
  rw [wholePart, leadingDigits_append hx]
  rw [wholePart] at h
  generalize leadingDigits cs = found at h ⊢
  obtain ⟨found, after⟩ := found
  match found with
  | [] => cases h
  | 0 :: _ :: _ => cases h
  | [0] | [_ + 1] | (_ + 1) :: _ :: _ =>
    cases h
    rfl

theorem fractionPart_append (hx : StartsWithMark x) {ds : List Nat}
    (h : fractionPart cs = some (ds, rest)) : fractionPart (cs ++ x) = some (ds, rest ++ x) := by
  by_cases hpoint : ∃ cs', cs = '.' :: cs'
  · obtain ⟨cs', rfl⟩ := hpoint
    rw [List.cons_append, fractionPart, leadingDigits_append hx]
    rw [fractionPart] at h
    generalize leadingDigits cs' = found at h ⊢
    obtain ⟨found, after⟩ := found
    match found with
    | [] => cases h
    | d :: ds' =>
      cases h
      rfl
  · have hnone (cs : List Char) (hcs : ∀ cs', cs ≠ '.' :: cs') :
        fractionPart cs = some ([], cs) := by
      rw [fractionPart]
      exact hcs
    have hcs : ∀ cs', cs ≠ '.' :: cs' := fun cs' heq => hpoint ⟨cs', heq⟩
    rw [hnone cs hcs] at h
    cases h
    refine hnone _ fun cs' heq => ?_
    cases cs with
    | nil =>
      obtain ⟨c, x', rfl, -, hc, -⟩ := hx.exists_cons
      exact hc (List.cons.inj heq).1
    | cons c cs => exact hcs cs (by rw [(List.cons.inj heq).1])

theorem exponentDigits_append (hx : StartsWithMark x) {negative : Bool} {e : Option Int}
    (h : exponentDigits negative cs = some (e, rest)) :
    exponentDigits negative (cs ++ x) = some (e, rest ++ x) := by
  rw [exponentDigits, leadingDigits_append hx]
  rw [exponentDigits] at h
  generalize leadingDigits cs = found at h ⊢
  obtain ⟨found, after⟩ := found
  match found with
  | [] => cases h
  | d :: ds =>
    cases h
    rfl

theorem exponentPart_append (hx : StartsWithMark x) {e : Option Int}
    (h : exponentPart cs = some (e, rest)) : exponentPart (cs ++ x) = some (e, rest ++ x) := by
  cases cs with
  | nil =>
    cases h
    obtain ⟨c, x', rfl, -, -, he, hE⟩ := hx.exists_cons
    simp [exponentPart, he, hE]
  | cons c cs =>
    unfold exponentPart at h ⊢
    rw [List.cons_append]
    dsimp only at h ⊢
    split at h
    · next hc =>
      rw [if_pos hc]
      split at h
      · exact exponentDigits_append hx h
      · exact exponentDigits_append hx h
      · next hplus hminus =>
        cases cs with
        | nil => cases h
        | cons d ds =>
          have hd := exponentDigits_append hx h
          rw [List.cons_append] at hd ⊢
          split
          · next heq => exact (hplus ds (by rw [(List.cons.inj heq).1])).elim
          · next heq => exact (hminus ds (by rw [(List.cons.inj heq).1])).elim
          · exact hd
    · next hc =>
      rw [if_neg hc]
      cases h
      rfl

theorem numeralAfterSign_append (hx : StartsWithMark x) {negative : Bool} {n : Numeral}
    (h : numeralAfterSign negative cs = some (n, rest)) :
    numeralAfterSign negative (cs ++ x) = some (n, rest ++ x) := by
  unfold numeralAfterSign at h
  split at h
  · cases h
  · next hwhole =>
    split at h
    · cases h
    · next hfraction =>
      split at h
      · cases h
      · next hexponent =>
        cases h
        simp only [numeralAfterSign, wholePart_append hx hwhole, fractionPart_append hx hfraction,
          exponentPart_append hx hexponent]

theorem numberToken_append (hx : StartsWithMark x) {negative : Bool} {t : Token}
    (h : numberToken negative cs = some (t, rest)) :
    numberToken negative (cs ++ x) = some (t, rest ++ x) := by
  obtain ⟨⟨n, after⟩, hread, heq⟩ := Option.map_eq_some_iff.1 h
  cases heq
  rw [numberToken, numeralAfterSign_append hx hread]
  rfl

end Numerals

section Whole
variable {x : List Char}

theorem nextToken_append (hx : StartsWithMark x) {c : Char} {cs rest : List Char} {t : Token}
    (h : nextToken c cs = some (t, rest)) : nextToken c (cs ++ x) = some (t, rest ++ x) := by
  have hword {word : List Char} {u : Token} (h : wordToken word u cs = some (t, rest)) :=
    wordToken_append h x
  have hnumber {negative : Bool} {cs : List Char} (h : numberToken negative cs = some (t, rest)) :=
    numberToken_append hx h
  unfold nextToken at h ⊢
  split at h
  · cases h
    rfl
  · grind [stringToken_append]

theorem tokens_append (hx : StartsWithMark x) {cs : List Char} (h : .bad ∉ tokens cs) :
    tokens (cs ++ x) = tokens cs ++ tokens x := by
  fun_induction tokens cs with
  | case1 => rfl
  | case2 c cs hblank ih =>
    rw [List.cons_append, tokens_blank hblank]
    exact ih h
  | case3 c cs hblank hnone => exact absurd List.mem_cons_self h
  | case4 c cs hblank t rest hread _ ih =>
    have hblank' : isJsonBlank c = false := by simpa using hblank
    have hrest : .bad ∉ tokens rest := fun hbad => h (List.mem_cons_of_mem _ hbad)
    rw [List.cons_append, tokens_cons hblank' (nextToken_append hx hread), ih hrest,
      List.cons_append]

end Whole

namespace Outline

/-- The progress seen from inside further open frames. -/
def Progress.inside (outer : List Frame) : Progress → Progress
  | .open frames due => .open (frames ++ outer) due
  | .complete root => deliver root outer
  | .stuck => .stuck

theorem deliver_append (o : Outline) (frames outer : List Frame) :
    deliver o (frames ++ outer) = (deliver o frames).inside outer := by
  cases frames with
  | nil => rfl
  | cons f frames => cases f <;> rfl

theorem startValue_append (frames outer : List Frame) (t : Token) :
    startValue (frames ++ outer) t = (startValue frames t).inside outer := by
  cases t <;> first | exact deliver_append _ _ _ | rfl

/-- No step looks at the frames around the innermost one. -/
theorem step_append (frames outer : List Frame) (due : Due) (t : Token) :
    step (frames ++ outer) due t = (step frames due t).inside outer := by
  cases due with
  | value => exact startValue_append frames outer t
  | firstItem =>
    have hitem := startValue_append (.item [] :: frames) outer t
    cases t <;> first | exact deliver_append _ _ _ | exact hitem
  | _ => cases t <;> first | exact deliver_append _ _ _ | rfl

theorem step_bad (frames : List Frame) (due : Due) : step frames due .bad = .stuck := by
  cases due <;> rfl

/-- The outline has no value, however deep it may be nested. -/
def Valueless (o : Outline) : Prop := ∀ depth, o.value? depth = none

theorem valueless_wrap {inner : Outline} (h : inner.Valueless) (frames : List Frame) :
    (wrap inner frames).Valueless := by
  induction frames generalizing inner with
  | nil => exact h
  | cons f frames ih =>
    cases f with
    | item before => exact ih fun depth => by cases depth <;> rfl
    | member before key => exact ih fun depth => by cases depth <;> rfl

theorem valueless_cut (frames : List Frame) (due : Due) : (cut frames due).Valueless := by
  cases due <;> exact valueless_wrap (fun depth => by cases depth <;> rfl) _

end Outline

section Run
variable {frames : List Frame} {due : Due} {ts rest : List Token} {o : Outline} {depth : Nat}
  {v : Value}

/-- A run that completes a value completes it inside further frames as well, and goes on there. -/
theorem run_append (h : run frames due ts = (o, rest)) (hv : o.value? depth = some v)
    (outer : List Frame) (after : List Token) :
    run (frames ++ outer) due (ts ++ after) = resume o outer (rest ++ after) := by
  induction ts generalizing frames due with
  | nil =>
    cases h
    rw [valueless_cut] at hv
    cases hv
  | cons t ts ih =>
    rw [run] at h
    rw [List.cons_append]
    split at h
    · next frames' due' hstep =>
      have hopen : step (frames ++ outer) due t = .open (frames' ++ outer) due' := by
        rw [step_append, hstep]
        rfl
      rw [run_of_open hopen]
      exact ih h
    · next hstep =>
      cases h
      have hdeliver : step (frames ++ outer) due t = deliver o outer := by
        rw [step_append, hstep]
        rfl
      exact run_of_deliver hdeliver _
    · cases h
      rw [valueless_cut] at hv
      cases hv

theorem not_mem_bad_of_run (h : run frames due ts = (o, [])) (hv : o.value? depth = some v) :
    .bad ∉ ts := by
  induction ts generalizing frames due with
  | nil => exact List.not_mem_nil
  | cons t ts ih =>
    rw [run] at h
    split at h
    · next hstep =>
      have ht : t ≠ .bad := by
        rintro rfl
        rw [step_bad] at hstep
        cases hstep
      exact List.not_mem_cons_of_ne_of_not_mem ht.symm (ih h)
    · next hstep =>
      cases h
      rintro hbad
      rw [← List.mem_singleton.1 hbad, step_bad] at hstep
      cases hstep
    · cases h

end Run

/-- The value that a whole text writes, nested at most `depth` deep. -/
def valueWithin? (depth : Nat) (text : String) : Option Value :=
  match Outline.ofText text with
  | (root, true) => root.value? depth
  | (_, false) => none

theorem valueWithin?_eq_some_iff {depth : Nat} {text : String} {v : Value} :
    valueWithin? depth text = some v ↔
      ∃ o, Outline.ofText text = (o, true) ∧ o.value? depth = some v := by
  rw [valueWithin?]
  split
  · next o ho => simp [ho]
  · next o ho => simp [ho]

section Inside
variable {text : String} {o : Outline} {depth : Nat} {v : Value}

theorem parse?_eq (text : String) : parse? text = valueWithin? depthLimit text := rfl

theorem run_text (h : Outline.ofText text = (o, true)) (hv : o.value? depth = some v)
    {x : List Char} (hx : StartsWithMark x) (frames : List Frame) :
    run frames .value (tokens (text.toList ++ x)) = resume o frames (tokens x) := by
  have hrun : run [] .value (tokens text.toList) = (o, []) := by
    simpa [Outline.ofText, Prod.ext_iff] using h
  rw [tokens_append hx (not_mem_bad_of_run hrun hv)]
  exact run_append hrun hv frames (tokens x)

/-- The text of an object: members as they are written, and one more with a text as its value. -/
def objectWith (ms : List (String × Value)) (key text : String) : String :=
  "\x7b" ++ commaSeparated (renderMembers ms ++ [quote key ++ ":" ++ text]) ++ "\x7d"

/-- The last member and the closing brace. -/
theorem run_lastMember (h : Outline.ofText text = (o, true)) (hv : o.value? depth = some v)
    {key : String} {due : Due} {before : List (Option String × Outline)}
    (hdue : step [] due (.string (some key)) = .open [] (.colon before (some key))) :
    run [] due (tokens ((quote key).toList ++ ':' :: (text.toList ++ ['\x7d']))) =
      (.object (before.reverse ++ [(some key, o)]) .closed, []) := by
  have hclose : tokens ['\x7d'] = [.closeBrace] := by
    rw [tokens_mark rfl rfl, tokens]
  have hmark : StartsWithMark ['\x7d'] := ⟨_, _, _, rfl, rfl⟩
  have hdeliver : step [] (.afterMember ((some key, o) :: before)) .closeBrace =
      deliver (.object (before.reverse ++ [(some key, o)]) .closed) [] := by
    rw [← List.reverse_cons]
    rfl
  rw [run_member (run_text h hv hmark) hdue, hclose, run_of_deliver hdeliver]
  rfl

theorem ofText_objectWith {ms : List (String × Value)} (hms : ∀ m ∈ ms, m.2.Plain depth)
    (h : Outline.ofText text = (o, true)) (hv : o.value? depth = some v) (key : String) :
    Outline.ofText (objectWith ms key text) =
      (.object (memberOutlines ms ++ [(some key, o)]) .closed, true) := by
  have hlast : (quote key ++ ":" ++ text).toList ++ ['\x7d'] =
      (quote key).toList ++ ':' :: (text.toList ++ ['\x7d']) := by
    simp
  have hwrites : ∀ m ∈ ms, Writes m.2.render.toList m.2.outline := fun m hm => (hms m hm).writes
  have hrun : run [] .value (tokens (objectWith ms key text).toList) =
      (.object (memberOutlines ms ++ [(some key, o)]) .closed, []) := by
    have htext : (objectWith ms key text).toList =
        '\x7b' :: ((commaSeparated (renderMembers ms ++ [quote key ++ ":" ++ text])).toList ++
          ['\x7d']) := by
      simp [objectWith]
    rw [htext, tokens_mark rfl rfl, run_of_open rfl]
    cases ms with
    | nil =>
      have hfirst : step [] .firstKey (.string (some key)) = .open [] (.colon [] (some key)) := rfl
      rw [renderMembers, List.nil_append, commaSeparated, hlast, run_lastMember h hv hfirst]
      rfl
    | cons m ms =>
      obtain ⟨k, u⟩ := m
      have hu : Writes u.render.toList u.outline := hwrites (k, u) List.mem_cons_self
      rw [renderMembers, List.cons_append, toList_commaSeparated_cons, List.flatMap_append,
        List.append_assoc, List.append_assoc, toList_member, run_member (hu _).2 rfl,
        run_moreMembers fun m hm => hwrites m (List.mem_cons_of_mem _ hm), List.flatMap_singleton,
        List.cons_append, tokens_mark rfl rfl, run_of_open rfl, hlast, run_lastMember h hv rfl]
      simp [memberOutlines]
  rw [Outline.ofText, hrun]
  rfl

/-- A text that writes a value writes it also as the value of a member. -/
theorem valueWithin?_objectWith {ms : List (String × Value)} (hms : ∀ m ∈ ms, m.2.Plain depth)
    (h : valueWithin? depth text = some v) (key : String) :
    valueWithin? (depth + 1) (objectWith ms key text) = some (.object (ms ++ [(key, v)])) := by
  obtain ⟨o, ho, hv⟩ := valueWithin?_eq_some_iff.1 h
  refine valueWithin?_eq_some_iff.2 ⟨_, ofText_objectWith hms ho hv key, ?_⟩
  rw [Outline.value?, Option.map_eq_some_iff]
  refine ⟨_, mapM_eq_some_iff.2 (List.rel_append ?_ (.cons ?_ .nil)), rfl⟩
  · rw [memberOutlines_eq_map, List.forall₂_map_left_iff, List.forall₂_same]
    intro m hm
    simp [(hms m hm).value?_outline]
  · simp [hv]

end Inside

end RowBinding.Json
