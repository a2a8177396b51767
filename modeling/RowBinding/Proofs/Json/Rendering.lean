import Mathlib.Data.List.Forall2
import RowBinding.Json.Outline
import RowBinding.Proofs.Json.Strings

/-!
# Reading written values back

The written form of a value is read as the outline of the value wherever a value is due, inside
any open arrays and objects and before any further text. The outline of a value that is nested
within the limit has that value again. Numbers are left out: they are written in one way and read
in many.
-/
namespace RowBinding.Json
open Text Outline

theorem tokens_cons {c : Char} {cs rest : List Char} {t : Token} (hc : isJsonBlank c = false)
    (h : nextToken c cs = some (t, rest)) : tokens (c :: cs) = t :: tokens rest := by
  rw [tokens, hc, if_neg (by simp)]
  split
  · next hn => rw [h] at hn; cases hn
  · next hn =>
    rw [h] at hn
    cases hn
    rfl

theorem tokens_blank {c : Char} (hc : isJsonBlank c = true) (cs : List Char) :
    tokens (c :: cs) = tokens cs := by
  rw [tokens, if_pos hc]

theorem tokens_mark {c : Char} {t : Token} (hc : isJsonBlank c = false) (h : markToken c = some t)
    (cs : List Char) : tokens (c :: cs) = t :: tokens cs := by
  apply tokens_cons hc
  rw [nextToken, h]

theorem tokens_quote (s : String) (rest : List Char) :
    tokens ((quote s).toList ++ rest) = .string (some s) :: tokens rest := by
  have hread := stringToken_quoted s.toList rest
  rw [String.ofList_toList] at hread
  rw [quote, String.toList_ofList, quoteChars, List.cons_append, List.append_assoc,
    List.singleton_append]
  exact tokens_cons rfl hread

/-- How reading goes on when the value `o` is complete inside `frames`. -/
def resume (o : Outline) (frames : List Frame) (ts : List Token) : Outline × List Token :=
  match frames with
  | [] => (o, ts)
  | .item before :: frames => run frames (.afterItem (o :: before)) ts
  | .member before key :: frames => run frames (.afterMember ((key, o) :: before)) ts

theorem run_of_deliver {frames frames' : List Frame} {due : Due} {t : Token} {o : Outline}
    (h : step frames due t = deliver o frames') (ts : List Token) :
    run frames due (t :: ts) = resume o frames' ts := by
  rw [run, h]
  match frames' with
  | [] => rfl
  | .item _ :: _ => rfl
  | .member _ _ :: _ => rfl

theorem run_of_open {frames frames' : List Frame} {due due' : Due} {t : Token}
    (h : step frames due t = .open frames' due') (ts : List Token) :
    run frames due (t :: ts) = run frames' due' ts := by
  rw [run, h]

/-- An array's first item is read as any other value. -/
theorem run_firstItem {ts : List Token} (h : ts.head? ≠ some .closeBracket) (frames : List Frame) :
    run frames .firstItem ts = run (.item [] :: frames) .value ts := by
  match ts with
  | [] => rfl
  | t :: ts =>
    have hstep : step frames .firstItem t = step (.item [] :: frames) .value t := by
      cases t <;> first | rfl | exact absurd rfl h
    rw [run, run, hstep]
    rfl

/-- Where a value is due, `cs` is read as `o`, whatever is open around it and follows it. -/
def Writes (cs : List Char) (o : Outline) : Prop :=
  ∀ rest, (tokens (cs ++ rest)).head? ≠ some .closeBracket ∧
    ∀ frames, run frames .value (tokens (cs ++ rest)) = resume o frames (tokens rest)

theorem writes_of_token {cs : List Char} {t : Token} {o : Outline}
    (ht : ∀ rest, tokens (cs ++ rest) = t :: tokens rest)
    (ho : ∀ frames, startValue frames t = deliver o frames) : Writes cs o := by
  intro rest
  have hstep : ∀ frames, step frames .value t = deliver o frames := ho
  rw [ht]
  refine ⟨?_, fun frames => run_of_deliver (hstep frames) _⟩
  intro h
  cases t with
  | closeBracket =>
    have h := ho []
    cases h
  | _ => cases h

theorem writes_null : Writes "null".toList .null :=
  writes_of_token (t := .null) (fun _ => tokens_cons rfl rfl) fun _ => rfl

theorem writes_bool (b : Bool) : Writes (Value.bool b).render.toList (.bool b) := by
  cases b with
  | false => exact writes_of_token (t := .bool false) (fun _ => tokens_cons rfl rfl) fun _ => rfl
  | true => exact writes_of_token (t := .bool true) (fun _ => tokens_cons rfl rfl) fun _ => rfl

theorem writes_quote (s : String) : Writes (quote s).toList (.string (some s)) :=
  writes_of_token (tokens_quote s) fun _ => rfl

mutual

/-- What the written form of a value shows. A number shows nothing here. -/
def Value.outline : Value → Outline
  | .null => .null
  | .bool b => .bool b
  | .number _ => .gap
  | .string s => .string (some s)
  | .array items => .array (itemOutlines items) .closed
  | .object members => .object (memberOutlines members) .closed

def itemOutlines : List Value → List Outline
  | [] => []
  | v :: vs => v.outline :: itemOutlines vs

def memberOutlines : List (String × Value) → List (Option String × Outline)
  | [] => []
  | (k, v) :: ms => (some k, v.outline) :: memberOutlines ms

end

/-- The value holds no numbers and is nested at most `depth` deep. -/
inductive Value.Plain : Nat → Value → Prop where
  | null {depth : Nat} : Plain depth .null
  | bool {depth : Nat} (b : Bool) : Plain depth (.bool b)
  | string {depth : Nat} (s : String) : Plain depth (.string s)
  | array {depth : Nat} {items : List Value} (h : ∀ v ∈ items, Plain depth v) :
    Plain (depth + 1) (.array items)
  | object {depth : Nat} {members : List (String × Value)} (h : ∀ m ∈ members, Plain depth m.2) :
    Plain (depth + 1) (.object members)

theorem toList_commaSeparated_cons (t : String) (ts : List String) :
    (commaSeparated (t :: ts)).toList = t.toList ++ ts.flatMap fun u => ',' :: u.toList := by
  induction ts generalizing t with
  | nil => simp [commaSeparated]
  | cons u ts ih =>
    rw [commaSeparated, String.toList_append, String.toList_append, ih, List.flatMap_cons]
    simp

/-- The items after the first, each with the comma before it, and the closing bracket. -/
theorem run_moreItems {vs : List Value} (h : ∀ v ∈ vs, Writes v.render.toList v.outline)
    (frames : List Frame) (before : List Outline) (rest : List Char) :
    run frames (.afterItem before)
        (tokens ((renderItems vs).flatMap (fun u => ',' :: u.toList) ++ ']' :: rest)) =
      resume (.array (before.reverse ++ itemOutlines vs) .closed) frames (tokens rest) := by
  induction vs generalizing before with
  | nil =>
    rw [renderItems, List.flatMap_nil, List.nil_append, tokens_mark rfl rfl, itemOutlines,
      List.append_nil]
    exact run_of_deliver rfl _
  | cons v vs ih =>
    have hv := h v List.mem_cons_self
    have htail := ih (fun u hu => h u (List.mem_cons_of_mem _ hu)) (v.outline :: before)
    rw [List.reverse_cons, List.append_assoc, List.singleton_append] at htail
    rw [renderItems, List.flatMap_cons, List.cons_append, List.cons_append, List.append_assoc,
      tokens_mark rfl rfl, run_of_open rfl, (hv _).2, itemOutlines]
    exact htail

theorem writes_array {vs : List Value} (h : ∀ v ∈ vs, Writes v.render.toList v.outline) :
    Writes (Value.array vs).render.toList (.array (itemOutlines vs) .closed) := by
  intro rest
  have htext : (Value.array vs).render.toList ++ rest =
      '[' :: ((commaSeparated (renderItems vs)).toList ++ ']' :: rest) := by
    simp [Value.render]
  rw [htext, tokens_mark rfl rfl]
  refine ⟨by simp, fun frames => ?_⟩
  rw [run_of_open rfl]
  match vs with
  | [] =>
    have hclose : tokens (']' :: rest) = .closeBracket :: tokens rest := tokens_mark rfl rfl rest
    simpa only [renderItems, commaSeparated, itemOutlines, String.toList_empty, List.nil_append,
      hclose] using run_of_deliver rfl _
  | v :: vs =>
    have hv := h v List.mem_cons_self
    rw [renderItems, toList_commaSeparated_cons, List.append_assoc, run_firstItem (hv _).1,
      (hv _).2, itemOutlines]
    exact run_moreItems (fun u hu => h u (List.mem_cons_of_mem _ hu)) frames [v.outline] rest

/-- A member whose value is written by `cs`. -/
theorem run_member {k : String} {cs rest : List Char} {o : Outline}
    (ho : ∀ frames, run frames .value (tokens (cs ++ rest)) = resume o frames (tokens rest))
    {frames : List Frame} {due : Due} {before : List (Option String × Outline)}
    (hdue : step frames due (.string (some k)) = .open frames (.colon before (some k))) :
    run frames due (tokens ((quote k).toList ++ ':' :: (cs ++ rest))) =
      run frames (.afterMember ((some k, o) :: before)) (tokens rest) := by
  rw [tokens_quote, tokens_mark rfl rfl, run_of_open hdue, run_of_open rfl, ho]
  rfl

theorem toList_member (k : String) (v : Value) (rest : List Char) :
    (quote k ++ ":" ++ v.render).toList ++ rest =
      (quote k).toList ++ ':' :: (v.render.toList ++ rest) := by
  simp

/-- Further members, each with the comma before it. -/
theorem run_moreMembers {ms : List (String × Value)}
    (h : ∀ m ∈ ms, Writes m.2.render.toList m.2.outline) (frames : List Frame)
    (before : List (Option String × Outline)) (rest : List Char) :
    run frames (.afterMember before)
        (tokens ((renderMembers ms).flatMap (fun u => ',' :: u.toList) ++ rest)) =
      run frames (.afterMember ((memberOutlines ms).reverse ++ before)) (tokens rest) := by
  induction ms generalizing before with
  | nil => rfl
  | cons m ms ih =>
    obtain ⟨k, v⟩ := m
    have hv : Writes v.render.toList v.outline := h (k, v) List.mem_cons_self
    have htail := ih (fun m hm => h m (List.mem_cons_of_mem _ hm)) ((some k, v.outline) :: before)
    rw [renderMembers, List.flatMap_cons, List.cons_append, List.cons_append, List.append_assoc,
      tokens_mark rfl rfl, run_of_open rfl, toList_member, run_member (hv _).2 rfl, htail,
      memberOutlines, List.reverse_cons, List.append_assoc, List.singleton_append]

theorem writes_object {ms : List (String × Value)}
    (h : ∀ m ∈ ms, Writes m.2.render.toList m.2.outline) :
    Writes (Value.object ms).render.toList (.object (memberOutlines ms) .closed) := by
  intro rest
  have htext : (Value.object ms).render.toList ++ rest =
      '\x7b' :: ((commaSeparated (renderMembers ms)).toList ++ '\x7d' :: rest) := by
    simp [Value.render]
  rw [htext, tokens_mark rfl rfl]
  refine ⟨by simp, fun frames => ?_⟩
  rw [run_of_open rfl]
  have hclose : tokens ('\x7d' :: rest) = .closeBrace :: tokens rest := tokens_mark rfl rfl rest
  match ms with
  | [] =>
    simpa only [renderMembers, commaSeparated, memberOutlines, String.toList_empty,
      List.nil_append, hclose] using run_of_deliver rfl _
  | (k, v) :: ms =>
    have hv : Writes v.render.toList v.outline := h (k, v) List.mem_cons_self
    rw [renderMembers, toList_commaSeparated_cons, List.append_assoc, toList_member,
      run_member (hv _).2 rfl, run_moreMembers (fun m hm => h m (List.mem_cons_of_mem _ hm)),
      hclose, memberOutlines, run_of_deliver rfl]
    simp

theorem Value.Plain.writes {depth : Nat} {v : Value} (h : v.Plain depth) :
    Writes v.render.toList v.outline := by
  induction h with
  | null => exact writes_null
  | bool b => exact writes_bool b
  | string s => exact writes_quote s
  | array _ ih => exact writes_array ih
  | object _ ih => exact writes_object ih

theorem Value.Plain.ofText_render {depth : Nat} {v : Value} (h : v.Plain depth) :
    Outline.ofText v.render = (v.outline, true) := by
  have hread := (h.writes []).2 []
  rw [List.append_nil] at hread
  rw [Outline.ofText, hread]
  simp [resume, tokens]

theorem itemOutlines_eq_map (vs : List Value) : itemOutlines vs = vs.map Value.outline := by
  induction vs with
  | nil => rfl
  | cons v vs ih => rw [itemOutlines, ih, List.map_cons]

theorem memberOutlines_eq_map (ms : List (String × Value)) :
    memberOutlines ms = ms.map fun m => (some m.1, m.2.outline) := by
  induction ms with
  | nil => rfl
  | cons m ms ih => rw [memberOutlines, ih, List.map_cons]

theorem mapM_eq_some_iff {α β : Type} {f : α → Option β} {xs : List α} {ys : List β} :
    xs.mapM f = some ys ↔ List.Forall₂ (fun x y => f x = some y) xs ys := by
  induction xs generalizing ys with
  | nil => cases ys <;> simp
  | cons x xs ih =>
    rw [List.mapM_cons]
    cases hx : f x with
    | none => cases ys <;> simp [hx]
    | some y =>
      cases hxs : xs.mapM f with
      | none => cases ys <;> simp [hx, hxs, ← ih]
      | some ys' => cases ys <;> simp [hx, hxs, ← ih]

theorem mapM_map_of_inverse {α β : Type} {f : β → Option α} {g : α → β} {xs : List α}
    (h : ∀ x ∈ xs, f (g x) = some x) : (xs.map g).mapM f = some xs :=
  mapM_eq_some_iff.2 (List.forall₂_map_left_iff.2 (List.forall₂_same.2 h))

theorem Value.Plain.value?_outline {depth : Nat} {v : Value} (h : v.Plain depth) :
    v.outline.value? depth = some v := by
  induction h with
  | null => simp [Value.outline, Outline.value?]
  | bool b => simp [Value.outline, Outline.value?]
  | string s => simp [Value.outline, Outline.value?]
  | array _ ih =>
    rw [Value.outline, itemOutlines_eq_map, Outline.value?, mapM_map_of_inverse ih,
      Option.map_some]
  | object _ ih =>
    rw [Value.outline, memberOutlines_eq_map, Outline.value?, mapM_map_of_inverse,
      Option.map_some]
    intro m hm
    simp [ih m hm]

theorem Value.Plain.mono {depth depth' : Nat} {v : Value} (h : v.Plain depth)
    (hd : depth ≤ depth') : v.Plain depth' := by
  induction h generalizing depth' with
  | null => exact .null
  | bool b => exact .bool b
  | string s => exact .string s
  | array _ ih =>
    obtain ⟨d, rfl⟩ : ∃ d, depth' = d + 1 := ⟨depth' - 1, by omega⟩
    exact .array fun v hv => ih v hv (by omega)
  | object _ ih =>
    obtain ⟨d, rfl⟩ : ∃ d, depth' = d + 1 := ⟨depth' - 1, by omega⟩
    exact .object fun m hm => ih m hm (by omega)

theorem parse?_render {v : Value} (h : v.Plain depthLimit) : parse? v.render = some v := by
  rw [parse?, h.ofText_render]
  exact h.value?_outline

section Single
variable {o : Outline} {depth : Nat}

theorem value?_eq_null_iff : o.value? depth = some .null ↔ o = .null := by
  cases o with
  | array items ending => cases depth <;> cases ending <;> simp [Outline.value?]
  | object members ending => cases depth <;> cases ending <;> simp [Outline.value?]
  | _ => simp [Outline.value?]

theorem value?_eq_bool_iff {b : Bool} : o.value? depth = some (.bool b) ↔ o = .bool b := by
  cases o with
  | array items ending => cases depth <;> cases ending <;> simp [Outline.value?]
  | object members ending => cases depth <;> cases ending <;> simp [Outline.value?]
  | _ => simp [Outline.value?]

theorem value?_eq_string_iff {s : String} :
    o.value? depth = some (.string s) ↔ o = .string (some s) := by
  cases o with
  | array items ending => cases depth <;> cases ending <;> simp [Outline.value?]
  | object members ending => cases depth <;> cases ending <;> simp [Outline.value?]
  | _ => simp [Outline.value?]

end Single

end RowBinding.Json
