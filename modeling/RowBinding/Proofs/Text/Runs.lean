import RowBinding.Text.Pieces

/-!
# Maximal runs of a text

`MaximalRuns p cs ws` says what it is for `ws` to list the maximal runs of characters outside `p`:
every run is nonempty and avoids `p`, and between two runs there is something, all of it in `p`.
A text has exactly one such list, `runs p cs`.

A text that neither starts nor ends in `p` has no empty stretch, so its stretches are its runs.
-/
namespace RowBinding.Text
variable {p : Char → Bool}

theorem pieces_eq_splitOnP (cs : List Char) : pieces p cs = cs.splitOnP p := by
  induction cs with
  | nil => rfl
  | cons c cs ih => rw [pieces, ih, List.splitOnP_cons_eq_if_modifyHead]

/-- No piece holds a character at which the text was cut. -/
theorem eq_false_of_mem_pieces {cs w : List Char} (h : w ∈ pieces p cs) :
    ∀ c ∈ w, p c = false := by
  induction cs generalizing w with
  | nil =>
    rw [pieces, List.mem_singleton] at h
    simp [h]
  | cons d cs ih =>
    rw [pieces] at h
    split at h
    · rcases List.mem_cons.1 h with rfl | h
      · simp
      · exact ih h
    · next hd =>
      obtain ⟨v, vs, hv⟩ := List.exists_cons_of_ne_nil (pieces_ne_nil p cs)
      rw [hv] at h ih
      rcases List.mem_cons.1 h with rfl | h
      · have hvs := ih (w := v) (by simp)
        simpa [hd] using hvs
      · exact ih (List.mem_cons_of_mem v h)

theorem pieces_eq_singleton {w : List Char} (hw : ∀ c ∈ w, p c = false) : pieces p w = [w] := by
  rw [pieces_eq_splitOnP, List.splitOnP_eq_singleton hw]

theorem pieces_append_cons {c : Char} (hc : p c) (a b : List Char) :
    pieces p (a ++ c :: b) = pieces p a ++ pieces p b := by
  simp only [pieces_eq_splitOnP]
  exact List.splitOnP_append_cons a b hc

theorem runs_append_cons {c : Char} (hc : p c) (a b : List Char) :
    runs p (a ++ c :: b) = runs p a ++ runs p b := by
  simp only [runs]
  rw [pieces_append_cons hc, List.filter_append]

@[simp] theorem runs_nil : runs p [] = [] := rfl

theorem runs_cons {c : Char} (hc : p c) (cs : List Char) : runs p (c :: cs) = runs p cs := by
  simpa only [List.nil_append, runs_nil] using runs_append_cons hc [] cs

theorem runs_append_left {g : List Char} (hg : ∀ c ∈ g, p c) (cs : List Char) :
    runs p (g ++ cs) = runs p cs := by
  induction g with
  | nil => rfl
  | cons c g ih =>
    rw [List.cons_append, runs_cons (hg c (by simp))]
    exact ih fun d hd => hg d (by simp [hd])

theorem runs_eq_singleton {w : List Char} (hne : w ≠ []) (hw : ∀ c ∈ w, p c = false) :
    runs p w = [w] := by
  rw [runs, pieces_eq_singleton hw]
  simp [hne]

/-- `ws` lists the maximal runs of characters outside `p` in a text, in order. -/
inductive MaximalRuns (p : Char → Bool) : List Char → List (List Char) → Prop
  | gap {g : List Char} : (∀ c ∈ g, p c) → MaximalRuns p g []
  | run {g w rest : List Char} {ws : List (List Char)} :
      (∀ c ∈ g, p c) → w ≠ [] → (∀ c ∈ w, p c = false) → (∀ c ∈ rest.head?, p c) →
      MaximalRuns p rest ws → MaximalRuns p (g ++ w ++ rest) (w :: ws)

theorem MaximalRuns.runs_eq {cs : List Char} {ws : List (List Char)}
    (h : MaximalRuns p cs ws) : runs p cs = ws := by
  induction h with
  | gap hg => simpa only [List.append_nil, runs_nil] using runs_append_left hg []
  | @run g w rest ws hg hne hw hrest _ ih =>
    rw [List.append_assoc, runs_append_left hg]
    cases rest with
    | nil => rw [List.append_nil, runs_eq_singleton hne hw, ← ih, runs_nil]
    | cons c rest =>
      have hc : p c := hrest c rfl
      rw [runs_append_cons hc, runs_eq_singleton hne hw, ← ih, runs_cons hc]
      rfl

/-- A character in `p` lengthens the gap before the first run. -/
theorem MaximalRuns.cons_gap {c : Char} {cs : List Char} {ws : List (List Char)}
    (h : MaximalRuns p cs ws) (hc : p c) : MaximalRuns p (c :: cs) ws := by
  cases h with
  | gap hg => exact .gap (by simpa [hc] using hg)
  | @run g w rest ws hg hne hw hrest ht =>
    exact .run (g := c :: g) (by simpa [hc] using hg) hne hw hrest ht

/-- Another character starts a run or lengthens the run that it meets. -/
theorem MaximalRuns.cons_run {c : Char} {cs : List Char} {ws : List (List Char)}
    (h : MaximalRuns p cs ws) (hc : p c = false) : ∃ us, MaximalRuns p (c :: cs) us := by
  have fresh (hcs : ∀ d ∈ cs.head?, p d) : MaximalRuns p (c :: cs) ([c] :: ws) :=
    .run (g := []) (w := [c]) (by simp) (by simp) (by simpa using hc) hcs h
  cases h with
  | gap hg => exact ⟨_, fresh fun d hd => hg d (List.mem_of_mem_head? hd)⟩
  | @run g w rest ws hg hne hw hrest ht =>
    cases g with
    | nil =>
      refine ⟨(c :: w) :: ws, .run (g := []) (w := c :: w) (by simp) (by simp) ?_ hrest ht⟩
      simpa [hc] using hw
    | cons d g => exact ⟨_, fresh fun e he => by cases he; exact hg d (by simp)⟩

theorem exists_maximalRuns (cs : List Char) : ∃ ws, MaximalRuns p cs ws := by
  induction cs with
  | nil => exact ⟨[], .gap (by simp)⟩
  | cons c cs ih =>
    obtain ⟨ws, h⟩ := ih
    cases hc : p c with
    | true => exact ⟨ws, h.cons_gap hc⟩
    | false => exact h.cons_run hc

/-- `runs` lists the maximal runs, and nothing else does. -/
theorem maximalRuns_iff {cs : List Char} {ws : List (List Char)} :
    MaximalRuns p cs ws ↔ runs p cs = ws := by
  refine ⟨MaximalRuns.runs_eq, fun hws => ?_⟩
  subst ws
  obtain ⟨us, h⟩ := exists_maximalRuns (p := p) cs
  rwa [h.runs_eq]

theorem stretches_append_gap {g : List Char} (hg : ∀ c ∈ g, p c) (hne : g ≠ []) {cs : List Char}
    (hcs : ∀ c ∈ cs.head?, p c = false) : stretches p (g ++ cs) = [] :: stretches p cs := by
  induction g with
  | nil => exact absurd rfl hne
  | cons c g ih =>
    have hc : p c := hg c (by simp)
    cases g with
    | nil =>
      have hhead : cs.head?.any p = false := by
        cases cs with
        | nil => rfl
        | cons d cs => simpa using hcs d rfl
      simp only [List.cons_append, List.nil_append, stretches, hc, hhead, if_true]
      rfl
    | cons d g =>
      have hd : p d := hg d (by simp)
      rw [List.cons_append, stretches, if_pos hc, List.cons_append, List.head?_cons,
        Option.any_some, if_pos hd]
      exact ih (fun e he => hg e (List.mem_cons_of_mem c he)) (by simp)

theorem stretches_append_run {w : List Char} (hw : ∀ c ∈ w, p c = false) (cs : List Char) :
    stretches p (w ++ cs) = (stretches p cs).modifyHead (w ++ ·) := by
  induction w with
  | nil => cases h : stretches p cs <;> simp [h]
  | cons c w ih =>
    have hc : ¬ p c := by simp [hw c (by simp)]
    rw [List.cons_append, stretches, if_neg hc, ih fun d hd => hw d (List.mem_cons_of_mem c hd),
      List.modifyHead_modifyHead]
    rfl

/-- A text that does not end in `p` has its runs as stretches, after an empty one if it starts
in `p`. -/
theorem MaximalRuns.stretches_eq {cs : List Char} {ws : List (List Char)}
    (h : MaximalRuns p cs ws) (hne : cs ≠ []) (hlast : ∀ c ∈ cs.getLast?, p c = false) :
    stretches p cs = if cs.head?.any p then [] :: ws else ws := by
  induction h with
  | @gap g hg =>
    have hin : p (g.getLast hne) := hg _ (List.getLast_mem hne)
    rw [hlast _ (List.getLast_mem_getLast? hne)] at hin
    exact absurd hin (by simp)
  | @run g w rest ws hg hw₀ hw hrest ht ih =>
    obtain ⟨d, v, rfl⟩ := List.exists_cons_of_ne_nil hw₀
    have hd : p d = false := hw d (by simp)
    have tail : stretches p ((d :: v) ++ rest) = (d :: v) :: ws := by
      rw [stretches_append_run hw]
      cases rest with
      | nil =>
        rw [show ws = [] from ht.runs_eq.symm]
        simp [stretches]
      | cons c r =>
        have hc : p c := hrest c rfl
        have hend : ∀ e ∈ (c :: r).getLast?, p e = false := by
          intro e he
          refine hlast e ?_
          rw [List.getLast?_append]
          simp [Option.mem_def.1 he]
        rw [ih (by simp) hend]
        simp [hc]
    cases g with
    | nil => simpa [hd] using tail
    | cons c g =>
      have hc : p c := hg c (by simp)
      rw [List.append_assoc, stretches_append_gap hg (by simp) (by simp [hd]), tail]
      simp [hc]

theorem stretches_eq_runs {cs : List Char} (hne : cs ≠ [])
    (hhead : ∀ c ∈ cs.head?, p c = false) (hlast : ∀ c ∈ cs.getLast?, p c = false) :
    stretches p cs = runs p cs := by
  rw [(maximalRuns_iff.2 rfl).stretches_eq hne hlast]
  cases cs with
  | nil => exact absurd rfl hne
  | cons c cs => simp [hhead c rfl]

end RowBinding.Text
