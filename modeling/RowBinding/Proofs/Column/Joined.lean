import RowBinding.Proofs.Column.Words

/-!
# Joined words

What is read as a word has one of two shapes, whatever stands around it: capitals alone, or
characters that are not capitals with at most one capital before them. Words of these shapes are
read back when they are joined with underscores, and lists of other words are not, so joining is
undone for exactly the lists of well-shaped words.

Words joined with another separator are told apart by its first character, if none of them has it:
wherever it is met, a whole separator stands and then the next word.
-/
namespace RowBinding.Column
open Letter

/-- The shapes of words, none with an underscore: capitals alone, and other characters that one
capital may begin. -/
def WellShaped (w : List Char) : Prop :=
  '_' ∉ w ∧
    ((w ≠ [] ∧ ∀ c ∈ w, isUppercase c = true) ∨
      ∃ (first : Option Char) (rest : List Char), w = first.toList ++ rest ∧
        (∀ c ∈ first, isUppercase c = true) ∧ rest ≠ [] ∧ ∀ c ∈ rest, isUppercase c = false)

theorem IsWord.wellShaped {capital : Bool} {w : List Char} (h : IsWord capital w) :
    WellShaped w := by
  cases h with
  | capitals hne hw =>
    exact ⟨fun hmem => ne_underscore_of_isUppercase (hw _ hmem) rfl, .inl ⟨hne, hw⟩⟩
  | @small c w hunderscore hw hne =>
    refine ⟨hunderscore, .inr ?_⟩
    cases hc : isUppercase c with
    | true => exact ⟨some c, w, rfl, by simpa using hc, hne hc, hw⟩
    | false => exact ⟨none, c :: w, rfl, by simp, by simp, List.forall_mem_cons.2 ⟨hc, hw⟩⟩

theorem WellShaped.exists_isWord {w : List Char} (h : WellShaped w) :
    ∃ capital, IsWord capital w := by
  obtain ⟨hunderscore, ⟨hne, hw⟩ | ⟨first, rest, rfl, hfirst, hne, hrest⟩⟩ := h
  · exact ⟨true, .capitals hne hw⟩
  · refine ⟨false, ?_⟩
    cases first with
    | some c => exact .small hunderscore hrest fun _ => hne
    | none =>
      obtain ⟨c, rest, rfl⟩ := List.exists_cons_of_ne_nil hne
      obtain ⟨hc, hrest⟩ := List.forall_mem_cons.1 hrest
      exact .small hunderscore hrest fun hupper => absurd hupper (by simp [hc])

theorem wellShaped_iff_tail {w : List Char} : WellShaped w ↔ '_' ∉ w ∧ w ≠ [] ∧
    ((∀ c ∈ w, isUppercase c = true) ∨ ∀ c ∈ w.tail, isUppercase c = false) := by
  refine and_congr_right fun _ => ?_
  constructor
  · rintro (⟨hne, hw⟩ | ⟨first, rest, rfl, -, hne, hrest⟩)
    · exact ⟨hne, .inl hw⟩
    · cases first with
      | none => exact ⟨hne, .inr fun c hc => hrest c (List.mem_of_mem_tail hc)⟩
      | some c => exact ⟨List.cons_ne_nil c rest, .inr hrest⟩
  · rintro ⟨hne, hw | hw⟩
    · exact .inl ⟨hne, hw⟩
    · obtain ⟨c, rest, rfl⟩ := List.exists_cons_of_ne_nil hne
      have hrest : ∀ d ∈ rest, isUppercase d = false := hw
      cases hc : isUppercase c with
      | false => exact .inr ⟨none, c :: rest, rfl, by simp, hne, List.forall_mem_cons.2 ⟨hc, hrest⟩⟩
      | true =>
        by_cases hnil : rest = []
        · exact .inl ⟨hne, by simpa [hnil] using hc⟩
        · exact .inr ⟨some c, rest, rfl, by simpa using hc, hnil, hrest⟩

theorem IsWord.dropLast {w : List Char} (h : IsWord true w) (hlength : 1 < w.length) :
    IsWord true w.dropLast := by
  cases h with
  | capitals _ hw =>
    have hne : w.dropLast ≠ [] := by
      rw [← List.length_pos_iff, List.length_dropLast]
      omega
    exact .capitals hne fun c hc => hw c (w.dropLast_subset hc)

namespace WordReader
variable {r : WordReader} {w : List Char}

theorem wellShaped_of_mem_flush (h : r.Valid) (hw : w ∈ r.flush) :
    w ∈ r.complete ∨ WellShaped w := by
  unfold flush at hw
  split at hw
  case isTrue => exact .inl hw
  case isFalse hne =>
    rcases List.mem_append.1 hw with hw | hw
    · exact .inl hw
    · rw [List.mem_singleton] at hw
      subst hw
      unfold Valid at h
      split at h
      · exact absurd h (by simpa using hne)
      · exact .inr h.wellShaped

/-- A word that a character completes is well shaped: it is the word that was being read, or all of
a run of capitals but the last. -/
theorem wellShaped_of_mem_read (h : r.Valid) (c : Char) (hw : w ∈ (r.read c).complete) :
    w ∈ r.complete ∨ WellShaped w := by
  unfold read at hw
  split at hw
  · exact wellShaped_of_mem_flush h hw
  · split at hw
    · next hafter _ =>
      split at hw
      · next hlength =>
        have hrun : Valid { r with word := r.word.dropLast } := by
          simp only [Valid, hafter] at h ⊢
          exact h.dropLast hlength
        exact wellShaped_of_mem_flush (r := { r with word := r.word.dropLast }) hrun hw
      · exact .inl hw
    · exact wellShaped_of_mem_flush h hw
    · exact .inl hw

theorem wellShaped_of_mem_flush_foldl (h : r.Valid) (rest : List Char)
    (hw : w ∈ (rest.foldl read r).flush) : w ∈ r.complete ∨ WellShaped w := by
  induction rest generalizing r with
  | nil => exact wellShaped_of_mem_flush h hw
  | cons c rest ih =>
    rcases ih (read_spec h c).1 hw with hw | hw
    · exact wellShaped_of_mem_read h c hw
    · exact .inr hw

end WordReader

theorem wellShaped_of_mem_words {cs w : List Char} (h : w ∈ words cs) : WellShaped w :=
  (WordReader.wellShaped_of_mem_flush_foldl (r := {}) rfl cs h).resolve_left (by simp)

theorem ne_nil_of_mem_words {cs w : List Char} (h : w ∈ words cs) : w ≠ [] := by
  rw [words_eq_segments] at h
  exact ne_nil_of_mem_segments h

theorem words_of_wellShaped {w : List Char} (h : WellShaped w) : words w = [w] := by
  obtain ⟨_, h⟩ := h.exists_isWord
  rw [words_eq_segments, h.segments_eq]

/-- A text is well shaped if it is its own only word. -/
theorem wellShaped_iff_words_eq {w : List Char} : WellShaped w ↔ words w = [w] :=
  ⟨words_of_wellShaped, fun h => wellShaped_of_mem_words (h.symm ▸ List.mem_singleton_self w)⟩

instance : DecidablePred WellShaped := fun _ => decidable_of_iff _ wellShaped_iff_words_eq.symm

theorem words_append_underscore (l r : List Char) :
    words (l ++ '_' :: r) = words l ++ words r := by
  simp only [words_eq_segments, segments_append_underscore]

theorem words_join {ws : List (List Char)} (h : ∀ w ∈ ws, WellShaped w) :
    words (['_'].intercalate ws) = ws := by
  induction ws with
  | nil => rfl
  | cons w ws ih =>
    obtain ⟨hw, hws⟩ := List.forall_mem_cons.1 h
    cases ws with
    | nil => rw [List.intercalate_singleton, words_of_wellShaped hw]
    | cons v vs =>
      rw [List.intercalate_cons_cons, List.append_assoc, List.singleton_append,
        words_append_underscore, words_of_wellShaped hw, ih hws, List.singleton_append]

theorem words_join_iff {ws : List (List Char)} :
    words (['_'].intercalate ws) = ws ↔ ∀ w ∈ ws, WellShaped w := by
  constructor
  · intro h w hw
    rw [← h] at hw
    exact wellShaped_of_mem_words hw
  · exact words_join

theorem splitWords_join {ws : List String} (h : ∀ w ∈ ws, WellShaped w.toList) :
    splitWords ("_".intercalate ws) = ws := by
  have hchars : ∀ w ∈ ws.map String.toList, WellShaped w := by simpa using h
  have hread : words ("_".intercalate ws).toList = ws.map String.toList := by
    rw [String.toList_intercalate]
    exact words_join hchars
  rw [splitWords, hread, List.map_map]
  simp

theorem wellShaped_of_mem_splitWords {identifier w : String} (h : w ∈ splitWords identifier) :
    WellShaped w.toList := by
  obtain ⟨cs, hcs, rfl⟩ := List.mem_map.1 h
  rw [String.toList_ofList]
  exact wellShaped_of_mem_words hcs

/-- Joining words with underscores is undone by splitting exactly if all of them are well shaped.
What an identifier is split into is well shaped, so splitting its joined words again, or one of
them, changes nothing. -/
theorem splitWords_inverts_join :
    (∀ ws : List String,
      splitWords ("_".intercalate ws) = ws ↔ ∀ w ∈ ws, WellShaped w.toList) ∧
    ∀ identifier : String,
      (∀ w ∈ splitWords identifier, WellShaped w.toList) ∧
      splitWords ("_".intercalate (splitWords identifier)) = splitWords identifier ∧
      ∀ w ∈ splitWords identifier, splitWords w = [w] := by
  refine ⟨fun ws => ⟨fun h w hw => ?_, splitWords_join⟩, fun identifier => ?_⟩
  · rw [← h] at hw
    exact wellShaped_of_mem_splitWords hw
  · have hshaped : ∀ w ∈ splitWords identifier, WellShaped w.toList :=
      fun _ => wellShaped_of_mem_splitWords
    refine ⟨hshaped, splitWords_join hshaped, fun w hw => ?_⟩
    have hone : splitWords ("_".intercalate [w]) = [w] :=
      splitWords_join (by simpa using hshaped w hw)
    rwa [String.intercalate_singleton] at hone

/-- A run of capitals, a capital before small letters, and digits, which count as small. -/
theorem splitWords_inverts_join_of_mixed :
    (∀ w ∈ ["URL", "Value", "2nd"], WellShaped w.toList) ∧
      splitWords "URL_Value_2nd" = ["URL", "Value", "2nd"] ∧
      "Value" ∈ splitWords "URLValue_2nd" ∧ splitWords "Value" = ["Value"] := by
  have hshaped : ∀ w ∈ ["URL", "Value", "2nd"], WellShaped w.toList := by decide
  have hmem : "Value" ∈ splitWords "URLValue_2nd" := by decide
  exact ⟨hshaped, (splitWords_inverts_join.1 ["URL", "Value", "2nd"]).2 hshaped, hmem,
    (splitWords_inverts_join.2 "URLValue_2nd").2.2 "Value" hmem⟩

theorem intercalate_cons_eq_flatMap (s w : List Char) (ws : List (List Char)) :
    s.intercalate (w :: ws) = w ++ ws.flatMap (s ++ ·) := by
  induction ws generalizing w with
  | nil => simp
  | cons v ws ih =>
    rw [List.intercalate_cons_cons, ih, List.flatMap_cons, List.append_assoc, List.append_assoc]

theorem intercalate_eq_nil_iff {s : List Char} {ws : List (List Char)} (h : ∀ w ∈ ws, w ≠ []) :
    s.intercalate ws = [] ↔ ws = [] := by
  cases ws with
  | nil => simp
  | cons w ws => simp [intercalate_cons_eq_flatMap, h w]

/-- Where two texts go on with the character `c` or end, they are cut at the same place if neither
has that character before. -/
theorem eq_of_append_eq_of_not_mem {c : Char} {u v l r : List Char} (hu : c ∉ u) (hv : c ∉ v)
    (hl : ∀ d ∈ l.head?, d = c) (hr : ∀ d ∈ r.head?, d = c) (h : u ++ l = v ++ r) :
    u = v ∧ l = r := by
  induction u generalizing v with
  | nil =>
    cases v with
    | nil => exact ⟨rfl, h⟩
    | cons d v =>
      have hrest : l = d :: (v ++ r) := h
      have hd : d = c := hl d (by rw [hrest]; rfl)
      exact absurd hd.symm (List.ne_of_not_mem_cons hv)
  | cons e u ih =>
    cases v with
    | nil =>
      have hrest : r = e :: (u ++ l) := h.symm
      have he : e = c := hr e (by rw [hrest]; rfl)
      exact absurd he.symm (List.ne_of_not_mem_cons hu)
    | cons d v =>
      obtain ⟨rfl, htail⟩ := List.cons.inj h
      obtain ⟨rfl, hrest⟩ :=
        ih (List.not_mem_of_not_mem_cons hu) (List.not_mem_of_not_mem_cons hv) htail
      exact ⟨rfl, hrest⟩

section Separator
variable {c : Char} {s : List Char} {us vs : List (List Char)}

theorem head?_flatMap_separator (us : List (List Char)) :
    ∀ d ∈ (us.flatMap ((c :: s) ++ ·)).head?, d = c := by
  cases us <;> simp

theorem flatMap_separator_inj (hus : ∀ u ∈ us, c ∉ u) (hvs : ∀ v ∈ vs, c ∉ v)
    (h : us.flatMap ((c :: s) ++ ·) = vs.flatMap ((c :: s) ++ ·)) : us = vs := by
  induction us generalizing vs with
  | nil =>
    cases vs with
    | nil => rfl
    | cons v vs => simp at h
  | cons u us ih =>
    cases vs with
    | nil => simp at h
    | cons v vs =>
      obtain ⟨hu, hus⟩ := List.forall_mem_cons.1 hus
      obtain ⟨hv, htail⟩ := List.forall_mem_cons.1 hvs
      rw [List.flatMap_cons, List.flatMap_cons, List.append_assoc, List.append_assoc] at h
      obtain ⟨heq, hrest⟩ := eq_of_append_eq_of_not_mem hu hv (head?_flatMap_separator us)
        (head?_flatMap_separator vs) (List.append_cancel_left h)
      rw [heq, ih hus htail hrest]

/-- Joining is undone by the first character of the separator, if no word has it. -/
theorem intercalate_inj (hus : ∀ u ∈ us, c ∉ u) (hvs : ∀ v ∈ vs, c ∉ v)
    (hune : ∀ u ∈ us, u ≠ []) (hvne : ∀ v ∈ vs, v ≠ [])
    (h : (c :: s).intercalate us = (c :: s).intercalate vs) : us = vs := by
  cases us with
  | nil =>
    rw [List.intercalate_nil, eq_comm, intercalate_eq_nil_iff hvne] at h
    exact h.symm
  | cons u us =>
    cases vs with
    | nil => rwa [List.intercalate_nil, intercalate_eq_nil_iff hune] at h
    | cons v vs =>
      obtain ⟨hu, hus⟩ := List.forall_mem_cons.1 hus
      obtain ⟨hv, hvs⟩ := List.forall_mem_cons.1 hvs
      rw [intercalate_cons_eq_flatMap, intercalate_cons_eq_flatMap] at h
      obtain ⟨heq, hrest⟩ := eq_of_append_eq_of_not_mem hu hv (head?_flatMap_separator us)
        (head?_flatMap_separator vs) h
      rw [heq, flatMap_separator_inj hus hvs hrest]

end Separator

end RowBinding.Column
