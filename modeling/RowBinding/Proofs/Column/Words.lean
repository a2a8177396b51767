import RowBinding.Column.Words
import RowBinding.Proofs.Column.Segments

/-!
# Words of an identifier

Reading an identifier once gives its segments: whatever has been read, the segments are the
complete words and then the segments of the word that is being read and of the rest. What carries
this is the shape of the word: after a capital it is a run of capitals, and after another character
it has no capital but perhaps its first.

The words then hold the characters of the identifier but its underscores, in order, and it can be
said of every two characters whether they are in one word.
-/
namespace RowBinding.Column
open Letter

namespace WordReader

/-- Between two characters there is a word that is being read, unless an underscore or the start
comes before. -/
def Valid (r : WordReader) : Prop :=
  match r.afterCapital with
  | none => r.word = []
  | some capital => IsWord capital r.word

variable {r : WordReader}

theorem flush_eq (h : r.Valid) : r.flush = r.complete ++ segments r.word := by
  obtain ⟨complete, word, _ | capital⟩ := r
  · cases h
    simp [flush, segments]
  · have hword : IsWord capital word := h
    simp [flush, hword.ne_nil, hword.segments_eq]

/-- What one character does: the word that is being read keeps its shape, and what is complete and
what is still to be cut have the same segments together. -/
theorem read_spec (h : r.Valid) (c : Char) :
    (r.read c).Valid ∧ ∀ rest, (r.read c).complete ++ segments ((r.read c).word ++ rest) =
      r.complete ++ segments (r.word ++ c :: rest) := by
  by_cases hc : c = '_'
  · subst hc
    have hread : r.read '_' = { complete := r.flush } := if_pos rfl
    rw [hread]
    refine ⟨rfl, fun rest => ?_⟩
    rw [flush_eq h, segments_append_underscore, List.append_assoc]
    rfl
  obtain ⟨complete, word, after⟩ := r
  have hgoes : ∀ capital, IsWord capital (word ++ [c]) →
      Valid { complete, word := word ++ [c], afterCapital := some capital } ∧
        ∀ rest, complete ++ segments (word ++ [c] ++ rest) =
          complete ++ segments (word ++ c :: rest) :=
    fun capital hword => ⟨hword, fun rest => by rw [List.append_cons word c rest]⟩
  cases after with
  | none =>
    have hempty : word = [] := h
    subst hempty
    rw [read, if_neg hc]
    exact hgoes _ (isWord_singleton hc)
  | some capital =>
    have hword : IsWord capital word := h
    cases hupper : isUppercase c <;> cases capital
    case false.false =>
      simp only [read, if_neg hc, hupper]
      exact hgoes _ (hword.snoc_small hc hupper)
    case true.true =>
      simp only [read, if_neg hc, hupper]
      exact hgoes _ (hword.snoc_capital hupper)
    case true.false =>
      simp only [read, if_neg hc, hupper]
      refine ⟨hupper ▸ isWord_singleton hc, fun rest => ?_⟩
      rw [hword.segments_append_capital hupper, flush_eq h, List.append_assoc]
      rfl
    case false.true =>
      simp only [read, if_neg hc, hupper]
      obtain ⟨v, u, rfl⟩ : ∃ v u, word = v ++ [u] :=
        ⟨_, _, (List.dropLast_append_getLast hword.ne_nil).symm⟩
      have hrun : ∀ d ∈ v ++ [u], isUppercase d = true := by
        cases hword with
        | capitals _ hrun => exact hrun
      have hu := hrun u (by simp)
      cases v with
      | nil => exact hgoes _ (isWord_capital_small hu hc hupper)
      | cons a v =>
        have hv : IsWord true (a :: v) :=
          .capitals (by simp) fun d hd => hrun d (List.mem_append_left [u] hd)
        have hlength : 1 < (a :: v ++ [u]).length := by simp
        rw [if_pos hlength, List.dropLast_concat, List.getLast?_concat]
        refine ⟨isWord_capital_small hu hc hupper, fun rest => ?_⟩
        calc complete ++ [a :: v] ++ segments (u :: c :: rest)
            = complete ++ (segments (a :: v) ++ segments (u :: c :: rest)) := by
              rw [hv.segments_eq, List.append_assoc]
          _ = complete ++ segments (a :: v ++ [u] ++ c :: rest) := by
              rw [← segments_append_last_capital hu hc hupper, List.append_cons (a :: v)]

/-- Reading keeps the segments of what has been read and of the rest. -/
theorem flush_foldl_read (h : r.Valid) (rest : List Char) :
    (rest.foldl read r).flush = r.complete ++ segments (r.word ++ rest) := by
  induction rest generalizing r with
  | nil => rw [List.append_nil, List.foldl_nil, flush_eq h]
  | cons c rest ih =>
    obtain ⟨hvalid, hsegments⟩ := read_spec h c
    rw [List.foldl_cons, ih hvalid, hsegments]

end WordReader

theorem words_eq_segments (cs : List Char) : words cs = segments cs :=
  WordReader.flush_foldl_read (r := {}) rfl cs

/-- The words of an identifier with their characters. -/
def wordChars (identifier : String) : List (List Char) :=
  (splitWords identifier).map String.toList

theorem wordChars_eq (identifier : String) : wordChars identifier = words identifier.toList := by
  simp [wordChars, splitWords]

theorem flatten_words (cs : List Char) : (words cs).flatten = cs.filter (· ≠ '_') := by
  rw [words_eq_segments, flatten_segments]

/-- How many characters there are but underscores. After a text this is the place of the next
character in the words. -/
def letters (cs : List Char) : Nat := cs.countP (· ≠ '_')

/-- The number of the word that has the character at a place, when the words are written one after
the other. -/
def wordAt : List (List Char) → Nat → Option Nat
  | [], _ => none
  | w :: ws, place =>
    if place < w.length then some 0 else (wordAt ws (place - w.length)).map (· + 1)

@[simp] theorem letters_append (l r : List Char) : letters (l ++ r) = letters l + letters r :=
  List.countP_append

theorem letters_cons {a : Char} (ha : a ≠ '_') (cs : List Char) :
    letters (a :: cs) = letters cs + 1 :=
  List.countP_cons_of_pos (by simpa using ha)

theorem length_filter_eq_letters (cs : List Char) :
    (cs.filter (· ≠ '_')).length = letters cs :=
  List.countP_eq_length_filter.symm

theorem length_flatten_segments (cs : List Char) : (segments cs).flatten.length = letters cs := by
  rw [flatten_segments, length_filter_eq_letters]

variable {us : List (List Char)} {place other : Nat}

theorem wordAt_append_of_lt (h : place < us.flatten.length) (vs : List (List Char)) :
    ∃ k < us.length, wordAt (us ++ vs) place = some k := by
  induction us generalizing place with
  | nil => simp at h
  | cons w us ih =>
    rw [List.cons_append, wordAt]
    split
    case isTrue => exact ⟨0, by simp, rfl⟩
    case isFalse hw =>
      rw [List.flatten_cons, List.length_append] at h
      have hrest : place - w.length < us.flatten.length := by omega
      obtain ⟨k, hk, hwordAt⟩ := ih hrest
      exact ⟨k + 1, by simpa using hk, by rw [hwordAt]; rfl⟩

theorem wordAt_append_of_le (h : us.flatten.length ≤ place) (vs : List (List Char)) :
    wordAt (us ++ vs) place = (wordAt vs (place - us.flatten.length)).map (us.length + ·) := by
  induction us generalizing place with
  | nil => simp
  | cons w us ih =>
    rw [List.flatten_cons, List.length_append] at h
    rw [List.cons_append, wordAt, if_neg (by omega), ih (by omega), List.flatten_cons,
      List.length_append, Nat.sub_sub, Option.map_map]
    congr 1
    funext k
    simp only [Function.comp_apply, List.length_cons]
    omega

theorem wordAt_ne_of_cut (h : place < us.flatten.length) (hother : us.flatten.length ≤ other)
    (vs : List (List Char)) :
    wordAt (us ++ vs) place ≠ wordAt (us ++ vs) other := by
  obtain ⟨k, hk, hplace⟩ := wordAt_append_of_lt h vs
  rw [hplace, wordAt_append_of_le hother]
  intro heq
  obtain ⟨n, -, hn⟩ := Option.map_eq_some_iff.1 heq.symm
  omega

theorem wordAt_of_mid {w : List Char} (h : us.flatten.length ≤ place)
    (hplace : place < us.flatten.length + w.length) (vs : List (List Char)) :
    wordAt (us ++ w :: vs) place = some us.length := by
  rw [wordAt_append_of_le h, wordAt, if_pos (by omega)]
  rfl

/-- Where the text may be cut, a character in front and one behind are in different words. -/
theorem wordAt_words_ne_of_cut {l m n r : List Char} {a : Char} (ha : a ≠ '_')
    (h : segments (l ++ a :: m ++ (n ++ r)) = segments (l ++ a :: m) ++ segments (n ++ r)) :
    wordAt (words (l ++ a :: m ++ (n ++ r))) (letters l) ≠
      wordAt (words (l ++ a :: m ++ (n ++ r))) (letters (l ++ a :: m ++ n)) := by
  rw [words_eq_segments, h]
  apply wordAt_ne_of_cut
  · rw [length_flatten_segments, letters_append, letters_cons ha]
    omega
  · rw [length_flatten_segments, letters_append (l ++ a :: m)]
    omega

theorem wordAt_words_ne_of_underscore {l m r : List Char} {a b : Char} (ha : a ≠ '_')
    (hm : '_' ∈ m) :
    wordAt (words (l ++ a :: m ++ b :: r)) (letters l) ≠
      wordAt (words (l ++ a :: m ++ b :: r)) (letters (l ++ a :: m)) := by
  obtain ⟨m₁, m₂, rfl⟩ := List.append_of_mem hm
  have hcut : segments (l ++ a :: m₁ ++ ('_' :: m₂ ++ b :: r)) =
      segments (l ++ a :: m₁) ++ segments ('_' :: m₂ ++ b :: r) := by
    rw [List.cons_append, segments_append_underscore, segments_underscore]
  simpa [List.append_assoc] using wordAt_words_ne_of_cut ha hcut

theorem wordAt_words_ne_of_ends {l r : List Char} {a b : Char} (ha : a ≠ '_')
    (h : endsBetween a b r.head? = true) :
    wordAt (words (l ++ a :: b :: r)) (letters l) ≠
      wordAt (words (l ++ a :: b :: r)) (letters (l ++ [a])) := by
  have hcut : segments (l ++ [a] ++ ([] ++ b :: r)) =
      segments (l ++ [a]) ++ segments ([] ++ b :: r) := by
    apply segments_append
    intro c hc d hd
    obtain rfl : a = c := by simpa using hc
    obtain rfl : b = d := Option.some.inj hd
    exact .inr h
  simpa [List.append_assoc] using wordAt_words_ne_of_cut ha hcut

theorem wordAt_words_eq_of_goesOn {l r : List Char} {a b : Char} (ha : a ≠ '_')
    (h : endsBetween a b r.head? = false) :
    wordAt (words (l ++ a :: b :: r)) (letters l) =
      wordAt (words (l ++ a :: b :: r)) (letters (l ++ [a])) := by
  obtain ⟨us, u, v, vs, hsegments, hu, hv, hplace⟩ := exists_segments_of_goesOn ha h l
  have hlength : us.flatten.length + u.length = letters (l ++ [a]) := by
    rw [← length_filter_eq_letters, ← hplace, List.length_append]
  have hone : letters (l ++ [a]) = letters l + 1 := by
    rw [letters_append, letters_cons ha]
    rfl
  have := List.length_pos_iff.2 hu
  have := List.length_pos_iff.2 hv
  rw [words_eq_segments, hsegments, wordAt_of_mid (by omega) (by rw [List.length_append]; omega),
    wordAt_of_mid (by omega) (by rw [List.length_append]; omega)]

theorem endsBetween_eq_true_iff {a b : Char} (hb : b ≠ '_') (next : Option Char) :
    endsBetween a b next = true ↔
      (isUppercase a = false ∧ isUppercase b = true) ∨
        (isUppercase a = true ∧ isUppercase b = true ∧
          ∃ c ∈ next, c ≠ '_' ∧ isUppercase c = false) := by
  cases ha : isUppercase a <;> cases hupper : isUppercase b <;> cases next <;>
    simp [endsBetween, hb, ha, hupper]

/-- The words of an identifier are not empty, have no underscore, and are the identifier without
its underscores when they are written one after the other; there each character stands behind as
many as come before it in the identifier. Characters with an underscore between them are in
different words. Neighbours that are no underscores are in different words exactly when the second
is a capital and either the first is not, or it is too and behind the second stands a character
that is neither an underscore nor a capital. -/
theorem splitWords_boundaries (identifier : String) :
    (∀ w ∈ wordChars identifier, w ≠ [] ∧ '_' ∉ w) ∧
    (wordChars identifier).flatten = identifier.toList.filter (· ≠ '_') ∧
    (∀ l a r, identifier.toList = l ++ a :: r → a ≠ '_' →
      (wordChars identifier).flatten[letters l]? = some a) ∧
    (∀ l a m b r, identifier.toList = l ++ a :: m ++ b :: r → a ≠ '_' → b ≠ '_' → '_' ∈ m →
      wordAt (wordChars identifier) (letters l) ≠
        wordAt (wordChars identifier) (letters (l ++ a :: m))) ∧
    (∀ l a b r, identifier.toList = l ++ a :: b :: r → a ≠ '_' → b ≠ '_' →
      (wordAt (wordChars identifier) (letters l) ≠
          wordAt (wordChars identifier) (letters (l ++ [a])) ↔
        (isUppercase a = false ∧ isUppercase b = true) ∨
          (isUppercase a = true ∧ isUppercase b = true ∧
            ∃ c ∈ r.head?, c ≠ '_' ∧ isUppercase c = false))) := by
  have hflatten : (wordChars identifier).flatten = identifier.toList.filter (· ≠ '_') := by
    rw [wordChars_eq, flatten_words]
  refine ⟨fun w hw => ⟨?_, fun hunderscore => ?_⟩, hflatten, ?_, ?_, ?_⟩
  · rw [wordChars_eq, words_eq_segments] at hw
    exact ne_nil_of_mem_segments hw
  · have hkept := List.mem_flatten.2 ⟨w, hw, hunderscore⟩
    rw [hflatten] at hkept
    exact absurd rfl (of_decide_eq_true (List.mem_filter.1 hkept).2)
  · intro l a r htext ha
    rw [hflatten, htext, List.filter_append, List.filter_cons_of_pos (by simpa using ha),
      ← length_filter_eq_letters, List.getElem?_append_right (Nat.le_refl _), Nat.sub_self]
    rfl
  · intro l a m b r htext ha _ hm
    rw [wordChars_eq, htext]
    exact wordAt_words_ne_of_underscore ha hm
  · intro l a b r htext ha hb
    rw [wordChars_eq, htext, ← endsBetween_eq_true_iff hb]
    cases hends : endsBetween a b r.head? with
    | true => exact iff_of_true (wordAt_words_ne_of_ends ha hends) rfl
    | false =>
      exact iff_of_false (not_not_intro (wordAt_words_eq_of_goesOn ha hends)) Bool.false_ne_true

/-- The last capital of a run begins the word of the small letter behind it. -/
theorem splitWords_boundaries_in_capitals :
    splitWords "URLValue_x" = ["URL", "Value", "x"] ∧
      wordAt (wordChars "URLValue_x") (letters "UR".toList) ≠
        wordAt (wordChars "URLValue_x") (letters "URL".toList) :=
  ⟨by decide, ((splitWords_boundaries "URLValue_x").2.2.2.2 "UR".toList 'L' 'V' "alue_x".toList
    (by decide) (by decide) (by decide)).2 (.inr ⟨by decide, by decide, 'a', by decide⟩)⟩

end RowBinding.Column
