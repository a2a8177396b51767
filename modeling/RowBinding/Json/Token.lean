import RowBinding.Json.Numeral

/-!
# Tokens of a JSON text

A text is cut into tokens from left to right, up to the first place where no token starts. That
place becomes the token `bad`, and nothing after it is looked at.

The content of a string is kept only if its escapes denote characters: an escape may name half
of a surrogate pair, and without the other half next to it the string has no content.
-/
namespace RowBinding.Json

inductive Token where
  | openBracket
  | closeBracket
  | openBrace
  | closeBrace
  | comma
  | colon
  | null
  | bool (b : Bool)
  | number (n : Numeral)
  | string (content : Option String)
  | bad
deriving DecidableEq, Repr

/-- What stands between tokens. -/
def isJsonBlank (c : Char) : Bool := c == ' ' || c == '\n' || c == '\t' || c == '\r'

/-- An element of a string: a character, or a sixteen-bit unit named by an escape. -/
inductive Element where
  | char (c : Char)
  | unit (n : Nat)
deriving DecidableEq, Repr

def hexValue (c : Char) : Option Nat :=
  if '0' ≤ c && c ≤ '9' then some (c.toNat - 48)
  else if 'a' ≤ c && c ≤ 'f' then some (c.toNat - 87)
  else if 'A' ≤ c && c ≤ 'F' then some (c.toNat - 55)
  else none

def hexUnit (a b c d : Char) : Option Nat := do
  return ((← hexValue a) * 16 + (← hexValue b)) * 256 + ((← hexValue c) * 16 + (← hexValue d))

def shortEscape (c : Char) : Option Char :=
  if c = '"' || c = '\\' || c = '/' then some c
  else if c = 'b' then some (Char.ofNat 8)
  else if c = 'f' then some (Char.ofNat 12)
  else if c = 'n' then some '\n'
  else if c = 'r' then some '\r'
  else if c = 't' then some '\t'
  else none

/-- The elements up to the closing quote, and what follows it. -/
def stringElements : List Char → Option (List Element × List Char)
  | [] => none
  | '"' :: rest => some ([], rest)
  | '\\' :: 'u' :: a :: b :: c :: d :: rest =>
    match hexUnit a b c d, stringElements rest with
    | some n, some (es, after) => some (.unit n :: es, after)
    | _, _ => none
  | '\\' :: e :: rest =>
    match shortEscape e, stringElements rest with
    | some c, some (es, after) => some (.char c :: es, after)
    | _, _ => none
  | c :: rest =>
    if c.toNat < 32 then none
    else
      match stringElements rest with
      | some (es, after) => some (.char c :: es, after)
      | none => none

def isHighSurrogate (n : Nat) : Bool := 0xD800 ≤ n && n ≤ 0xDBFF

def isLowSurrogate (n : Nat) : Bool := 0xDC00 ≤ n && n ≤ 0xDFFF

/-- The characters that elements denote, unless half of a surrogate pair stands alone. -/
def denote : List Element → Option (List Char)
  | [] => some []
  | .char c :: es => (denote es).map (c :: ·)
  | .unit high :: .unit low :: es =>
    if isHighSurrogate high then
      if isLowSurrogate low then
        (denote es).map (Char.ofNat (0x10000 + (high - 0xD800) * 1024 + (low - 0xDC00)) :: ·)
      else none
    else if isLowSurrogate high then none
    else (denote (.unit low :: es)).map (Char.ofNat high :: ·)
  | .unit n :: es =>
    if isHighSurrogate n || isLowSurrogate n then none
    else (denote es).map (Char.ofNat n :: ·)

/-- The digits at the start of a text, and what follows them. -/
def leadingDigits (cs : List Char) : List Nat × List Char :=
  ((cs.takeWhile Char.isDigit).map fun c => c.toNat - 48, cs.dropWhile Char.isDigit)

/-- The digits before the point: a single zero, or digits that do not start with one. -/
def wholePart (cs : List Char) : Option (List Nat × List Char) :=
  match leadingDigits cs with
  | ([], _) => none
  | (0 :: _ :: _, _) => none
  | found => some found

/-- The point and the digits after it, if there is a point. -/
def fractionPart : List Char → Option (List Nat × List Char)
  | '.' :: cs =>
    match leadingDigits cs with
    | ([], _) => none
    | found => some found
  | cs => some ([], cs)

def digitsValue (ds : List Nat) : Nat := ds.foldl (fun n d => n * 10 + d) 0

/-- The digits of an exponent with their sign. -/
def exponentDigits (negative : Bool) (cs : List Char) : Option (Option Int × List Char) :=
  match leadingDigits cs with
  | ([], _) => none
  | (ds, rest) => some (some (if negative then -(digitsValue ds) else digitsValue ds), rest)

def exponentPart : List Char → Option (Option Int × List Char)
  | [] => some (none, [])
  | c :: cs =>
    if c = 'e' || c = 'E' then
      match cs with
      | '+' :: ds => exponentDigits false ds
      | '-' :: ds => exponentDigits true ds
      | ds => exponentDigits false ds
    else some (none, c :: cs)

/-- The numeral after its sign, and what follows it. -/
def numeralAfterSign (negative : Bool) (cs : List Char) : Option (Numeral × List Char) :=
  match wholePart cs with
  | none => none
  | some (whole, cs) =>
    match fractionPart cs with
    | none => none
    | some (fraction, cs) =>
      match exponentPart cs with
      | none => none
      | some (exponent, rest) => some (⟨negative, whole, fraction, exponent⟩, rest)

/-- What follows `word` at the start of a text. -/
def after? : List Char → List Char → Option (List Char)
  | [], cs => some cs
  | _ :: _, [] => none
  | w :: ws, c :: cs => if w = c then after? ws cs else none

def markToken (c : Char) : Option Token :=
  if c = '[' then some .openBracket
  else if c = ']' then some .closeBracket
  else if c = '\x7b' then some .openBrace
  else if c = '\x7d' then some .closeBrace
  else if c = ',' then some .comma
  else if c = ':' then some .colon
  else none

/-- The token that a word stands for, after the first letter of the word. -/
def wordToken (word : List Char) (t : Token) (cs : List Char) : Option (Token × List Char) :=
  (after? word cs).map fun rest => (t, rest)

def stringToken (cs : List Char) : Option (Token × List Char) :=
  (stringElements cs).map fun (es, rest) => (.string ((denote es).map String.ofList), rest)

def numberToken (negative : Bool) (cs : List Char) : Option (Token × List Char) :=
  (numeralAfterSign negative cs).map fun (n, rest) => (.number n, rest)

/-- The token that starts with `c`, and what follows it. -/
def nextToken (c : Char) (cs : List Char) : Option (Token × List Char) :=
  match markToken c with
  | some t => some (t, cs)
  | none =>
    if c = '"' then stringToken cs
    else if c = 'n' then wordToken ['u', 'l', 'l'] .null cs
    else if c = 't' then wordToken ['r', 'u', 'e'] (.bool true) cs
    else if c = 'f' then wordToken ['a', 'l', 's', 'e'] (.bool false) cs
    else if c = '-' then numberToken true cs
    else numberToken false (c :: cs)

theorem stringElements_length {cs rest : List Char} {es : List Element}
    (h : stringElements cs = some (es, rest)) : rest.length < cs.length := by
  fun_induction stringElements cs generalizing es rest with
  | case1 => cases h
  | case2 r => cases h; simp
  | case3 a b c d r n es' after hr hn ih =>
    cases h
    have := ih hr
    simp only [List.length_cons]
    omega
  | case4 => cases h
  | case5 e r _ c es' after hr hc ih =>
    cases h
    have := ih hr
    simp only [List.length_cons]
    omega
  | case6 => cases h
  | case7 => cases h
  | case8 c r _ _ _ hc es' after hr ih =>
    cases h
    have := ih hr
    simp only [List.length_cons]
    omega
  | case9 => cases h

theorem leadingDigits_length (cs : List Char) :
    (leadingDigits cs).1.length + (leadingDigits cs).2.length = cs.length := by
  simp only [leadingDigits, List.length_map, ← List.length_append,
    List.takeWhile_append_dropWhile]

theorem wholePart_length {cs rest : List Char} {ds : List Nat}
    (h : wholePart cs = some (ds, rest)) : rest.length < cs.length := by
  have hl := leadingDigits_length cs
  unfold wholePart at h
  split at h
  · cases h
  · cases h
  · next hne _ =>
    have he : leadingDigits cs = (ds, rest) := Option.some.inj h
    have hd : ds ≠ [] := fun hd => hne rest (by rw [he, hd])
    have := List.length_pos_iff.2 hd
    rw [he] at hl
    simp only at hl
    omega

theorem fractionPart_length {cs rest : List Char} {ds : List Nat}
    (h : fractionPart cs = some (ds, rest)) : rest.length ≤ cs.length := by
  unfold fractionPart at h
  split at h
  · next cs =>
    have hl := leadingDigits_length cs
    split at h
    · cases h
    · have he : leadingDigits cs = (ds, rest) := Option.some.inj h
      rw [he] at hl
      simp only [List.length_cons] at hl ⊢
      omega
  · cases h
    exact Nat.le_refl _

theorem exponentDigits_length {negative : Bool} {cs rest : List Char} {e : Option Int}
    (h : exponentDigits negative cs = some (e, rest)) : rest.length ≤ cs.length := by
  have hl := leadingDigits_length cs
  unfold exponentDigits at h
  split at h
  · cases h
  · next he =>
    cases h
    rw [he] at hl
    simp only at hl
    omega

theorem exponentPart_length {cs rest : List Char} {e : Option Int}
    (h : exponentPart cs = some (e, rest)) : rest.length ≤ cs.length := by
  unfold exponentPart at h
  split at h
  · cases h
    exact Nat.le_refl _
  · split at h
    · split at h
      all_goals
        have := exponentDigits_length h
        simp only [List.length_cons] at this ⊢
        omega
    · cases h
      exact Nat.le_refl _

theorem numeralAfterSign_length {negative : Bool} {cs rest : List Char} {n : Numeral}
    (h : numeralAfterSign negative cs = some (n, rest)) : rest.length < cs.length := by
  unfold numeralAfterSign at h
  split at h
  · cases h
  · next hw =>
    split at h
    · cases h
    · next hf =>
      split at h
      · cases h
      · next he =>
        cases h
        have := wholePart_length hw
        have := fractionPart_length hf
        have := exponentPart_length he
        omega

theorem after?_length {word cs rest : List Char} (h : after? word cs = some rest) :
    rest.length ≤ cs.length := by
  fun_induction after? word cs with
  | case1 cs =>
    cases h
    exact Nat.le_refl _
  | case2 => cases h
  | case3 _ _ _ ih =>
    have := ih h
    simp only [List.length_cons]
    omega
  | case4 => cases h

theorem wordToken_length {word cs rest : List Char} {t u : Token}
    (h : wordToken word t cs = some (u, rest)) : rest.length ≤ cs.length := by
  obtain ⟨r, hr, he⟩ := Option.map_eq_some_iff.1 h
  cases he
  exact after?_length hr

theorem stringToken_length {cs rest : List Char} {t : Token}
    (h : stringToken cs = some (t, rest)) : rest.length ≤ cs.length := by
  obtain ⟨p, hp, he⟩ := Option.map_eq_some_iff.1 h
  cases he
  exact Nat.le_of_lt (stringElements_length hp)

theorem numberToken_length {negative : Bool} {cs rest : List Char} {t : Token}
    (h : numberToken negative cs = some (t, rest)) : rest.length < cs.length := by
  obtain ⟨p, hp, he⟩ := Option.map_eq_some_iff.1 h
  cases he
  exact numeralAfterSign_length hp

/-- What follows a token is no longer than what followed its first character. -/
theorem nextToken_length {c : Char} {cs rest : List Char} {t : Token}
    (h : nextToken c cs = some (t, rest)) : rest.length ≤ cs.length := by
  unfold nextToken at h
  split at h
  · cases h
    exact Nat.le_refl _
  · split at h
    · exact stringToken_length h
    iterate 3
      split at h
      · exact wordToken_length h
    split at h
    · exact Nat.le_of_lt (numberToken_length h)
    · exact Nat.le_of_lt_succ (numberToken_length h)

/-- The tokens of a text, up to the first place where none starts. -/
def tokens : List Char → List Token
  | [] => []
  | c :: cs =>
    if isJsonBlank c then tokens cs
    else
      match h : nextToken c cs with
      | none => [.bad]
      | some (t, rest) =>
        have := nextToken_length h
        t :: tokens rest
termination_by cs => cs.length

end RowBinding.Json
