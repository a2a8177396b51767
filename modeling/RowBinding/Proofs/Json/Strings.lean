import RowBinding.Json.Token
import RowBinding.Json.Value

/-!
# Reading quoted strings back

Each character of a string is written by characters that are read as one element, and that element
denotes the character again whatever stands next to it. So a string that is written between quotes
is read as itself, and what follows the closing quote is left as it is. Where two texts start with
quoted strings, these are then the same if the texts are.
-/
namespace RowBinding.Json
open Text

/-- The element stands for `c`, whatever elements follow it. -/
def Element.Denotes (e : Element) (c : Char) : Prop :=
  ∀ es, denote (e :: es) = (denote es).map (c :: ·)

/-- Inside a string, `cs` are read as one element, whatever follows them. -/
def ReadAs (cs : List Char) (e : Element) : Prop :=
  ∀ rest, stringElements (cs ++ rest) =
    (stringElements rest).map fun (es, after) => (e :: es, after)

theorem denotes_char (c : Char) : (Element.char c).Denotes c := fun _ => rfl

theorem denotes_unit {n : Nat} (hn : n < 0xD800) : (Element.unit n).Denotes (Char.ofNat n) := by
  intro es
  have hhigh : isHighSurrogate n = false := by
    simp only [isHighSurrogate, Bool.and_eq_false_iff, decide_eq_false_iff_not]
    omega
  have hlow : isLowSurrogate n = false := by
    simp only [isLowSurrogate, Bool.and_eq_false_iff, decide_eq_false_iff_not]
    omega
  match es with
  | [] => simp [denote, hhigh, hlow]
  | .char c :: es => simp [denote, hhigh, hlow]
  | .unit m :: es => simp [denote, hhigh, hlow]

theorem hexValue_hexDigit : ∀ d < 16, hexValue (hexDigit d) = some d := by decide

theorem hexDigits_four (n : Nat) : hexDigits 4 n =
    [hexDigit (n / 16 / 16 / 16 % 16), hexDigit (n / 16 / 16 % 16), hexDigit (n / 16 % 16),
      hexDigit (n % 16)] := rfl

theorem hexUnit_hexDigits {n : Nat} (hn : n < 0x10000) :
    hexUnit (hexDigit (n / 16 / 16 / 16 % 16)) (hexDigit (n / 16 / 16 % 16))
      (hexDigit (n / 16 % 16)) (hexDigit (n % 16)) = some n := by
  have hdigit (k : Nat) : hexValue (hexDigit (k % 16)) = some (k % 16) :=
    hexValue_hexDigit _ (Nat.mod_lt _ (by omega))
  simp only [hexUnit, hdigit, Option.bind_eq_bind, Option.bind_some, Option.pure_def,
    Option.some.injEq]
  omega

theorem readAs_char {c : Char} (hquote : c ≠ '"') (hslash : c ≠ '\\') (hc : 32 ≤ c.toNat) :
    ReadAs [c] (.char c) := by
  intro rest
  rw [List.singleton_append, stringElements]
  · rw [if_neg (by omega)]
    cases stringElements rest <;> rfl
  all_goals simp_all

theorem readAs_escape {e c : Char} (he : shortEscape e = some c) : ReadAs ['\\', e] (.char c) := by
  intro rest
  have hu : e ≠ 'u' := by
    intro hu
    subst e
    cases he
  rw [List.cons_append, List.singleton_append, stringElements]
  · rw [he]
    cases stringElements rest <;> rfl
  · simp_all

theorem readAs_unit {n : Nat} (hn : n < 0x10000) :
    ReadAs ('\\' :: 'u' :: hexDigits 4 n) (.unit n) := by
  intro rest
  simp only [hexDigits_four, List.cons_append, List.nil_append, stringElements,
    hexUnit_hexDigits hn]
  cases stringElements rest <;> rfl

/-- The written form of a character is read as an element that denotes it. -/
theorem exists_readAs_quoteChar (c : Char) : ∃ e, ReadAs (quoteChar c) e ∧ e.Denotes c := by
  have hshort {e : Char} (he : shortEscape e = some c) :
      ∃ e', ReadAs ['\\', e] e' ∧ e'.Denotes c := ⟨.char c, readAs_escape he, denotes_char c⟩
  have hnat {n : Nat} (hn : c.toNat = n) : c = Char.ofNat n := by
    rw [← hn, Char.ofNat_toNat]
  unfold quoteChar
  split
  · next hc => exact hshort (by rw [hc]; rfl)
  split
  · next hc => exact hshort (by rw [hc]; rfl)
  split
  · next hc => exact hshort (by rw [hc]; rfl)
  split
  · next hc => exact hshort (by rw [hc]; rfl)
  split
  · next hc => exact hshort (by rw [hc]; rfl)
  split
  · next hc => exact hshort (by rw [hnat hc]; rfl)
  split
  · next hc => exact hshort (by rw [hnat hc]; rfl)
  split
  · next hc =>
    refine ⟨.unit c.toNat, readAs_unit (by omega), ?_⟩
    have h := denotes_unit (n := c.toNat) (by omega)
    rwa [Char.ofNat_toNat] at h
  · next hquote hslash _ _ _ _ _ hc =>
    exact ⟨.char c, readAs_char hquote hslash (by omega), denotes_char c⟩

theorem stringElements_quoted (cs rest : List Char) : ∃ es,
    stringElements (cs.flatMap quoteChar ++ '"' :: rest) = some (es, rest) ∧
      denote es = some cs := by
  induction cs with
  | nil => exact ⟨[], rfl, rfl⟩
  | cons c cs ih =>
    obtain ⟨es, hread, hdenote⟩ := ih
    obtain ⟨e, he, hc⟩ := exists_readAs_quoteChar c
    refine ⟨e :: es, ?_, ?_⟩
    · rw [List.flatMap_cons, List.append_assoc, he, hread]
      rfl
    · rw [hc, hdenote]
      rfl

theorem stringToken_quoted (cs rest : List Char) :
    stringToken (cs.flatMap quoteChar ++ '"' :: rest) =
      some (.string (some (String.ofList cs)), rest) := by
  obtain ⟨es, hread, hdenote⟩ := stringElements_quoted cs rest
  simp only [stringToken, hread, Option.map_some, hdenote]

/-- No quoted string is the start of another. -/
theorem quote_append_inj {a b x y : String} : quote a ++ x = quote b ++ y ↔ a = b ∧ x = y := by
  refine ⟨fun h => ?_, by rintro ⟨rfl, rfl⟩; rfl⟩
  have hchars (s z : String) : (quote s ++ z).toList =
      '"' :: (s.toList.flatMap quoteChar ++ '"' :: z.toList) := by
    simp [quote, quoteChars]
  have htail : a.toList.flatMap quoteChar ++ '"' :: x.toList =
      b.toList.flatMap quoteChar ++ '"' :: y.toList := by
    rw [← String.toList_inj, hchars, hchars] at h
    exact List.tail_eq_of_cons_eq h
  have hread := congrArg stringToken htail
  rw [stringToken_quoted, stringToken_quoted] at hread
  obtain ⟨hab, hxy⟩ : a = b ∧ x.toList = y.toList := by simpa using hread
  exact ⟨hab, String.toList_inj.1 hxy⟩

theorem quote_inj {a b : String} : quote a = quote b ↔ a = b :=
  ⟨fun h => (quote_append_inj.1 (congrArg (· ++ "") h)).1, congrArg quote⟩

end RowBinding.Json
