/-!
# Cutting a text into pieces and joining lines

`pieces p` cuts a text at every character that satisfies `p`; the cut characters are lost and
the pieces between them may be empty. `runs p` keeps the nonempty pieces, so it lists the
maximal runs of characters outside `p`. `stretches p` cuts at every maximal run of characters in
`p`, so only its first and last stretch may be empty.

`joinLines` puts a line break between lines and none after the last.
-/
namespace RowBinding.Text

/-- The pieces of a text between the characters that satisfy `p`; there is always at least one. -/
def pieces (p : Char → Bool) : List Char → List (List Char)
  | [] => [[]]
  | c :: cs => if p c then [] :: pieces p cs else (pieces p cs).modifyHead (c :: ·)

theorem pieces_ne_nil (p : Char → Bool) (cs : List Char) : pieces p cs ≠ [] := by
  induction cs with
  | nil => simp [pieces]
  | cons c cs ih =>
    unfold pieces
    split
    · simp
    · cases h : pieces p cs with
      | nil => exact absurd h ih
      | cons w ws => simp

/-- The maximal runs of characters that do not satisfy `p`. -/
def runs (p : Char → Bool) (cs : List Char) : List (List Char) :=
  (pieces p cs).filter (!·.isEmpty)

/-- The stretches of a text between the maximal runs of characters that satisfy `p`. A text that
starts or ends with such a run has an empty stretch there. -/
def stretches (p : Char → Bool) : List Char → List (List Char)
  | [] => [[]]
  | c :: cs =>
    if p c then
      if cs.head?.any p then stretches p cs else [] :: stretches p cs
    else (stretches p cs).modifyHead (c :: ·)

/-- The lines in order, with a line break between neighbours. -/
def joinLines : List String → String
  | [] => ""
  | [l] => l
  | l :: m :: ls => l ++ "\n" ++ joinLines (m :: ls)

end RowBinding.Text
