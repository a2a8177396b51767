import RowBinding.Text.Quoted
import RowBinding.Text.Unprintable

/-!
# Text shown in messages

The form in which a message shows a string that was found in the wrong place: between quotes,
with short escapes for a few characters and the code point in hexadecimal for those that are not
shown as they are.
-/
namespace RowBinding.Text

/-- The hexadecimal digits of a number, without leading zeros. -/
def hexText (n : Nat) : List Char := Nat.toDigits 16 n

/-- How a message shows one character. -/
def showChar (c : Char) : List Char :=
  if c.toNat = 0 then ['\\', '0']
  else if c = '\t' then ['\\', 't']
  else if c = '\r' then ['\\', 'r']
  else if c = '\n' then ['\\', 'n']
  else if c = '"' then ['\\', '"']
  else if c = '\\' then ['\\', '\\']
  else if isUnprintable c then '\\' :: 'u' :: '\x7b' :: (hexText c.toNat ++ ['\x7d'])
  else [c]

/-- How a message shows a string. -/
def showText (s : String) : String :=
  String.ofList ('"' :: (s.toList.flatMap showChar ++ ['"']))

end RowBinding.Text
