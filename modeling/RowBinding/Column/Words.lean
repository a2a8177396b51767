import RowBinding.Letter.Uppercase

/-!
# Words of an identifier

Underscores separate words and belong to none. Between underscores a new word starts at a
capital that follows another kind of character, and at the last capital of a run when a
character that is not a capital comes after it: the words of URLValue are URL and Value.
Characters without case count as small letters.

An identifier is read once. Where a run of capitals ends shows only at the next character, so the
last capital of the run is then taken back from the word that was being read.
-/
namespace RowBinding.Column
open Letter

/-- How far an identifier has been read: the words that are complete, the word that is being read,
and whether the character before is a capital. There is none at the start and after an
underscore. -/
structure WordReader where
  complete : List (List Char) := []
  word : List Char := []
  afterCapital : Option Bool := none
deriving DecidableEq, Repr

namespace WordReader

/-- The words when the one that is being read ends here. -/
def flush (r : WordReader) : List (List Char) :=
  if r.word.isEmpty then r.complete else r.complete ++ [r.word]

def read (r : WordReader) (c : Char) : WordReader :=
  if c = '_' then { complete := r.flush }
  else
    match r.afterCapital, isUppercase c with
    | some true, false =>
      if 1 < r.word.length then
        { complete := { r with word := r.word.dropLast }.flush
          word := r.word.getLast?.toList ++ [c]
          afterCapital := some false }
      else { r with word := r.word ++ [c], afterCapital := some false }
    | some false, true => { complete := r.flush, word := [c], afterCapital := some true }
    | _, capital => { r with word := r.word ++ [c], afterCapital := some capital }

end WordReader

def words (cs : List Char) : List (List Char) := (cs.foldl WordReader.read {}).flush

def splitWords (identifier : String) : List String :=
  (words identifier.toList).map String.ofList

end RowBinding.Column
