import RowBinding.Config.Error
import RowBinding.Json.Outline

/-!
# Reading members of objects

Members are read in order. A key that is not known is passed over with its value, also when it
comes again. A known key that comes again is an error, before its value is looked at.

Values are either the outlines of a text that is still being read or the values of one that has
been stored.
-/
namespace RowBinding.Config
open Json

/-- Reads the members with a known key; `seen` holds the known keys that came before. -/
def readMembers {α β : Type} (known : String → Option (α → Except ReadError β))
    (seen : List String) : List (Option String × α) → Except ReadError (List (String × β))
  | [] => .ok []
  | (none, _) :: _ => .error .malformed
  | (some key, v) :: rest =>
    match known key with
    | none => readMembers known seen rest
    | some read =>
      if seen.contains key then .error (.duplicateField key)
      else
        match read v with
        | .error e => .error e
        | .ok b =>
          match readMembers known (key :: seen) rest with
          | .error e => .error e
          | .ok bs => .ok ((key, b) :: bs)

/-- What an outline shows in place of something else. Of an array or object the start is enough;
anything else must be complete. -/
def found? : Outline → Option Found
  | .array _ _ => some .sequence
  | .object _ _ => some .map
  | o => (o.value? 0).map .ofValue

def mismatch (o : Outline) (expected : Expected) : ReadError :=
  match found? o with
  | some found => .wrongType found expected
  | none => .malformed

def textOf : Value → Except ReadError String
  | .string s => .ok s
  | v => .error (.wrongType (.ofValue v) .text)

/-- A stored string, or nothing in place of null. -/
def optionalTextOf : Value → Except ReadError (Option String)
  | .null => .ok none
  | v => (textOf v).map some

def truthValueOf : Value → Except ReadError Bool
  | .bool b => .ok b
  | v => .error (.wrongType (.ofValue v) .truthValue)

def textIn : Outline → Except ReadError String
  | .string (some s) => .ok s
  | o => .error (mismatch o .text)

def truthValueIn : Outline → Except ReadError Bool
  | .bool b => .ok b
  | o => .error (mismatch o .truthValue)

def asRead (members : List (String × Value)) : List (Option String × Value) :=
  members.map fun (key, v) => (some key, v)

/-- Reads all of a text: errors in its first value come before anything that follows it. -/
def readWhole {α : Type} (read : Outline → Except ReadError α) (text : String) :
    Except ReadError α :=
  let (root, ends) := Outline.ofText text
  match read root with
  | .error e => .error e
  | .ok a => if ends then .ok a else .error .malformed

end RowBinding.Config
