import RowBinding.Json.Token
import RowBinding.Json.Value

/-!
# Outlines of JSON texts

Every text has an outline: what can be seen of a JSON value up to the place where the text stops
being one. A value that is due but does not come is a gap. An array or object that is not closed
shows what came before the place where reading stopped.

An outline has no limits on nesting or on the size of numbers. `value?` is the value of an
outline that is complete and within the limits.

Reading is a run over the tokens. Its state is the list of open arrays and objects, the
innermost first, and what may come next.
-/
namespace RowBinding.Json

/-- How an array or object ends: closed, or because a token does not fit or the text is over. -/
inductive Ending where
  | closed
  | stopped
deriving DecidableEq, Repr

/-- What a text shows of a value. Strings without content are `none`. -/
inductive Outline where
  | null
  | bool (b : Bool)
  | number (n : Numeral)
  | string (content : Option String)
  | array (items : List Outline) (ending : Ending)
  | object (members : List (Option String × Outline)) (ending : Ending)
  | gap

namespace Outline

/-- An open array or object that awaits a value; what came before is given in reverse. -/
inductive Frame where
  | item (before : List Outline)
  | member (before : List (Option String × Outline)) (key : Option String)

/-- What may come next inside the innermost open array or object. -/
inductive Due where
  /-- A value for the innermost frame. -/
  | value
  | firstItem
  /-- An item is complete. -/
  | afterItem (before : List Outline)
  | firstKey
  /-- A comma came after a member. -/
  | key (before : List (Option String × Outline))
  /-- A key is complete. -/
  | colon (before : List (Option String × Outline)) (key : Option String)
  /-- A member is complete. -/
  | afterMember (before : List (Option String × Outline))

/-- What a token does: it leads on, completes the whole value, or does not fit. -/
inductive Progress where
  | open (frames : List Frame) (due : Due)
  | complete (root : Outline)
  | stuck

/-- The progress when a value is complete. -/
def deliver (v : Outline) : List Frame → Progress
  | [] => .complete v
  | .item before :: frames => .open frames (.afterItem (v :: before))
  | .member before key :: frames => .open frames (.afterMember ((key, v) :: before))

/-- The progress when a token comes where a value is due. -/
def startValue (frames : List Frame) : Token → Progress
  | .null => deliver .null frames
  | .bool b => deliver (.bool b) frames
  | .number n => deliver (.number n) frames
  | .string s => deliver (.string s) frames
  | .openBracket => .open frames .firstItem
  | .openBrace => .open frames .firstKey
  | _ => .stuck

def step (frames : List Frame) : Due → Token → Progress
  | .value, t => startValue frames t
  | .firstItem, .closeBracket => deliver (.array [] .closed) frames
  | .firstItem, t => startValue (.item [] :: frames) t
  | .afterItem before, .comma => .open (.item before :: frames) .value
  | .afterItem before, .closeBracket => deliver (.array before.reverse .closed) frames
  | .firstKey, .string s => .open frames (.colon [] s)
  | .firstKey, .closeBrace => deliver (.object [] .closed) frames
  | .key before, .string s => .open frames (.colon before s)
  | .colon before key, .colon => .open (.member before key :: frames) .value
  | .afterMember before, .comma => .open frames (.key before)
  | .afterMember before, .closeBrace => deliver (.object before.reverse .closed) frames
  | _, _ => .stuck

/-- The whole outline around an inner one, when reading stops inside the open frames. -/
def wrap (inner : Outline) : List Frame → Outline
  | [] => inner
  | .item before :: frames => wrap (.array (inner :: before).reverse .stopped) frames
  | .member before key :: frames =>
    wrap (.object ((key, inner) :: before).reverse .stopped) frames

def cut (frames : List Frame) : Due → Outline
  | .value => wrap .gap frames
  | .firstItem => wrap .gap (.item [] :: frames)
  | .afterItem before => wrap (.array before.reverse .stopped) frames
  | .firstKey => wrap (.object [] .stopped) frames
  | .key before => wrap (.object before.reverse .stopped) frames
  | .colon before key => wrap .gap (.member before key :: frames)
  | .afterMember before => wrap (.object before.reverse .stopped) frames

/-- The outline of the first value, and the tokens after it. -/
def run (frames : List Frame) (due : Due) : List Token → Outline × List Token
  | [] => (cut frames due, [])
  | t :: ts =>
    match step frames due t with
    | .open frames' due' => run frames' due' ts
    | .complete root => (root, ts)
    | .stuck => (cut frames due, t :: ts)

/-- The outline of the value that a text starts with, and whether the text ends after it. -/
def ofText (text : String) : Outline × Bool :=
  let (root, rest) := run [] .value (tokens text.toList)
  (root, rest.isEmpty)

/-- The value of an outline, if it is complete, nested at most `depth` deep, and holds only
numbers that are not too large and strings with content. -/
def value? : Nat → Outline → Option Value
  | _, .null => some .null
  | _, .bool b => some (.bool b)
  | _, .number n => n.number?.map .number
  | _, .string s => s.map .string
  | depth + 1, .array items .closed => (items.mapM (value? depth)).map .array
  | depth + 1, .object members .closed =>
    (members.mapM fun (m : Option String × Outline) =>
      match m.1, value? depth m.2 with
      | some k, some v => some (k, v)
      | _, _ => none).map .object
  | _, _ => none

end Outline

/-- How deep arrays and objects may be nested, the outermost counted. -/
def depthLimit : Nat := 127

/-- The value that a whole text writes, within the limits. -/
def parse? (text : String) : Option Value :=
  match Outline.ofText text with
  | (root, true) => root.value? depthLimit
  | (_, false) => none

end RowBinding.Json
