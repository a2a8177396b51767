import RowBinding.Config.Naming
import RowBinding.Request.Basic

/-!
# Requests in JSON

A request is an object whose member direction says which other members it has; their order is
free and members with other keys are passed over. The direction is checked where it stands. All
other members are stored, whatever they are, and looked at once the object is complete.

A request from an object to a statement may also be an array of the direction, the three texts,
and perhaps the counter.
-/
namespace RowBinding.Config
open Json

/-- The direction for a word, which must be one. -/
def directionNamed (word : String) : Except ReadError Direction :=
  match Direction.ofWord? word with
  | some d => .ok d
  | none => .error (.unknownChoice word .direction)

def directionIn : Outline → Except ReadError Direction
  | .string (some name) => directionNamed name
  | o => .error (mismatch o .choice)

/-- A part of a request, to be looked at later. -/
def store (o : Outline) : Except ReadError Value :=
  match o.value? (depthLimit - 1) with
  | some v => .ok v
  | none => .error .malformed

/-- The direction among members, when `direction` came before them, and the stored others. -/
def readTagged (direction : Option Direction) : List (Option String × Outline) →
    Except ReadError (Option Direction × List (String × Value))
  | [] => .ok (direction, [])
  | (none, _) :: _ => .error .malformed
  | (some key, v) :: rest =>
    if key = "direction" then
      match direction with
      | some _ => .error (.duplicateField key)
      | none =>
        match directionIn v with
        | .error e => .error e
        | .ok d => readTagged (some d) rest
    else
      match store v with
      | .error e => .error e
      | .ok stored =>
        match readTagged direction rest with
        | .error e => .error e
        | .ok (d, others) => .ok (d, (key, stored) :: others)

def required (found : List (String × Option String)) (key : String) : Except ReadError String :=
  match found.lookup key with
  | some (some s) => .ok s
  | _ => .error (.missingField key)

def readRequestText (key : String) : Option (Value → Except ReadError (Option String)) :=
  if key = "reader_id" || key = "object_id" || key = "fields_text" then
    some fun v => (textOf v).map some
  else none

def readRequestPolicy (key : String) :
    Option (Value → Except ReadError (Option Column.NamingPolicy)) :=
  if key = "naming" then some optionalPolicyOf else none

def bindRequestText (key : String) : Option (Value → Except ReadError (Option String)) :=
  if key = "writer_id" || key = "object_id" || key = "fields_text" then
    some fun v => (textOf v).map some
  else if key = "counter_id" then some optionalTextOf
  else none

/-- A request to read rows, from its stored members. The policy is looked at first. -/
def readRequestOf (members : List (String × Value)) : Except ReadError ReadRequest := do
  let policies ← readMembers readRequestPolicy [] (asRead members)
  let found ← readMembers readRequestText [] (asRead members)
  return {
    readerId := ← required found "reader_id"
    objectId := ← required found "object_id"
    fieldsText := ← required found "fields_text"
    naming := (policies.lookup "naming").join }

def bindRequestOf (members : List (String × Value)) : Except ReadError BindRequest := do
  let found ← readMembers bindRequestText [] (asRead members)
  return {
    writerId := ← required found "writer_id"
    objectId := ← required found "object_id"
    fieldsText := ← required found "fields_text"
    counterId := (found.lookup "counter_id").join }

/-- A request to bind parameters, from the stored values after the direction. -/
def bindRequestOfItems (items : List Value) : Except ReadError BindRequest := do
  match ← (items.take 3).mapM textOf with
  | [writer, object, fields] =>
    match items.drop 3 with
    | [] => return ⟨writer, object, fields, none⟩
    | counter :: more =>
      let counterId ← optionalTextOf counter
      if more.isEmpty then return ⟨writer, object, fields, counterId⟩
      else .error (.tooManyItems items.length)
  | _ => .error (.tooFewItems items.length)

def requestIn : Outline → Except ReadError Request
  | .object members ending => do
    let (direction, stored) ← readTagged none members
    if ending ≠ .closed then .error .malformed
    else
      match direction with
      | none => .error (.missingField "direction")
      | some .readerToObject => (readRequestOf stored).map .read
      | some .objectToWriter => (bindRequestOf stored).map .bind
  | .array [] ending =>
    if ending ≠ .closed then .error .malformed else .error (.missingField "direction")
  | .array (first :: rest) ending => do
    let direction ← directionIn first
    let stored ← rest.mapM store
    if ending ≠ .closed then .error .malformed
    else
      match direction with
      | .readerToObject => .error (.wrongType .sequence .readRequestMembers)
      | .objectToWriter => (bindRequestOfItems stored).map .bind
  | o => .error (mismatch o .request)

def readRequest (text : String) : Except ReadError Request := readWhole requestIn text

/-- A request as an object; what is absent is left out. -/
def requestValue : Request → Value
  | .read r => .object ([
      ("direction", .string (Direction.readerToObject.word)),
      ("reader_id", .string r.readerId),
      ("object_id", .string r.objectId),
      ("fields_text", .string r.fieldsText)]
      ++ (r.naming.map fun p => ("naming", policyValue p)).toList)
  | .bind r => .object ([
      ("direction", .string (Direction.objectToWriter.word)),
      ("writer_id", .string r.writerId),
      ("object_id", .string r.objectId),
      ("fields_text", .string r.fieldsText)]
      ++ (r.counterId.map fun c => ("counter_id", Value.string c)).toList)

def writeRequest (r : Request) : String := (requestValue r).render

end RowBinding.Config
