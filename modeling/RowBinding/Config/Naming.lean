import RowBinding.Column.Naming
import RowBinding.Config.Members

/-!
# Naming policies in JSON

A policy is an object with any of four keys, or an array of up to four values in the order of
the keys. What is left out has its default. A policy stands in a text of its own or is a stored
part of a request; both are read part by part in the same way. They differ in the limits, which
a text of its own does not put on the values of unknown keys, and in the column case, for which
a stored policy has more sentences.
-/
namespace RowBinding.Config
open Column Json

/-- The column case for a word, which must be one. -/
def caseNamed (word : String) : Except ReadError ColumnCase :=
  match ColumnCase.ofWord? word with
  | some c => .ok c
  | none => .error (.unknownChoice word .columnCase)

inductive PolicyKey where
  | generateNames
  | useSeparator
  | separator
  | columnCase
deriving DecidableEq, Repr

namespace PolicyKey

def name : PolicyKey → String
  | generateNames => "generate_column_names"
  | useSeparator => "use_separator"
  | separator => "separator"
  | columnCase => "column_case"

/-- The parts in the order of an array. -/
def all : List PolicyKey := [generateNames, useSeparator, separator, columnCase]

def ofName? (key : String) : Option PolicyKey := all.find? (·.name == key)

end PolicyKey

/-- How values are read as parts of a policy. -/
structure PartReader (α : Type) where
  truthValue : α → Except ReadError Bool
  text : α → Except ReadError String
  columnCase : α → Except ReadError ColumnCase

namespace PartReader
variable {α : Type}

def part (r : PartReader α) : PolicyKey → α → Except ReadError PolicyPart
  | .generateNames, v => (r.truthValue v).map .generateNames
  | .useSeparator, v => (r.truthValue v).map .useSeparator
  | .separator, v => (r.text v).map .separator
  | .columnCase, v => (r.columnCase v).map .columnCase

def policyOfMembers (r : PartReader α) (members : List (Option String × α)) :
    Except ReadError NamingPolicy :=
  (readMembers (fun key => (PolicyKey.ofName? key).map r.part) [] members).map fun parts =>
    NamingPolicy.setAll {} (parts.map Prod.snd)

/-- Reads values as the parts with the given keys, as long as there are both. -/
def parts (r : PartReader α) : List PolicyKey → List α → Except ReadError (List PolicyPart)
  | key :: keys, v :: vs =>
    match r.part key v with
    | .error e => .error e
    | .ok p =>
      match r.parts keys vs with
      | .error e => .error e
      | .ok ps => .ok (p :: ps)
  | _, _ => .ok []

def policyOfItems (r : PartReader α) (items : List α) : Except ReadError NamingPolicy :=
  (r.parts PolicyKey.all items).map (NamingPolicy.setAll {})

end PartReader

/-- A stored column case: a word, or an object with the word as its one key and nothing as the
value. An empty object counts as nothing. -/
def caseOf : Value → Except ReadError ColumnCase
  | .string name => caseNamed name
  | .object [(name, v)] =>
    match caseNamed name with
    | .error e => .error e
    | .ok c =>
      match v with
      | .null => .ok c
      | .object [] => .ok c
      | v => .error (.wrongType (.ofValue v) .nothing)
  | .object _ => .error .notOneMember
  | v => .error (.wrongType (.ofValue v) .columnCase)

def storedParts : PartReader Value := ⟨truthValueOf, textOf, caseOf⟩

def policyOf : Value → Except ReadError NamingPolicy
  | .object members => storedParts.policyOfMembers (asRead members)
  | .array items =>
    match storedParts.policyOfItems items with
    | .error e => .error e
    | .ok p => if items.length ≤ 4 then .ok p else .error (.tooManyItems items.length)
  | v => .error (.wrongType (.ofValue v) .namingPolicy)

/-- A stored policy, or none in place of null. -/
def optionalPolicyOf : Value → Except ReadError (Option NamingPolicy)
  | .null => .ok none
  | v => (policyOf v).map some

/-- A column case in a text: a word, or an object with the word as its one key and nothing as the
value. -/
def caseIn : Outline → Except ReadError ColumnCase
  | .string (some name) => caseNamed name
  | .object ((some name, v) :: more) ending =>
    match caseNamed name with
    | .error e => .error e
    | .ok c =>
      match v with
      | .null => if more.isEmpty && ending == .closed then .ok c else .error .malformed
      | v => .error (mismatch v .nothing)
  | _ => .error .malformed

def shownParts : PartReader Outline := ⟨truthValueIn, textIn, caseIn⟩

def policyIn : Outline → Except ReadError NamingPolicy
  | .object members ending =>
    match shownParts.policyOfMembers members with
    | .error e => .error e
    | .ok p => if ending = .closed then .ok p else .error .malformed
  | .array items ending =>
    match shownParts.policyOfItems items with
    | .error e => .error e
    | .ok p => if items.length ≤ 4 ∧ ending = .closed then .ok p else .error .malformed
  | o => .error (mismatch o .namingPolicy)

def readPolicy (text : String) : Except ReadError NamingPolicy := readWhole policyIn text

/-- A policy as an object with all four keys. -/
def policyValue (p : NamingPolicy) : Value :=
  .object [
    (PolicyKey.generateNames.name, .bool p.generateNames),
    (PolicyKey.useSeparator.name, .bool p.useSeparator),
    (PolicyKey.separator.name, .string p.separator),
    (PolicyKey.columnCase.name, .string (p.columnCase.word))]

def writePolicy (p : NamingPolicy) : String := (policyValue p).render

end RowBinding.Config
