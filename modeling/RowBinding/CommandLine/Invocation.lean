import RowBinding.CommandLine.Options

/-!
# Invocations

Accepted arguments ask for help on a topic or for an invocation, with the defaults filled in.
Asking for verbose output is accepted once before and once after the subcommand and changes no
answer. The word for help stands where a subcommand does and may name one.
-/
namespace RowBinding.CommandLine
open Column

/-- How the naming policy is put together: from a file, with parts replaced. -/
structure NamingOptions where
  file : Option String := none
  columnNames : Bool := false
  separator : Option String := none
  columnCase : Option ColumnCase := none
deriving DecidableEq, Repr

/-- The parts of the policy that options replace. Giving a separator also asks for its use. -/
def NamingOptions.parts (o : NamingOptions) : List PolicyPart :=
  (if o.columnNames then [.generateNames true] else [])
    ++ (match o.separator with
      | some s => [.useSeparator true, .separator s]
      | none => [])
    ++ (match o.columnCase with
      | some c => [.columnCase c]
      | none => [])

inductive Task where
  | readRows (reader object : String) (naming : NamingOptions)
  | bindParameters (writer object : String) (counter : Option String)
  | answerRequest
deriving DecidableEq, Repr

/-- A task, with the files to read its input from and to write the result to, if any. -/
structure Invocation where
  task : Task
  input : Option String
  output : Option String
deriving DecidableEq, Repr

def taskOf (settings : List Setting) : Subcommand → Task
  | .readRows =>
    .readRows ((valueOf? settings .reader).getD "rs") ((valueOf? settings .object).getD "obj") {
      file := valueOf? settings .naming
      columnNames := isGiven settings .columnNames
      separator := valueOf? settings .separator
      columnCase := (valueOf? settings .columnCase).bind ColumnCase.ofWord? }
  | .bindParameters =>
    .bindParameters ((valueOf? settings .writer).getD "ps")
      ((valueOf? settings .object).getD "obj") (valueOf? settings .counter)
  | .answerRequest => .answerRequest

/-- The invocation that a subcommand with settings asks for. -/
def Invocation.ofSettings (s : Subcommand) (settings : List Setting) : Invocation where
  task := taskOf settings s
  input := valueOf? settings .input
  output := valueOf? settings .output

/-- What help can be about. -/
inductive Topic where
  | program
  | subcommand (s : Subcommand)
  | help
deriving DecidableEq, Repr

def helpWord : String := "help"

/-- The topic that is named behind the word for help. -/
def Topic.ofWords? : List String → Option Topic
  | [] => some .program
  | [word] => if word = helpWord then some .help else (Subcommand.ofWord? word).map .subcommand
  | _ => none

/-- What accepted arguments ask for. -/
inductive Asked where
  | help (topic : Topic)
  | invocation (i : Invocation)
deriving DecidableEq, Repr

/-- What a subcommand is asked for by its arguments. -/
def Asked.ofSubcommand? (s : Subcommand) (args : List String) : Option Asked := do
  let (settings, asked) ← readSettings s.options args
  if acceptable settings then
    return if asked then .help (.subcommand s) else .invocation (.ofSettings s settings)
  else none

def Asked.ofArguments? (args : List String) : Option Asked := do
  let (before, found) ← readFront args
  if acceptable before then
    match found with
    | none => return .help .program
    | some (word, rest) =>
      if word = helpWord then (Topic.ofWords? rest).map .help
      else Asked.ofSubcommand? (← Subcommand.ofWord? word) rest
  else none

def Asked.invocation? : Asked → Option Invocation
  | .help _ => none
  | .invocation i => some i

/-- The invocation that arguments ask for, if they do not ask for help. -/
def Invocation.ofArguments? (args : List String) : Option Invocation :=
  (Asked.ofArguments? args).bind Asked.invocation?

end RowBinding.CommandLine
