import RowBinding.Column.Naming

/-!
# Options

The command line names a subcommand and gives it options. An option that takes a value has it in
the same argument after an equals sign, or right after its letter, or in the next argument; the
next argument is taken only if it does not look like an option. Letters of flags may be grouped
in front of another letter. Two hyphens end the options; nothing may follow them.

Reading arguments yields settings in the order given. It stops where help is asked for, and what
stands behind is not looked at. Settings are accepted if no option is given twice and every value
is one that its option takes.
-/
namespace RowBinding.CommandLine
open Column

inductive Subcommand where
  | readRows
  | bindParameters
  | answerRequest
deriving DecidableEq, Repr

inductive OptionName where
  | verbose
  | input
  | output
  | reader
  | writer
  | object
  | counter
  | naming
  | columnNames
  | separator
  | columnCase
deriving DecidableEq, Repr

/-- An option as it was given; flags have no value. -/
structure Setting where
  name : OptionName
  value : Option String
deriving DecidableEq, Repr

namespace OptionName

def long : OptionName → String
  | verbose => "verbose"
  | input => "input"
  | output => "output"
  | reader => "reader"
  | writer => "writer"
  | object => "object"
  | counter => "counter"
  | naming => "naming"
  | columnNames => "column-names"
  | separator => "separator"
  | columnCase => "case"

def letter? : OptionName → Option Char
  | verbose => some 'v'
  | input => some 'i'
  | output => some 'o'
  | reader => some 'r'
  | writer => some 'w'
  | object => some 'j'
  | counter => some 'c'
  | naming | columnNames | separator | columnCase => none

def isFlag : OptionName → Bool
  | verbose | columnNames => true
  | _ => false

end OptionName

/-- Whether an option takes a value: files have a name, and column cases are words. -/
def OptionName.accepts : OptionName → Option String → Bool
  | .verbose, v | .columnNames, v => v.isNone
  | .input, v | .output, v | .naming, v => v.any (· ≠ "")
  | .columnCase, v => (v.bind ColumnCase.ofWord?).isSome
  | _, v => v.isSome

namespace Subcommand

def word : Subcommand → String
  | readRows => "rs-to-obj"
  | bindParameters => "obj-to-ps"
  | answerRequest => "request"

def all : List Subcommand := [readRows, bindParameters, answerRequest]

def ofWord? (w : String) : Option Subcommand := all.find? (·.word == w)

/-- The options of a subcommand, in the order in which its help lists them. -/
def options : Subcommand → List OptionName
  | readRows =>
    [.reader, .verbose, .object, .naming, .columnNames, .separator, .columnCase, .input, .output]
  | bindParameters => [.verbose, .writer, .object, .counter, .input, .output]
  | answerRequest => [.input, .verbose, .output]

end Subcommand

inductive Argument where
  /-- Settings, and perhaps an option whose value is the next argument. -/
  | settings (given : List Setting) (pending : Option OptionName)
  /-- A request for help, with the settings in front of it. -/
  | help (given : List Setting)
  | endOfOptions
  | plain
deriving DecidableEq, Repr

/-- The parts of a text before and after its first equals sign, if it has one. -/
def cutAtEquals : List Char → List Char × Option (List Char)
  | [] => ([], none)
  | c :: cs =>
    if c = '=' then ([], some cs)
    else
      let (before, after) := cutAtEquals cs
      (c :: before, after)

def readLong (options : List OptionName) (cs : List Char) : Option Argument :=
  let (name, value) := cutAtEquals cs
  match options.find? fun o => o.long.toList == name with
  | none => if name = "help".toList ∧ value = none then some (.help []) else none
  | some o =>
    match value with
    | some v => if o.isFlag then none else some (.settings [⟨o, some (String.ofList v)⟩] none)
    | none => if o.isFlag then some (.settings [⟨o, none⟩] none) else some (.settings [] (some o))

/-- The value that follows a letter in the same argument; one equals sign before it is dropped. -/
def attachedValue : List Char → String
  | [] => ""
  | c :: cs => String.ofList (if c = '=' then cs else c :: cs)

def readLetters (options : List OptionName) : List Char → Option Argument
  | [] => some (.settings [] none)
  | c :: cs =>
    match options.find? fun o => o.letter? == some c with
    | none => if c = 'h' then some (.help []) else none
    | some o =>
      if o.isFlag then
        match readLetters options cs with
        | some (.settings given pending) => some (.settings (⟨o, none⟩ :: given) pending)
        | some (.help given) => some (.help (⟨o, none⟩ :: given))
        | other => other
      else if cs.isEmpty then some (.settings [] (some o))
      else some (.settings [⟨o, some (attachedValue cs)⟩] none)

def readArgument (options : List OptionName) (arg : String) : Option Argument :=
  match arg.toList with
  | ['-', '-'] => some .endOfOptions
  | '-' :: '-' :: cs => readLong options cs
  | '-' :: c :: cs => readLetters options (c :: cs)
  | _ => some .plain

/-- Whether an argument can be the value of the option before it. -/
def mayBeValue (arg : String) : Bool :=
  match arg.toList with
  | '-' :: _ :: _ => false
  | _ => true

/-- The settings that a subcommand's arguments give, in order, and whether they ask for help. -/
def readSettings (options : List OptionName) : List String → Option (List Setting × Bool)
  | [] => some ([], false)
  | arg :: rest =>
    match readArgument options arg with
    | some (.settings given none) =>
      (readSettings options rest).map fun (more, asked) => (given ++ more, asked)
    | some (.settings given (some o)) =>
      match rest with
      | [] => none
      | v :: rest' =>
        if mayBeValue v then
          (readSettings options rest').map fun (more, asked) =>
            (given ++ ⟨o, some v⟩ :: more, asked)
        else none
    | some (.help given) => some (given, true)
    | some .endOfOptions => if rest.isEmpty then some ([], false) else none
    | _ => none

/-- The settings before the first word, and the word with what follows it, unless help is asked
for before. -/
def readFront : List String → Option (List Setting × Option (String × List String))
  | [] => none
  | arg :: rest =>
    match readArgument [.verbose] arg with
    | some (.settings given none) =>
      (readFront rest).map fun (more, found) => (given ++ more, found)
    | some (.help given) => some (given, none)
    | some .plain => some ([], some (arg, rest))
    | _ => none

/-- Whether no option is given twice and every value is one that its option takes. -/
def acceptable (settings : List Setting) : Bool :=
  decide (settings.map Setting.name).Nodup && settings.all fun s => s.name.accepts s.value

def valueOf? (settings : List Setting) (o : OptionName) : Option String :=
  (settings.find? (·.name == o)).bind Setting.value

def isGiven (settings : List Setting) (o : OptionName) : Bool := settings.any (·.name == o)

end RowBinding.CommandLine
