import RowBinding.CommandLine.Files
import RowBinding.CommandLine.Help
import RowBinding.Request.Json

/-!
# Runs

A run reads its input, then the naming file, generates the code, and writes it. It stops at the
first of these that fails; until the code is written nothing is changed. Where help is asked for
nothing is read.

`Invocation.result` is the text to be written, from the standard input and a way to read files.
`run` is a whole run over a tree of files.
-/
namespace RowBinding.CommandLine
open Column Config

inductive RunError where
  /-- A file cannot be read or written, or what is read is not text. -/
  | inputOutput (cause : String)
  | failure (cause : Failure)
deriving DecidableEq, Repr

def RunError.message : RunError → String
  | .inputOutput cause => "error: I/O error: " ++ cause
  | .failure cause => "error: " ++ cause.message

def writtenNote (path : String) : String := "Generated code written to " ++ path

/-- A way to read files: the bytes at a path, or the reason why there are none. -/
abbrev FileReader := String → Except String ByteArray

def decodeText (bytes : ByteArray) : Except RunError String :=
  match String.fromUTF8? bytes with
  | some text => .ok text
  | none => .error (.inputOutput "stream did not contain valid UTF-8")

def FileReader.readText (read : FileReader) (path : String) : Except RunError String := do
  decodeText (← (read path).mapError .inputOutput)

def NamingOptions.policy (o : NamingOptions) (read : FileReader) :
    Except RunError NamingPolicy := do
  let base ← match o.file with
    | none => .ok {}
    | some path => (readPolicy (← read.readText path)).mapError fun e => .failure (.config e)
  return base.setAll o.parts

namespace Invocation

def inputText (i : Invocation) (stdin : ByteArray) (read : FileReader) : Except RunError String :=
  match i.input with
  | none => decodeText stdin
  | some path => read.readText path

def result (i : Invocation) (stdin : ByteArray) (read : FileReader) : Except RunError String := do
  let text ← i.inputText stdin read
  match i.task with
  | .readRows reader object naming =>
    let policy ← naming.policy read
    (Request.read ⟨reader, object, text, some policy⟩).generate.mapError .failure
  | .bindParameters writer object counter =>
    (Request.bind ⟨writer, object, text, counter⟩).generate.mapError .failure
  | .answerRequest => (generateJson text).mapError .failure

end Invocation

structure Outcome where
  exitCode : Nat
  stdout : String
  note : Option String
  files : Files

/-- A run that stops without changing anything. -/
def Outcome.failed (error : RunError) (files : Files) : Outcome :=
  ⟨1, "", some error.message, files⟩

def Invocation.run (i : Invocation) (stdin : ByteArray) (files : Files) : Outcome :=
  match i.result stdin files.read with
  | .error e => .failed e files
  | .ok text =>
    match i.output with
    | none => ⟨0, text ++ "\n", none, files⟩
    | some path =>
      match files.write path text with
      | .ok written => ⟨0, "", some (writtenNote path), written⟩
      | .error cause => .failed (.inputOutput cause) files

def run (args : List String) (stdin : ByteArray) (files : Files) : Outcome :=
  match Asked.ofArguments? args with
  | none => ⟨2, "", none, files⟩
  | some (.help topic) => ⟨0, topic.text, none, files⟩
  | some (.invocation i) => i.run stdin files

end RowBinding.CommandLine
