import RowBinding.CommandLine.Invocation
import RowBinding.Text.Pieces

/-!
# Help

A page of help tells what its topic is for and how it is used, and lists what can be given, with a
description of each in a column of its own.
-/
namespace RowBinding.CommandLine
open Text

def Subcommand.about : Subcommand → String
  | .readRows => "Generate `obj.setX(rs.getX(...))` statements"
  | .bindParameters => "Generate `ps.setX(i, obj.getX())` statements"
  | .answerRequest => "Run a JSON generation request and print the JSON response"

def aboutHelp : String := "Print this message or the help of the given subcommand(s)"

/-- What an option of a subcommand is for, with its default and the values it takes. -/
def Subcommand.describe (s : Subcommand) : OptionName → String
  | .verbose => "Log parsing and emission details to stderr"
  | .input => "Input file (reads stdin when omitted)"
  | .output => "Output file (prints to stdout when omitted)"
  | .reader => "ResultSet variable name [default: rs]"
  | .writer => "PreparedStatement variable name [default: ps]"
  | .object =>
    (if s = .readRows then "Target" else "Source") ++ " object variable name [default: obj]"
  | .counter => "Use a running `int` counter instead of literal parameter positions"
  | .naming => "JSON file holding a column naming policy"
  | .columnNames => "Derive column names from field names"
  | .separator => "Split field names into words joined by this separator"
  | .columnCase =>
    "Case applied to generated column names [possible values: upper, lower, unchanged]"

/-- How help shows an option: its letter and its name, and a placeholder for its value. -/
def OptionName.label (o : OptionName) : String :=
  (match o.letter? with
    | some c => "-" ++ String.singleton c ++ ", "
    | none => "    ")
  ++ "--" ++ o.long ++ (if o.isFlag then "" else " <" ++ o.long.toUpper ++ ">")

/-- Things that can be given, with their descriptions. -/
structure Listing where
  title : String
  rows : List (String × String)

def Listing.lines (l : Listing) : List String :=
  let width := (l.rows.map fun (label, _) => label.length).foldl max 0
  l.title :: l.rows.map fun (label, description) =>
    "  " ++ String.ofList (label.toList.rightpad width ' ') ++ "  " ++ description

structure Page where
  about : String
  usage : String
  listings : List Listing

def Page.text (p : Page) : String :=
  joinLines (p.about :: "" :: ("Usage: browmap " ++ p.usage) ::
    p.listings.flatMap fun l => "" :: l.lines) ++ "\n"

/-- The options that a page lists, with the one for help. -/
def optionListing (options : List (String × String)) : Listing :=
  ⟨"Options:", options ++ [("-h, --help", "Print help")]⟩

def Topic.page : Topic → Page
  | .program => {
    about := "Generate JDBC ResultSet and PreparedStatement mapping code from Java fields"
    usage := "[OPTIONS] <COMMAND>"
    listings := [
      ⟨"Commands:", (Subcommand.all.map fun s => (s.word, s.about)) ++ [(helpWord, aboutHelp)]⟩,
      optionListing [(OptionName.verbose.label, Subcommand.readRows.describe .verbose)]] }
  | .subcommand s => {
    about := s.about
    usage := s.word ++ " [OPTIONS]"
    listings := [optionListing (s.options.map fun o => (o.label, s.describe o))] }
  | .help => {
    about := aboutHelp
    usage := helpWord ++ " [COMMAND]..."
    listings := [⟨"Arguments:", [("[COMMAND]...", "Print help for the subcommand(s)")]⟩] }

def Topic.text (t : Topic) : String := t.page.text

end RowBinding.CommandLine
