import RowBinding.Proofs.CommandLine.Effects
import RowBinding.Proofs.Request.Response

/-!
# Options and requests in JSON agree

A request can be made by calling the generator, by options on the command line with the naming
policy in a file, or by its written form on the standard input. All three give the same code or
the same sentence for what is wrong.
-/
namespace RowBinding.CommandLine
open Column Config Json

theorem decodeText_toUTF8 (text : String) : decodeText text.toUTF8 = .ok text := by
  have hvalid : text.toUTF8.IsValidUTF8 := text.isValidUTF8
  have hdecode : String.fromUTF8? text.toUTF8 = some text := by
    rw [String.fromUTF8?, dif_pos hvalid]
    rfl
  rw [decodeText, hdecode]

theorem policy_of_readPolicy {path text : String} {policy : NamingPolicy} {read : FileReader}
    (h : read path = .ok text.toUTF8) (hread : readPolicy text = .ok policy) :
    ({ file := some path } : NamingOptions).policy read = .ok policy := by
  have htext : read.readText path = .ok text := by
    rw [FileReader.readText, h]
    exact decodeText_toUTF8 text
  simp only [NamingOptions.policy, htext, bind, Except.bind, hread]
  rfl

theorem policy_of_written {path : String} {policy : NamingPolicy} {read : FileReader}
    (h : read path = .ok (writePolicy policy).toUTF8) :
    ({ file := some path } : NamingOptions).policy read = .ok policy :=
  policy_of_readPolicy h (readPolicy_writePolicy policy)

/-- Arguments that give options their values behind an equals sign. -/
def joined (given : List (OptionName × String)) : List String :=
  given.map fun (o, v) => "--" ++ o.long ++ "=" ++ v

def settingsOf (given : List (OptionName × String)) : List Setting :=
  given.map fun (o, v) => ⟨o, some v⟩

theorem spellsToEnd_joined {given : List (OptionName × String)}
    (hvalue : ∀ g ∈ given, g.1.isFlag = false) : SpellsToEnd (joined given) (settingsOf given) := by
  induction given with
  | nil => exact .nil
  | cons g given ih =>
    obtain ⟨hg, hgiven⟩ := List.forall_mem_cons.1 hvalue
    exact .cons (.alone (.longValue hg g.2)) (ih hgiven)

/-- A subcommand with options of its own, each given once with a value that it takes, is read as
asked. -/
theorem ofArguments?_joined {s : Subcommand} {given : List (OptionName × String)}
    (hvalue : ∀ g ∈ given, g.1.isFlag = false) (hknown : ∀ g ∈ given, g.1 ∈ s.options)
    (hacc : acceptable (settingsOf given) = true) :
    Invocation.ofArguments? (s.word :: joined given) =
      some (.ofSettings s (settingsOf given)) := by
  have hsettings : ∀ x ∈ settingsOf given, x.name ∈ s.options := by
    intro x hx
    obtain ⟨g, hg, rfl⟩ := List.mem_map.1 hx
    exact hknown g hg
  rw [ofArguments?_eq_some_iff_asked, asked_of_spellsToEnd (spellsToEnd_joined hvalue) hsettings,
    if_pos hacc]

/-- Two runs end as the generator does: with the code and with an answer that decodes to it, or
both with the sentence for what is wrong. Neither changes a file. -/
def EndAlike (generated : Except Failure String) (files files' : Files)
    (byOptions byRequest : Outcome) : Prop :=
  match generated with
  | .ok code =>
    byOptions = ⟨0, code ++ "\n", none, files⟩ ∧
      ∃ answer, byRequest = ⟨0, answer ++ "\n", none, files'⟩ ∧
        parse? answer = some (.object [("code", .string code)])
  | .error e =>
    byOptions = ⟨1, "", some ("error: " ++ e.message), files⟩ ∧
      byRequest = ⟨1, "", some ("error: " ++ e.message), files'⟩

theorem run_request (r : Request) (files : Files) :
    run ["request"] (writeRequest r).toUTF8 files =
      match r.generate with
      | .ok code => ⟨0, responseText code ++ "\n", none, files⟩
      | .error e => ⟨1, "", some ("error: " ++ e.message), files⟩ := by
  have hargs : Invocation.ofArguments? ["request"] = some ⟨.answerRequest, none, none⟩ := by
    decide
  have hresult : (⟨.answerRequest, none, none⟩ : Invocation).result (writeRequest r).toUTF8
      files.read = (r.generate.map responseText).mapError .failure := by
    rw [← generateJson_writeRequest, Invocation.result, Invocation.inputText, decodeText_toUTF8]
    rfl
  rw [run_of_ofArguments? hargs, Invocation.run, hresult]
  cases r.generate <;> rfl

/-- A run that prints the code of a request ends as a run on the request in its written form. -/
theorem endAlike_of_run {r : Request} {files files' : Files} {i : Invocation} {stdin : ByteArray}
    {args : List String} (hargs : Invocation.ofArguments? args = some i) (houtput : i.output = none)
    (hresult : i.result stdin files.read = r.generate.mapError .failure) :
    EndAlike r.generate files files' (run args stdin files)
      (run ["request"] (writeRequest r).toUTF8 files') := by
  rw [run_request, run_of_ofArguments? hargs]
  simp only [Invocation.run, hresult, houtput]
  cases r.generate with
  | ok code => exact ⟨rfl, responseText code, rfl, parse?_responseText code⟩
  | error e => exact ⟨rfl, rfl⟩

/-- Options on the command line, the written request on the standard input, and the generator
itself give the same code or the same sentence. -/
theorem options_and_requests_agree :
    (∀ (reader object text path : String) (policy : NamingPolicy) (files files' : Files),
      files.read? path = some (writePolicy policy).toUTF8 →
      let r := Request.read ⟨reader, object, text, some policy⟩
      EndAlike r.generate files files'
        (run ["rs-to-obj", "--reader=" ++ reader, "--object=" ++ object, "--naming=" ++ path]
          text.toUTF8 files)
        (run ["request"] (writeRequest r).toUTF8 files')) ∧
    ∀ (writer object text : String) (counter : Option String) (files files' : Files),
      let r := Request.bind ⟨writer, object, text, counter⟩
      EndAlike r.generate files files'
        (run (["obj-to-ps", "--writer=" ++ writer, "--object=" ++ object]
            ++ (counter.map fun c => "--counter=" ++ c).toList)
          text.toUTF8 files)
        (run ["request"] (writeRequest r).toUTF8 files') := by
  constructor
  · intro reader object text path policy files files' hread
    let given := [(OptionName.reader, reader), (.object, object), (.naming, path)]
    have hacc : acceptable (settingsOf given) = true := by
      simp [given, settingsOf, acceptable, OptionName.accepts, ne_empty_of_read? hread]
    have hargs : Invocation.ofArguments? (Subcommand.readRows.word :: joined given) = _ :=
      ofArguments?_joined (by simp [given, OptionName.isFlag])
        (by simp [given, Subcommand.options]) hacc
    have hinvocation : Invocation.ofSettings .readRows (settingsOf given) =
        ⟨.readRows reader object { file := some path }, none, none⟩ := rfl
    rw [hinvocation] at hargs
    refine endAlike_of_run hargs rfl ?_
    simp only [Invocation.result, Invocation.inputText, decodeText_toUTF8, bind, Except.bind,
      policy_of_written (read?_eq_some_iff.1 hread)]
  · intro writer object text counter files files'
    let given := [(OptionName.writer, writer), (.object, object)] ++
      (counter.map fun c => (.counter, c)).toList
    have hargs' : "obj-to-ps" :: joined given =
        ["obj-to-ps", "--writer=" ++ writer, "--object=" ++ object]
            ++ (counter.map fun c => "--counter=" ++ c).toList := by
      cases counter <;> rfl
    have hacc : acceptable (settingsOf given) = true := by
      cases counter <;> simp [given, settingsOf, acceptable, OptionName.accepts]
    have hargs : Invocation.ofArguments? (Subcommand.bindParameters.word :: joined given) = _ :=
      ofArguments?_joined (by cases counter <;> simp [given, OptionName.isFlag])
        (by cases counter <;> simp [given, Subcommand.options]) hacc
    have hinvocation : Invocation.ofSettings .bindParameters (settingsOf given) =
        ⟨.bindParameters writer object counter, none, none⟩ := by
      cases counter <;> rfl
    rw [hinvocation] at hargs
    rw [← hargs']
    refine endAlike_of_run hargs rfl ?_
    simp only [Invocation.result, Invocation.inputText, decodeText_toUTF8, bind, Except.bind]

theorem options_and_requests_agree_with_lower_case :
    let policy : NamingPolicy := { generateNames := true, columnCase := .lower }
    let files : Files := { root := [("naming.json", .file (writePolicy policy).toUTF8)] }
    let r := Request.read ⟨"row", "person", "private long personId;", some policy⟩
    files.read? "./naming.json" = some (writePolicy policy).toUTF8 ∧
      EndAlike r.generate files {}
        (run ["rs-to-obj", "--reader=" ++ "row", "--object=" ++ "person",
          "--naming=" ++ "./naming.json"] "private long personId;".toUTF8 files)
        (run ["request"] (writeRequest r).toUTF8 {}) := by
  intro policy files r
  have hread : files.read? "./naming.json" = some (writePolicy policy).toUTF8 := rfl
  exact ⟨hread, options_and_requests_agree.1 "row" "person" "private long personId;"
    "./naming.json" policy files {} hread⟩

end RowBinding.CommandLine
