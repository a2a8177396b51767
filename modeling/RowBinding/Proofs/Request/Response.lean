import RowBinding.Proofs.Config.RoundTrip
import RowBinding.Request.Json

/-!
# Answers in JSON

The answer to a request in JSON reads back as an object with one member, the code itself. A
request in its written form is answered with the code that the request gives.
-/
namespace RowBinding
open Json Text

/-- The tokens of an answer; it is written with line breaks and indented. -/
theorem tokens_responseText (code : String) :
    Json.tokens (responseText code).toList =
      [.openBrace, .string (some "code"), .colon, .string (some code), .closeBrace] := by
  have htext : (responseText code).toList = '\x7b' :: '\n' :: ' ' :: ' ' ::
      ((quote "code").toList ++ ':' :: ' ' :: ((quote code).toList ++ ['\n', '\x7d'])) := by
    have hkey : (quote "code").toList = ['"', 'c', 'o', 'd', 'e', '"'] := by decide
    simp [responseText, hkey]
  rw [htext, tokens_mark rfl rfl, tokens_blank rfl, tokens_blank rfl, tokens_blank rfl,
    tokens_quote, tokens_mark rfl rfl, tokens_blank rfl, tokens_quote, tokens_blank rfl,
    tokens_mark rfl rfl, Json.tokens]

/-- An answer decodes to an object whose one member is the code. -/
theorem parse?_responseText (code : String) :
    parse? (responseText code) = some (.object [("code", .string code)]) := by
  have hread : Outline.ofText (responseText code) =
      (.object [(some "code", .string (some code))] .closed, true) := by
    rw [Outline.ofText, tokens_responseText]
    rfl
  rw [parse?, hread]
  rfl

theorem generateJson_writeRequest (r : Request) :
    generateJson (Config.writeRequest r) = r.generate.map responseText := by
  rw [generateJson, Config.readRequest_writeRequest]

end RowBinding
