import TimeWindow.Json.Printer
import TimeWindow.Vocabulary

/-!
The prompt that asks a language model for a window: fixed instructions, a marker, and the input as a
one-line document. Since a document on one line holds no line end, what follows the last marker is
the input, whatever the text says.
-/

namespace TimeWindow.Prompt

open Json (Value)

def instructionLines : List String :=
  ["You map a user's description of a reporting time window to a relative time descriptor.",
    "",
    "Rules:",
    "- Answer with a single JSON object and nothing else.",
    "- Shape: \x7b\"completed\": \x7b\"unit\": \"<unit>\", \"count\": <integer>, " ++
      "\"referenceTime\": \"<reference>\"\x7d\x7d",
    "- \"unit\" must be one of the allowed units listed in the input JSON.",
    "- \"referenceTime\" must be one of the allowed reference times listed in the input JSON.",
    "- Windows that look back from the current moment (\"last 3 hours\", \"past 2 weeks\")",
    "  use referenceTime \"now\" and a negative count " ++
      "(\"last 3 hours\" -> unit \"Hour\", count -3).",
    "- Calendar periods use count 1 and the matching reference:",
    "  today -> Day/today, this week -> Week/thisWeek, this month -> Month/thisMonth,",
    "  this year -> Year/thisYear.",
    "- If the text does not describe a time window, answer \x7b\"completed\": null\x7d."]

def instructions : String :=
  "\n".intercalate instructionLines ++ "\n"

def marker : String := "Input JSON:\n"

def input (text : String) (units references : List String) : Value :=
  .object [("text", .string text), ("allowed_units", .array (units.map .ofText)),
    ("allowed_reference_times", .array (references.map .ofText))]

def build (text : String) (units references : List String) : String :=
  instructions ++ "\n\n" ++ marker ++ (input text units references).compact

def forText (text : String) : String :=
  build text (TimeUnit.all.map (·.text)) (Reference.all.map (·.text))

def afterLast? (mark : List Char) : List Char → Option (List Char)
  | [] => none
  | c :: rest =>
    match afterLast? mark rest with
    | some later => some later
    | none =>
      if mark.isPrefixOf (c :: rest) then some ((c :: rest).drop mark.length) else none

def inputOf (prompt : String) : String :=
  match afterLast? marker.toList prompt.toList with
  | some input => String.ofList input
  | none => prompt

end TimeWindow.Prompt
