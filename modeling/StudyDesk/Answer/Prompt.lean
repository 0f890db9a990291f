/-
Module: StudyDesk.Answer.Prompt
Purpose: The fixed instruction that tells the inference service which JSON object to write.
Main exports:
  Prompt.instruction
-/
import StudyDesk.Answer.Classification

namespace StudyDesk.Prompt

/-- Names in quotes, with commas in between. -/
def quotedList (names : List String) : String :=
  String.intercalate ", " (names.map fun name => "\"" ++ name ++ "\"")

/-- The lines of the instruction for a list of topics. -/
def lines (topics : List String) : List String :=
  let kinds := quotedList (QuestionKind.all.map QuestionKind.name)
  let unknown := "\"" ++ Tag.unknownName ++ "\""
  ["You are the classifier and tutor for a computer science and math study assistant.",
    "",
    "Respond ONLY with a single JSON object. No markdown, no code fences, no text before or " ++
      "after it.",
    "The object must have exactly these fields:",
    "- \"valid\": boolean. Whether the query is in scope for the tutor.",
    "- \"reason\": string or null. A short explanation when \"valid\" is false; null when " ++
      "\"valid\" is true.",
    "- \"topic\": string or null. When \"valid\" is true, one of [" ++ quotedList topics ++
      "] or " ++ unknown ++ ". Null when \"valid\" is false.",
    "- \"type\": string or null. When \"valid\" is true, one of [" ++ kinds ++
      "]. Null when \"valid\" is false.",
    "- \"answer\": string or null. The tutoring answer when \"valid\" is true; null when " ++
      "\"valid\" is false.",
    "- \"keywords\": array of strings. A few short phrases summarizing the answer; [] when " ++
      "\"answer\" is null.",
    "",
    "Decision rules:",
    "1. Set \"valid\" to false ONLY when the query has no plausible connection to programming, " ++
      "computer science, or math.",
    "2. Otherwise set \"valid\" to true and map the query to the nearest topic, even if the " ++
      "connection is indirect.",
    "3. If no listed topic fits, set \"topic\" to " ++ unknown ++ ".",
    "4. When the topic is a listed topic, give a thorough, code-oriented answer with a short " ++
      "example.",
    "5. When the topic is " ++ unknown ++ ", give a concise, programming-focused answer.",
    "6. When \"valid\" is false, \"answer\" must be null, \"keywords\" must be [], and " ++
      "\"reason\" must be a short string.",
    "",
    "Use only the listed topic and type values, spelled exactly as shown."]

/-- The instruction for a registry.  A question is sent beside it, never inside it. -/
def instruction (registry : Registry) : String :=
  String.intercalate "\n" (lines registry.topics)

end StudyDesk.Prompt
