import TimeWindow.Completion
import TimeWindow.Template

/-!
The chat model that the environment names. Without one of its three variables there is no model, and
the program that wanted it ends. A question is a fixed instruction and a template with one gap, into
which the prompt is put.
-/

namespace TimeWindow

namespace ChatModel

structure Config where
  baseUrlKey : String := "LLM_BASE_URL"
  modelKey : String := "LLM_MODEL"
  apiKeyKey : String := "LLM_API_KEY"
  temperature : Number.Floating := .finite false ⟨0, 0⟩
  inputKey : String := "input"

def Config.template (config : Config) : Except Template.Fault (List Template.Piece) :=
  Template.read ("\x7b" ++ config.inputKey ++ "\x7d")

structure Connection where
  model : String
  baseUrl : String
  apiKey : String
  temperature : Number.Floating
  timeout : Option Int
deriving DecidableEq, Repr

def instruction : String :=
  "You convert descriptions of reporting time windows into JSON. Reply with JSON only."

def required (env : Environment) (name : String) : Except String String :=
  match env.lookup name with
  | some text => if text.isEmpty then .error name else .ok text
  | none => .error name

def connect (env : Environment) (config : Config) (timeout : Option Int) :
    Except String Connection := do
  let model ← required env config.modelKey
  let baseUrl ← required env config.baseUrlKey
  let apiKey ← required env config.apiKeyKey
  return { model, baseUrl, apiKey, temperature := config.temperature, timeout }

def missingRecord (name : String) : Record :=
  ⟨.error, "src.llm_client",
    "Missing environment variable " ++ Text.quote name ++ ", please check your .env file."⟩

def missingLine (name : String) : String :=
  s!"[Env error]: Missing environment variable '{name}', please check your .env file.\n"

def messages (prompt : String) : List (String × String) :=
  [("system", instruction), ("human", prompt)]

inductive Exchange
  | refused (e : Template.Fault)
  | answered (asked : List (String × String)) (reply : Reply)

def converse (config : Config) (template : List Template.Piece) :
    List String → List Reply → List Exchange
  | [], _ => []
  | prompt :: rest, replies =>
    match Template.fill config.inputKey prompt template with
    | .error e => .refused e :: converse config template rest replies
    | .ok question =>
      .answered (messages question) (replies.headD .exhausted) ::
        converse config template rest replies.tail

end ChatModel

end TimeWindow
