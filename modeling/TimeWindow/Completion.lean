import TimeWindow.Failure
import TimeWindow.Json.Reader
import TimeWindow.Prompt

/-!
Windows from a language model. The model is asked a few times with the same prompt, until an answer
is acceptable: a document whose `completed` names a unit and a reference of the vocabulary and gives
a whole number. An answer that is not leaves the reason in the log. A whole number with too many
digits cannot be written out; each one that is written on the way is looked at, so that asking fails
where writing it would.
-/

namespace TimeWindow

open Json (Value)

/-- What a model gives back: a text, bytes, by the text that they stand for if they stand for one, a
value that is neither, or a failure. -/
inductive Reply
  | text (s : String)
  | bytes (decoded : Option String)
  | value (v : Value)
  | failure (message : String)

def Reply.exhausted : Reply := .failure "no more responses"

def Reply.text? : Reply → Option String
  | .text s => some s
  | .bytes decoded => decoded
  | _ => none

structure Client where
  /-- The seconds that an answer may take are passed along with the prompt. -/
  takesTimeout : Bool
  replies : List Reply

def Client.after (client : Client) (calls : Nat) : Client :=
  { client with replies := client.replies.drop calls }

structure Call where
  prompt : String
  timeout : Option Int
deriving DecidableEq, Repr

namespace Completion

inductive Rejection
  | unreadable | missing | invalid
deriving DecidableEq, Repr

def Rejection.text : Rejection → String
  | .unreadable => "llm_or_parse_failure"
  | .missing => "missing_completed"
  | .invalid => "invalid_descriptor"

def Rejection.record (r : Rejection) : Record :=
  ⟨.debug, "src.relative_time.llm_enricher", "relative time completion failed: " ++ r.text⟩

def document? (reply : Reply) : Option Value :=
  reply.text?.bind Json.read

abbrev Verdict := Except Rejection Window × List Diagnostic

/-- The window of a completed object. It goes through a key, so that no text but a word of the
vocabulary passes. -/
def window (completed : Value) : Except CountError Verdict :=
  match (completed.fieldOrNull "count").int? with
  | none => .ok (.error .invalid, [])
  | some count => do
    let unit ← written (completed.fieldOrNull "unit")
    let reference ← written (completed.fieldOrNull "referenceTime")
    let count ← countOf count
    match Key.decode (.string (Key.spell unit count reference)) with
    | .ok w =>
      let count ← countOf w.count
      return (.ok { w with count }, [])
    | .error (.reported d) => return (.error .invalid, [d])
    | .error (.failed e) => .error e

def judge (reply : Reply) : Except CountError Verdict :=
  match document? reply with
  | none => .ok (.error .unreadable, [])
  | some v =>
    let completed := v.fieldOrNull "completed"
    if completed.isObject then window completed else .ok (.error .missing, [])

structure Result where
  window : Except Failure (Option Window)
  calls : Nat
  events : List Event

def Result.nothing : Result := ⟨.ok none, 0, []⟩

def Result.failed (e : Failure) : Result := ⟨.error e, 0, []⟩

def Result.after (events : List Event) (r : Result) : Result :=
  ⟨r.window, r.calls + 1, events ++ r.events⟩

def ask : Nat → List Reply → Result
  | 0, _ => .nothing
  | attempts + 1, replies =>
    match judge (replies.headD .exhausted) with
    | .ok (.ok w, diagnostics) => ⟨.ok (some w), 1, Sink.log.report diagnostics⟩
    | .ok (.error r, diagnostics) =>
      .after (Sink.log.report diagnostics ++ [.logged r.record]) (ask attempts replies.tail)
    | .error e => .after [] (.failed (.count e))

/-- The replies to a model that is asked. The time that an answer may take is looked up with each
question, so without it there are none. -/
def repliesTo (env : Environment) (client : Client) : List Reply :=
  match Settings.completionTimeout env with
  | .ok _ => client.replies
  | .error _ => []

def run (env : Environment) (client : Option Client) : Result :=
  match Settings.completionEnabled env, client with
  | .error e, _ => .failed (.setting e)
  | .ok true, some client =>
    match Settings.completionAttempts env with
    | .ok attempts => ask attempts.toNat (repliesTo env client)
    | .error e => .failed (.setting e)
  | .ok _, _ => .nothing

def calls (env : Environment) (client : Option Client) (text : String) : List Call :=
  match client, Settings.completionTimeout env with
  | some c, .ok timeout =>
    let timeout := if c.takesTimeout then some timeout else none
    List.replicate (run env client).calls ⟨Prompt.forText text, timeout⟩
  | _, _ => []

end Completion

end TimeWindow
