import TimeWindow.ChatModel
import TimeWindow.Session

/-!
The dialogue on the command line. Each line is a command or a phrase and is answered on its own; a
blank line is passed over, and the dialogue ends with `/exit` or with the input.
-/

namespace TimeWindow

open Json (Value)

namespace Console

def banner : String :=
  "=== Relative Time CLI ===\n" ++
  "指令：/exit  /presets  /encode <Unit> <count> <referenceTime>  /resolve <key>  /label <key>  " ++
  "<phrase>\n" ++
  "-------------------------------------------\n"

def prompt : String := "You> "

def farewell : String := "Bye.\n"

def emptyRangeNote : String :=
  "[note] empty range: a negative count with referenceTime=(now) points past now and the end is " ++
  "truncated to now; use a positive count (e.g. count=(7)) to look back\n"

inductive Command
  | exit
  | presets
  | encode (arguments : List String)
  | resolve (key : String)
  | label (key : String)
  | phrase (text : String)
deriving DecidableEq, Repr

def argument? (word line : String) : Option String :=
  ((word ++ " ").toList.isPrefixOf? line.toList).map String.ofList

def Command.ofLine? (line : String) : Option Command :=
  let line := Text.trim line
  if line.isEmpty then none
  else if line = "/exit" then some .exit
  else if line = "/presets" then some .presets
  else
    match argument? "/encode" line, argument? "/resolve" line, argument? "/label" line with
    | some rest, _, _ => some (.encode (Text.words rest))
    | _, some rest, _ => some (.resolve (Text.trim rest))
    | _, _, some rest => some (.label (Text.trim rest))
    | _, _, _ => some (.phrase line)

def padded (width : Nat) (s : String) : String :=
  s ++ String.ofList (List.replicate (width - s.length) ' ')

def presetLines : String :=
  String.join (Descriptor.presets.map fun (name, d) =>
    padded 10 name ++ " " ++ d.key ++ "  (" ++ d.label ++ ")\n")

def encoded : List String → String
  | [unit, count, reference] =>
    match Text.readInteger count with
    | .ok n => Key.write unit n reference ++ "\n"
    | .error _ => "[usage] count must be an integer\n"
  | _ => "[usage] /encode <Unit> <count> <referenceTime>\n"

variable (session : Session)

def shownWith (document : Value) (range : Range) : String :=
  document.pretty ++ "\n" ++ if range.isEmpty then emptyRangeNote else ""

def resolved (key : String) (reading : Reading) : Outcome Unit :=
  let parsed := session.resolver.parse (.string key)
  match parsed.result with
  | .error e => { parsed with result := .error e }
  | .ok d =>
    let outcome := session.resolver.resolve (.descriptor d) reading
    let told := outcome.told do
      let range ← outcome.result
      let value ← range.toValue.mapError .calendar
      return shownWith (.object [("key", .string d.key), ("range", value)]) range
    { told with events := parsed.events ++ told.events }

def normalized (client : Option Client) (text : String) (reading : Reading) : Outcome Unit :=
  let setup : Normalization.Setup := ⟨session.resolver, session.environment, client, false⟩
  let outcome := Normalization.run setup text reading
  outcome.told <| match outcome.result with
    | .ok n => .ok ("Normalized>\n" ++ shownWith n.toValue n.range)
    | .error (.noWindow text) =>
      .ok ("[normalize error] " ++ (Failure.noWindow text).message ++ "\n")
    | .error e => .error e

def answer (client : Option Client) (command : Command) (reading : Reading) : Outcome Unit :=
  match command with
  | .exit => .say farewell
  | .presets => .say presetLines
  | .encode arguments => .say (encoded arguments)
  | .resolve key => resolved session key reading
  | .label key =>
    let outcome := session.resolver.label (.key (.string key))
    outcome.told (outcome.result.map (· ++ "\n"))
  | .phrase text => normalized session client text reading

inductive Ending
  | done
  | status (code : Nat)
  | failed (e : Failure)

structure Turn where
  outcome : Outcome Unit
  ending : Option Ending

def turn (client : Option Client) (line : String) (reading : Reading) : Turn :=
  match Command.ofLine? line with
  | none => ⟨.say "", none⟩
  | some .exit => ⟨answer session client .exit reading, some .done⟩
  | some command =>
    let outcome := answer session client command reading
    ⟨outcome, match outcome.result with
      | .ok () => none
      | .error e => some (.failed e)⟩

def lastTurn : Turn := ⟨.say ("\n" ++ farewell), some .done⟩

structure Transcript where
  printed : String
  ending : Ending
  events : List Event
  reads : Nat
  calls : List Call

def Transcript.after (o : Outcome Unit) (t : Transcript) : Transcript where
  printed := prompt ++ o.printed ++ t.printed
  ending := t.ending
  events := o.events ++ t.events
  reads := o.reads + t.reads
  calls := o.calls ++ t.calls

def Transcript.final (o : Outcome Unit) (ending : Ending) : Transcript where
  printed := prompt ++ o.printed
  ending
  events := o.events
  reads := o.reads
  calls := o.calls

def dialogue (client : Option Client) (clock : Clock) : List String → Transcript
  | [] => .final lastTurn.outcome .done
  | line :: rest =>
    let t := turn session client line clock.next
    match t.ending with
    | some ending => .final t.outcome ending
    | none =>
      let client := client.map (·.after t.outcome.calls.length)
      .after t.outcome (dialogue client (clock.after t.outcome.reads) rest)

/-- The lines of a text; a line end after the last line starts no further one. -/
def linesOf (line : List Char) : List Char → List String
  | [] => if line.isEmpty then [] else [String.ofList line.reverse]
  | c :: rest =>
    if c = '\n' then String.ofList line.reverse :: linesOf [] rest else linesOf (c :: line) rest

/-- The model that the dialogue may ask, or the transcript of a run that ends before the dialogue.
-/
def connection (env : Environment) : Except Transcript (Option ChatModel.Connection) := do
  let failed (e : Settings.Fault) : Transcript := ⟨"", .failed (.setting e), [], 0, []⟩
  if ← (Settings.completionEnabled env).mapError failed then
    let timeout ← (Settings.completionTimeout env).mapError failed
    let missing (name : String) : Transcript :=
      ⟨ChatModel.missingLine name, .status 1, [.logged (ChatModel.missingRecord name)], 0, []⟩
    ((ChatModel.connect env {} (some timeout)).mapError missing).map some
  else return none

def run (replies : List Reply) (clock : Clock) (input : String) :
    Option ChatModel.Connection × Transcript :=
  match connection session.environment with
  | .error ended => (none, ended)
  | .ok connection =>
    let client := connection.map fun _ => { takesTimeout := false, replies }
    let t := dialogue session client clock (linesOf [] input.toList)
    (connection, { t with printed := banner ++ t.printed })

end Console

end TimeWindow
