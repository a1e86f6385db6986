import Std.Time.Zoned.Database
import TimeWindow.Console

/-!
The dialogue at a terminal. Lines come from the standard input, warnings and errors of the log go to
the standard error output, and the clock shows the time of the zone that the machine is set to.
There is no way to a language model from here: one that is asked fails.
-/

namespace TimeWindow.Console

def variableNames : List String :=
  ["RELATIVE_TIME_FORCE_UNTIL_NOW", "RELATIVE_TIME_WEEK_START", "RELATIVE_TIME_FALLBACK_KEY",
    "ENABLE_LLM_COMPLETION", "LLM_COMPLETION_TIMEOUT_SECONDS", "LLM_COMPLETION_MAX_ATTEMPTS",
    "LLM_BASE_URL", "LLM_MODEL", "LLM_API_KEY"]

def readEnvironment : IO Environment :=
  variableNames.filterMapM fun name => do
    return (← IO.getEnv name).map (name, ·)

section

variable (rules : Std.Time.TimeZone.ZoneRules)

def typeAt (second : Int) : Std.Time.TimeZone.LocalTimeType :=
  rules.findLocalTimeTypeForTimestamp (.ofSecondsSinceUnixEpoch (.ofInt second))

/-- The seconds at which the rules of a machine may change: those that are listed, and after them
two in each year. -/
def turningSeconds : List Int :=
  let listed := rules.transitions.toList.map (·.time.val)
  match rules.transitionRule with
  | some ⟨_, standard, some ⟨_, daylight, some start, some finish⟩⟩ =>
    let turning (rule : Std.Time.TimeZone.TransitionRule) (before : Std.Time.TimeZone.Offset)
        (year : Nat) : Int :=
      (rule.spec.toEpochDay (.ofNat year)).val * 86400 + rule.time.val - before.second.val
    let yearly := (List.range 10000).flatMap fun year =>
      [turning start standard year, turning finish daylight year]
    (listed ++ yearly).mergeSort
  | _ => listed

def daylightOf : Calendar.Daylight :=
  let turn (kept : List Int × Bool) (second : Int) : List Int × Bool :=
    let now := (typeAt rules second).isDst
    if now = kept.2 then kept else (second :: kept.1, now)
  .listed ((turningSeconds rules).foldl turn ([], false)).1.reverse

end

/-- The zone that the machine is set to, as it looks from some second; universal time if there is
none. -/
def readZone (second : Int) : IO Calendar.Zone := do
  try
    let rules ← Std.Time.Database.defaultGetLocalZoneRules
    let distanceAt (t : Int) := (typeAt rules t).gmtOffset.second.val
    let year := 31557600
    let winter := second / year * year
    return (daylightOf rules).zone (distanceAt winter) (distanceAt (winter + year / 2))
  catch _ => return .utc

def readMicros : IO Int := do
  return (← Std.Time.Timestamp.now).toNanosecondsSinceUnixEpoch.val / 1000

def readClock : IO Reading := do
  return ⟨(Calendar.Wall.ofMicros? (← readMicros)).getD .first, false⟩

def logLine? : Event → Option String
  | .warned d => some (line d.record)
  | .logged r => if r.level = .debug then none else some (line r)
  | _ => none
where
  line (r : Record) : String := r.level.text ++ " " ++ r.logger ++ ": " ++ r.message

def writeLog (events : List Event) : IO Unit :=
  events.forM fun e => match logLine? e with
    | some line => IO.eprintln line
    | none => pure ()

def write (text : String) : IO Unit := do
  let output ← IO.getStdout
  output.putStr text
  output.flush

def finish : Ending → IO UInt32
  | .done => return 0
  | .status code => return code.toUInt32
  | .failed e => do
    IO.eprintln e.message
    return 1

partial def takeTurns (session : Session) (client : Option Client) : IO UInt32 := do
  write prompt
  let line ← (← IO.getStdin).getLine
  let reading ← readClock
  let t := if line.isEmpty then lastTurn else turn session client line reading
  writeLog t.outcome.events
  write t.outcome.printed
  match t.ending with
  | some ending => finish ending
  | none => takeTurns session (client.map (·.after t.outcome.calls.length))

end TimeWindow.Console

open TimeWindow in
def main : IO UInt32 := do
  let env ← Console.readEnvironment
  match Settings.options env with
  | .error e => Console.finish (.failed (.setting e))
  | .ok (options, diagnostics) =>
    Console.writeLog (Sink.log.report diagnostics)
    match Console.connection env with
    | .error ended =>
      Console.writeLog ended.events
      Console.write ended.printed
      Console.finish ended.ending
    | .ok connection =>
      Console.write Console.banner
      let zone ← Console.readZone ((← Console.readMicros) / 1000000)
      Console.takeTurns ⟨{ options, face := .universal zone }, env⟩ (connection.map fun _ => ⟨false, []⟩)
