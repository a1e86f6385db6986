import TimeWindow.Clock
import TimeWindow.Outcome

/-!
Tasks in their course, at a clock that runs. A task does one thing after another: it looks at the
clock whenever it needs the time, and each look takes the next reading. What has been done stays
done, and the first failure is the end of the task.
-/

namespace TimeWindow

def Outcome.before {α β : Type} (earlier : Outcome α) (later : Outcome β) : Outcome β where
  result := later.result
  events := earlier.events ++ later.events
  reads := earlier.reads + later.reads
  printed := earlier.printed ++ later.printed
  calls := earlier.calls ++ later.calls

/-- A task by the outcome that it comes to from each state of the clock. -/
structure Course (α : Type) where
  outcome : Clock → Outcome α

namespace Course

variable {α β : Type}

def andThen (task : Course α) (rest : α → Course β) : Course β where
  outcome clock :=
    let earlier := task.outcome clock
    match earlier.result with
    | .ok a => earlier.before ((rest a).outcome (clock.after earlier.reads))
    | .error e => earlier.before { result := .error e }

/-- A task that has no need of the time. -/
def settled (outcome : Outcome α) : Course α := ⟨fun _ => outcome⟩

instance : Monad Course where
  pure a := settled { result := .ok a }
  bind := andThen

def ofExcept (x : Except Failure α) : Course α := settled { result := x }

def tell (events : List Event) : Course Unit := settled { result := .ok (), events }

def say (text : String) : Course Unit := settled (.say text)

def look : Course Reading := ⟨fun clock => { result := .ok clock.next, reads := 1 }⟩

end Course

end TimeWindow
