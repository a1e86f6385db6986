import TimeWindow.Completion

/-!
What a task does, as it is seen from outside. Tasks keep nothing from one to the next and look at
the clock once at most, so an outcome counts the looks and lists the rest in order.
-/

namespace TimeWindow

/-- What a task does: its result, what it reports, how often it looks at the clock, what it prints,
and what it asks a language model. -/
structure Outcome (α : Type) where
  result : Except Failure α
  events : List Event := []
  reads : Nat := 0
  printed : String := ""
  calls : List Call := []

def Outcome.map {α β : Type} (f : α → β) (o : Outcome α) : Outcome β where
  result := o.result.map f
  events := o.events
  reads := o.reads
  printed := o.printed
  calls := o.calls

def Outcome.say (text : String) : Outcome Unit := { result := .ok (), printed := text }

def Outcome.told {α : Type} (o : Outcome α) (text : Except Failure String) : Outcome Unit where
  result := text.map fun _ => ()
  events := o.events
  reads := o.reads
  printed := text.toOption.getD ""
  calls := o.calls

end TimeWindow
