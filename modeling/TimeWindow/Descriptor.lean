import TimeWindow.Count
import TimeWindow.Keyword
import TimeWindow.Window

/-!
Descriptors: a window together with the key it goes by. Built from its fields a descriptor goes by
its window's own key; read from a text it goes by that text. Two descriptors count as equal when
their keys are equal.
-/

namespace TimeWindow

open Json (Value)

structure Descriptor extends Window where
  key : String
deriving DecidableEq, Repr

def Window.descriptor (w : Window) : Descriptor :=
  { w with key := w.key }

inductive DescriptorError
  | keyword (e : KeywordError)
  | count (e : CountError)

def DescriptorError.message : DescriptorError → String
  | .keyword e => e.message
  | .count e => e.message

namespace Descriptor

/-- A descriptor from document values; the unit is looked at first and the count last. -/
def ofValues (unit count reference : Value) : Except DescriptorError Descriptor := do
  let unit ← (TimeUnit.ofValue unit).mapError .keyword
  let reference ← (Reference.ofValue reference).mapError .keyword
  let count ← (countOfValue count).mapError .count
  return Window.descriptor ⟨unit, count, reference⟩

def today : Descriptor := Window.descriptor ⟨.day, 1, .today⟩

def thisWeek : Descriptor := Window.descriptor ⟨.week, 1, .thisWeek⟩

def thisMonth : Descriptor := Window.descriptor ⟨.month, 1, .thisMonth⟩

def thisYear : Descriptor := Window.descriptor ⟨.year, 1, .thisYear⟩

def presets : List (String × Descriptor) :=
  [("today", today), ("this_week", thisWeek), ("this_month", thisMonth)]

/-- Descriptors are equal when their keys are. -/
def sameKey (a b : Descriptor) : Bool := a.key = b.key

def unknownLabel : String := "Unknown time"

def amountLabel (amount : Nat) (unit : TimeUnit) : String :=
  "Last " ++ Text.integerText amount ++ " " ++ unit.text ++ if amount = 1 then "" else "s"

def label (d : Descriptor) : String :=
  if d.reference = .now then amountLabel d.count.natAbs d.unit
  else if d.key = today.key then "Today"
  else if d.key = thisWeek.key then "This Week"
  else if d.key = thisMonth.key then "This Month"
  else unknownLabel

def toValue (d : Descriptor) : Value :=
  .object [("unit", .string d.unit.text), ("count", .int d.count),
    ("referenceTime", .string d.reference.text), ("key", .string d.key)]

end Descriptor

end TimeWindow
