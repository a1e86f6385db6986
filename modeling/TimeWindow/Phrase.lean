import TimeWindow.Descriptor
import TimeWindow.Text.Lower
import TimeWindow.Text.Word

/-!
Windows in plain words. A phrase that looks back, such as `last 7 days`, wins wherever it stands;
its letters may be capitals, or one of the few letters that count as the same. Failing that, the
first of the fixed phrases that occurs in the text in small letters decides.
-/

namespace TimeWindow

namespace Phrase

inductive Fault
  | amount (e : Text.NumeralError)
  | unit (word : String)
deriving DecidableEq, Repr

def Fault.message : Fault → String
  | .amount e => e.message
  | .unit word => Text.quote word

structure Found where
  phrase : String
  descriptor : Descriptor
deriving DecidableEq, Repr

/-- The letter that a character counts as in a phrase: its small form, and the plain letter for an
undotted or dotted i, a long s and the Kelvin sign. -/
def foldLetter (c : Char) : Char :=
  if c = '\u0130' ∨ c = '\u0131' then 'i'
  else if c = '\u017F' then 's'
  else if c = '\u212A' then 'k'
  else c.toLower

def takeWord (word : String) (cs : List Char) : Option (List Char × List Char) :=
  let size := word.toList.length
  if (cs.take size).map foldLetter = word.toList then some (cs.take size, cs.drop size) else none

def takeRun (member : Char → Bool) (cs : List Char) : Option (List Char × List Char) :=
  if (cs.takeWhile member).isEmpty then none
  else some (cs.takeWhile member, cs.dropWhile member)

def unitWords : List (String × TimeUnit) :=
  [("min", .min), ("minute", .min), ("hour", .hour), ("day", .day), ("week", .week),
    ("month", .month), ("year", .year)]

structure LookBack where
  opening : List Char
  amount : Option (List Char × List Char)
  unit : List Char
  plural : List Char
deriving DecidableEq, Repr

def LookBack.text (p : LookBack) : List Char :=
  let amount := match p.amount with
    | none => []
    | some (digits, blanks) => digits ++ blanks
  p.opening ++ amount ++ p.unit ++ p.plural

def takeOpening (cs : List Char) : Option (List Char × List Char) := do
  let (word, cs) ← (takeWord "last" cs).or (takeWord "past" cs)
  let (blanks, cs) ← takeRun Text.isBlank cs
  return (word ++ blanks, cs)

def takeAmount (cs : List Char) : Option ((List Char × List Char) × List Char) := do
  let (digits, cs) ← takeRun Text.isDecimal cs
  let (blanks, cs) ← takeRun Text.isBlank cs
  return ((digits, blanks), cs)

def takeUnitWord (word : String) (cs : List Char) : Option (List Char × List Char) :=
  (takeWord word cs).bind fun (unit, cs) =>
    let (plural, cs) := (takeWord "s" cs).getD ([], cs)
    if Text.boundaryAfter cs then some (unit, plural) else none

def takeUnit (cs : List Char) : Option (List Char × List Char) :=
  unitWords.findSome? fun (word, _) => takeUnitWord word cs

def lookBackHere (cs : List Char) : Option LookBack := do
  let (opening, cs) ← takeOpening cs
  let (amount, cs) := match takeAmount cs with
    | some (amount, cs) => (some amount, cs)
    | none => (none, cs)
  let (unit, plural) ← takeUnit cs
  return { opening, amount, unit, plural }

/-- The first phrase that looks back and starts a word; `before` is the character to the left. -/
def findLookBack (before : Option Char) : List Char → Option LookBack
  | [] => none
  | c :: rest =>
    match if Text.boundaryBefore before then lookBackHere (c :: rest) else none with
    | some p => some p
    | none => findLookBack (some c) rest

def LookBack.count (p : LookBack) : Except Text.NumeralError Int :=
  match p.amount with
  | none => .ok 1
  | some (digits, _) => Text.readInteger (String.ofList digits)

def LookBack.timeUnit (p : LookBack) : Except Fault TimeUnit :=
  let word := Text.lower (String.ofList p.unit)
  match unitWords.lookup word with
  | some unit => .ok unit
  | none => .error (.unit word)

/-- A phrase that looks back is a window that is counted forward from before now. -/
def LookBack.found (p : LookBack) : Except Fault Found := do
  let count ← p.count.mapError .amount
  let unit ← p.timeUnit
  return ⟨String.ofList p.text, Window.descriptor ⟨unit, -count, .now⟩⟩

def fixed : List Found :=
  [⟨"today", .today⟩, ⟨"this week", .thisWeek⟩, ⟨"this month", .thisMonth⟩,
    ⟨"this year", .thisYear⟩]

def occursIn (part : List Char) : List Char → Bool
  | [] => part.isEmpty
  | c :: rest => part.isPrefixOf (c :: rest) || occursIn part rest

def findFixed (s : String) : Option Found :=
  fixed.find? fun f => occursIn f.phrase.toList (Text.lower s).toList

def parse (s : String) : Except Fault (Option Found) :=
  match findLookBack none s.toList with
  | some p => p.found.map some
  | none => .ok (findFixed s)

end Phrase

end TimeWindow
