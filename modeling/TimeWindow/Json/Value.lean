import TimeWindow.Number.Floating

/-!
Document values. Whole numbers are exact and apart from floating-point ones, and an object keeps
its fields in the order in which their names first came. A string may be broken: half of a pair that
stands for one character may stand in it alone.
-/

namespace TimeWindow.Json

/-- A string of a document: a text, or code points some of which are no characters. -/
inductive Literal
  | text (s : String)
  | broken (points : List Nat)
deriving DecidableEq, Repr, Inhabited

instance : Coe String Literal := ⟨.text⟩

namespace Literal

def ofPoints (points : List Nat) : Literal :=
  if ∀ n ∈ points, n.isValidChar then .text (String.ofList (points.map Char.ofNat))
  else .broken points

theorem ofPoints_toNat (s : String) : ofPoints (s.toList.map Char.toNat) = .text s := by
  have h : ∀ n ∈ s.toList.map Char.toNat, n.isValidChar := by
    intro n hn
    obtain ⟨c, _, rfl⟩ := List.mem_map.1 hn
    exact c.valid
  rw [ofPoints, if_pos h, List.map_map]
  simp [Function.comp_def]

def points : Literal → List Nat
  | .text s => s.toList.map Char.toNat
  | .broken points => points

/-- One string after another. Halves that meet stay apart. -/
protected def append : Literal → Literal → Literal
  | .text a, .text b => .text (a ++ b)
  | a, b => .broken (a.points ++ b.points)

instance : Append Literal := ⟨Literal.append⟩

theorem text_append_text (a b : String) : (.text a ++ .text b : Literal) = .text (a ++ b) := rfl

def repaired : Literal → String
  | .text s => s
  | .broken points =>
    String.ofList (points.map fun n => if n.isValidChar then Char.ofNat n else '\uFFFD')

end Literal

inductive Value
  | null
  | bool (b : Bool)
  | int (n : Int)
  | real (x : Number.Floating)
  | string (s : Literal)
  | array (items : List Value)
  | object (fields : List (Literal × Value))
deriving Repr, Inhabited

/-- Fields of an object, each name once. -/
abbrev Fields := List (Literal × Value)

namespace Fields

/-- The fields with one set: a name that is there keeps its place and takes the new value. -/
def insert (name : Literal) (v : Value) : Fields → Fields
  | [] => [(name, v)]
  | (n, w) :: rest => if n = name then (n, v) :: rest else (n, w) :: insert name v rest

def get? (name : Literal) : Fields → Option Value
  | [] => none
  | (n, v) :: rest => if n = name then some v else get? name rest

end Fields

namespace Value

def ofText (s : String) : Value := .string (.text s)

def field? (name : String) : Value → Option Value
  | .object fields => Fields.get? name fields
  | _ => none

def fieldOrNull (name : String) (v : Value) : Value :=
  (v.field? name).getD .null

def isObject : Value → Bool
  | .object _ => true
  | _ => false

def int? : Value → Option Int
  | .int n => some n
  | _ => none

def string? : Value → Option String
  | .string (.text s) => some s
  | _ => none

end Value

end TimeWindow.Json
