import TimeWindow.Json.Token

/-!
Reading documents. The tokens are taken one after another; a container that is still open waits on
a stack with what it holds so far. Of two fields with one name the later one counts. Containers may
be nested only so deep.
-/

namespace TimeWindow.Json

/-- A container that is still open: an array with its items, the last one first, or an object with
its fields and the name whose value is being read. -/
inductive Frame
  | array (items : List Value)
  | object (fields : Fields) (name : Literal)

inductive Expecting
  | value (stack : List Frame)
  | firstItem (stack : List Frame)
  | firstName (stack : List Frame)
  | nextName (fields : Fields) (stack : List Frame)
  | colon (fields : Fields) (name : Literal) (stack : List Frame)
  | separator (last : Value) (stack : List Frame)

namespace Expecting

def startValue (stack : List Frame) : Token → Option Expecting
  | .openArray => some (.firstItem stack)
  | .openObject => some (.firstName stack)
  | .scalar v => some (.separator v stack)
  | _ => none

def step : Expecting → Token → Option Expecting
  | .value stack, token => startValue stack token
  | .firstItem stack, .closeArray => some (.separator (.array []) stack)
  | .firstItem stack, token => startValue (.array [] :: stack) token
  | .firstName stack, .closeObject => some (.separator (.object []) stack)
  | .firstName stack, .scalar (.string name) => some (.colon [] name stack)
  | .nextName fields stack, .scalar (.string name) => some (.colon fields name stack)
  | .colon fields name stack, .colon => some (.value (.object fields name :: stack))
  | .separator v (.array items :: stack), .comma => some (.value (.array (v :: items) :: stack))
  | .separator v (.array items :: stack), .closeArray =>
    some (.separator (.array (v :: items).reverse) stack)
  | .separator v (.object fields name :: stack), .comma =>
    some (.nextName (fields.insert name v) stack)
  | .separator v (.object fields name :: stack), .closeObject =>
    some (.separator (.object (fields.insert name v)) stack)
  | _, _ => none

end Expecting

def ofTokens (tokens : List Token) : Option Value :=
  match tokens.foldlM Expecting.step (.value []) with
  | some (.separator v []) => some v
  | _ => none

def maxDepth : Nat := 990

/-- How many containers are open at most along a run of tokens, of which `depth` are open before. -/
def deepest (depth : Nat) : List Token → Nat
  | [] => depth
  | .openArray :: rest | .openObject :: rest => deepest (depth + 1) rest
  | .closeArray :: rest | .closeObject :: rest => Nat.max depth (deepest (depth - 1) rest)
  | _ :: rest => deepest depth rest

def read (s : String) : Option Value :=
  (Token.all s.toList).bind fun tokens =>
    if deepest 0 tokens ≤ maxDepth then ofTokens tokens else none

end TimeWindow.Json
