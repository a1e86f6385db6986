/-!
Binary fractions, and arithmetic that keeps 53 significant bits of each result. Every result is the
representable number nearest to the exact one; halfway between two it is the one whose last bit is
zero. All is integer arithmetic, so a rounded value can be reasoned about exactly.
-/

namespace TimeWindow.Number

def pow2 (n : Nat) : Nat := Nat.pow 2 n

def pow10 (n : Nat) : Nat := Nat.pow 10 n

/-- The whole number nearest to a quotient, the even one of two equally near. -/
def roundDiv (num den : Nat) : Nat :=
  let q := num / den
  let r := num % den
  if 2 * r < den then q
  else if den < 2 * r then q + 1
  else if q % 2 = 0 then q else q + 1

/-- The place of the leading bit of a positive quotient: the power of two at or below it. -/
def leadingBit (num den : Nat) : Int :=
  let guess : Int := (Nat.log2 num : Int) - (Nat.log2 den : Int)
  if num * pow2 (-guess).toNat < den * pow2 guess.toNat then guess - 1 else guess

/-- The fraction `num / 2 ^ places`. -/
structure Binary where
  num : Int
  places : Nat
deriving DecidableEq, Repr

namespace Binary

def precision : Nat := 53

def lowestPlace : Int := -1074

def roundMagnitude (num den : Nat) : Binary :=
  let place := max lowestPlace (leadingBit num den - (precision - 1 : Nat))
  let bits := roundDiv (num * pow2 (-place).toNat) (den * pow2 place.toNat)
  ⟨(bits * pow2 place.toNat : Nat), (-place).toNat⟩

def round (num : Int) (den : Nat) : Binary :=
  let m := roundMagnitude num.natAbs den
  if num < 0 then ⟨-m.num, m.places⟩ else m

def add (a b : Binary) : Binary :=
  round (a.num * pow2 b.places + b.num * pow2 a.places) (pow2 (a.places + b.places))

def mul (a b : Binary) : Binary :=
  round (a.num * b.num) (pow2 (a.places + b.places))

def ofInt (n : Int) : Binary :=
  round n 1

def truncate (a : Binary) : Int :=
  a.num.tdiv (pow2 a.places)

def floor (a : Binary) : Int :=
  a.num / pow2 a.places

def same (a b : Binary) : Bool :=
  a.num * pow2 b.places = b.num * pow2 a.places

end Binary

end TimeWindow.Number
