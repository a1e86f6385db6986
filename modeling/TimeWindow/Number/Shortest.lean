import TimeWindow.Number.Binary

/-!
The shortest decimal of a positive binary fraction: the fewest digits that round back to it and, of
the decimals with so many digits, the nearest one.
-/

namespace TimeWindow.Number

/-- The number `digits * 10 ^ exponent`. -/
structure Decimal where
  digits : Nat
  exponent : Int
deriving DecidableEq, Repr

namespace Decimal

def ratio (d : Decimal) : Nat × Nat :=
  (d.digits * pow10 d.exponent.toNat, pow10 (-d.exponent).toNat)

def readsBack (a : Binary) (d : Decimal) : Bool :=
  (Binary.roundMagnitude d.ratio.1 d.ratio.2).same a

def length (n : Nat) : Nat :=
  (Nat.toDigits 10 n).length

def leadingPlace (num den : Nat) : Int :=
  if den ≤ num then (length (num / den) : Int) - 1
  else -(length ((den + num - 1) / num - 1) : Int)

def onGrid (a : Binary) (exponent : Int) : Option Decimal :=
  let num := a.num.natAbs * pow10 (-exponent).toNat
  let den := pow2 a.places * pow10 exponent.toNat
  let below : Decimal := ⟨num / den, exponent⟩
  let above : Decimal := ⟨num / den + 1, exponent⟩
  let nearBelow := 2 * (num % den) < den || (2 * (num % den) = den && num / den % 2 = 0)
  match readsBack a below, readsBack a above with
  | true, true => some (if nearBelow then below else above)
  | true, false => some below
  | false, true => some above
  | false, false => none

def enough : Nat := 17

def shortest (a : Binary) : Decimal :=
  let top := leadingPlace a.num.natAbs (pow2 a.places)
  ((List.range enough).findSome? fun (n : Nat) => onGrid a (top - (n : Nat))).getD ⟨0, 0⟩

end Decimal

end TimeWindow.Number
