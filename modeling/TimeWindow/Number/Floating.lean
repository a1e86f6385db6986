import TimeWindow.Number.Shortest

/-!
Floating-point numbers as documents hold them: read from a decimal, written in the fewest digits
that read back.
-/

namespace TimeWindow.Number

/-- A floating-point number; a finite one is a sign and a magnitude, so zero has two signs. -/
inductive Floating
  | notANumber
  | infinite (negative : Bool)
  | finite (negative : Bool) (magnitude : Binary)
deriving DecidableEq, Repr

namespace Floating

/-- Decimals whose leading digit stands at or above this power of ten are infinite, those at or
below its opposite are zero. -/
def reach : Int := 400

def topPlace : Nat := 1024

def ofDecimal (negative : Bool) (d : Decimal) : Floating :=
  let leading := d.exponent + Decimal.length d.digits
  if d.digits = 0 ∨ leading ≤ -reach then .finite negative ⟨0, 0⟩
  else if reach ≤ leading then .infinite negative
  else
    let m := Binary.roundMagnitude d.ratio.1 d.ratio.2
    if (pow2 topPlace * pow2 m.places : Nat) ≤ m.num then .infinite negative
    else .finite negative m

def dropZeros (digits : List Char) : List Char :=
  (digits.reverse.dropWhile (· = '0')).reverse

def pointed (digits : List Char) (point : Int) : List Char :=
  if point ≤ 0 then '0' :: '.' :: List.replicate (-point).toNat '0' ++ digits
  else
    let whole := point.toNat
    if digits.length ≤ whole then
      digits ++ List.replicate (whole - digits.length) '0' ++ ['.', '0']
    else digits.take whole ++ '.' :: digits.drop whole

def scientific (digits : List Char) (power : Int) : List Char :=
  let head := match digits with
    | [] => []
    | [d] => [d]
    | d :: rest => d :: '.' :: rest
  let size := Nat.toDigits 10 power.natAbs
  head ++ 'e' :: (if power < 0 then '-' else '+') ::
    (List.replicate (2 - size.length) '0' ++ size)

def magnitudeText (m : Binary) : List Char :=
  if m.num = 0 then ['0', '.', '0']
  else
    let d := Decimal.shortest m
    let all := Nat.toDigits 10 d.digits
    let point : Int := d.exponent + all.length
    let digits := dropZeros all
    if -4 < point ∧ point ≤ 16 then pointed digits point else scientific digits (point - 1)

def text (inf nan : String) : Floating → String
  | .notANumber => nan
  | .infinite negative => if negative then "-" ++ inf else inf
  | .finite negative m =>
    String.ofList (if negative then '-' :: magnitudeText m else magnitudeText m)

end Floating

end TimeWindow.Number
