import AliasBinding.Json.Value

/-!
# Numerals

A numeral is the written form of a JSON number.  One without fraction and exponent is an
integer if it fits 64 bits, with or without a sign; minus zero does not, and is a double like
every other number.

The double of a numeral is found in two roundings.  As many leading digits as fit 64 bits are
rounded to a double, the rest only count towards the power of ten, and the double is then
multiplied or divided by that power.  A numeral whose double is infinite has no value.
-/

namespace AliasBinding.Json

/-- The written form of a number; digits are digit values. -/
structure Numeral where
  negative : Bool
  whole : List Nat
  /-- The digits after the point, when there is a point. -/
  fraction? : Option (List Nat)
  /-- The exponent, as its sign (negative or not) and its digits, when there is one. -/
  exponent? : Option (Bool × List Nat)
  deriving DecidableEq, Repr

namespace Numeral

/-- The number with the given digits. -/
def ofDigits (digits : List Nat) : Nat := digits.foldl (fun n d => 10 * n + d) 0

/-- Appends digits to `n` as long as the result stays below `2 ^ 64`; gives the result and the
number of digits left over. -/
def absorb (n : Nat) : List Nat → Nat × Nat
  | [] => (n, 0)
  | d :: rest =>
    if 10 * n + d < UInt64.size then absorb (10 * n + d) rest else (n, rest.length + 1)

/-- The leading digits that fit 64 bits, and the power of ten that goes with them. -/
def significand (n : Numeral) : Nat × Int :=
  let (whole, beyond) := absorb 0 n.whole
  let fraction := n.fraction?.getD []
  let (digits, unused) := absorb whole fraction
  (digits, beyond - (fraction.length - unused : Nat))

/-- The power of ten that is written. -/
def writtenExponent (n : Numeral) : Int :=
  match n.exponent? with
  | some (true, digits) => -ofDigits digits
  | some (false, digits) => ofDigits digits
  | none => 0

/-- The double nearest to `10 ^ e`, for `e` up to 308. -/
def powerOfTen (e : Nat) : Float := Float.ofScientific 1 false e

/-- The double `x · 10 ^ e`, rounded; none when it is infinite. -/
def scale? (x : Float) (e : Int) : Option Float :=
  if x == 0 then some x
  else if 308 < e then none
  else if 0 ≤ e then
    let y := x * powerOfTen e.toNat
    if y.isInf then none else some y
  else if -308 ≤ e then some (x / powerOfTen (-e).toNat)
  else if -616 ≤ e then some (x / powerOfTen 308 / powerOfTen (-e - 308).toNat)
  else some 0

/-- The double of a numeral; none when it is infinite. -/
def toFloat? (n : Numeral) : Option Float :=
  let (digits, power) := n.significand
  (scale? (Float.ofNat digits) (power + n.writtenExponent)).map fun x =>
    if n.negative then -x else x

/-- The integer of a numeral that stands for one. -/
def toInteger? (n : Numeral) : Option Int :=
  match n.fraction?, n.exponent? with
  | none, none =>
    let value := ofDigits n.whole
    if n.negative then if 0 < value && 2 * value ≤ UInt64.size then some (-value) else none
    else if value < UInt64.size then some value else none
  | _, _ => none

/-- The value of a numeral; none when it is infinite. -/
def toJson? (n : Numeral) : Option Json :=
  match n.toInteger? with
  | some i => some (.integer i)
  | none => n.toFloat?.map .float

end Numeral

end AliasBinding.Json
