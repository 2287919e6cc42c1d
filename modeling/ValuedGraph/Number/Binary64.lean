import ValuedGraph.Number.Fault

/-!
# Doubles as exact numbers

A finite double is `± m · 2 ^ e` with natural `m` and integer `e`. This file takes a
double apart and rounds such numbers to integers, with exact arithmetic throughout.

* `parts`: the decoding of the 64 bits.
* `roundQuotient`: a fraction to a neighbouring natural number, halves to the even one.
* `toInt`: a double to an integer under one of four directions, or the fault.
* `ofInt`, `ofQuotient`: an integer or a quotient of integers to the nearest double, or the
  fault that it is out of range.
-/

namespace ValuedGraph

/-- The weight of the sign bit, `2 ^ 63`. -/
def signWeight : Nat := 0x8000000000000000

/-- The weight of the bit that normal significands leave out, `2 ^ 52`. -/
def hiddenBit : Nat := 0x10000000000000

/-- **A double taken apart.** A finite one is `± significand · 2 ^ exponent`. -/
inductive Parts where
  | nan
  | infinite (negative : Bool)
  | finite (negative : Bool) (significand : Nat) (exponent : Int)
  deriving DecidableEq, Repr

namespace Parts

/-- Decodes the three bit fields of a double. -/
def ofBits (bits : Nat) : Parts :=
  let negative := bits / signWeight % 2 == 1
  let field : Nat := bits / hiddenBit % 2048
  let fraction := bits % hiddenBit
  if field = 2047 then
    if fraction = 0 then infinite negative else nan
  else if field = 0 then finite negative fraction (-1074)
  else finite negative (hiddenBit + fraction) (Int.ofNat field - 1075)

end Parts

/-- The parts of a double. -/
def parts (x : Float) : Parts := Parts.ofBits x.toBits.toNat

/-- Whether the sign bit is set, also on zeros. -/
def signBit (x : Float) : Bool := x.toBits.toNat / signWeight == 1

/-- `significand · 2 ^ exponent` as a fraction of natural numbers. -/
def fraction (significand : Nat) (exponent : Int) : Nat × Nat :=
  if 0 ≤ exponent then (significand * Nat.pow 2 exponent.toNat, 1)
  else (significand, Nat.pow 2 (-exponent).toNat)

/-- **The nearest natural number to a fraction;** a half goes to the even neighbour. -/
def roundQuotient (num den : Nat) : Nat :=
  let q := num / den
  let r := num % den
  if 2 * r < den then q
  else if den < 2 * r then q + 1
  else if q % 2 = 0 then q else q + 1

/-- Which neighbouring integer a number goes to. -/
inductive Direction where
  /-- the nearest one, halves to the even one -/
  | nearest
  /-- the largest one not above -/
  | down
  /-- the smallest one not below -/
  | up
  /-- the one next to it on the side of zero -/
  | towardZero
  deriving DecidableEq, Repr

/-- The integer next to `± num / den` in a direction. -/
def Direction.apply (d : Direction) (negative : Bool) (num den : Nat) : Int :=
  let below := num / den
  let above := if num % den = 0 then below else below + 1
  let size :=
    match d with
    | nearest => roundQuotient num den
    | down => if negative then above else below
    | up => if negative then below else above
    | towardZero => below
  if negative then -(size : Int) else size

/-- **A double to an integer.** NaN and the infinities have none. -/
def toInt (d : Direction) (x : Float) : Except NumericFault Int :=
  match parts x with
  | .nan => .error .nanToInteger
  | .infinite _ => .error .infinityToInteger
  | .finite negative m e =>
    let (num, den) := fraction m e
    .ok (d.apply negative num den)

/-- **The nearest double to an integer,** halves to the even significand. -/
def ofInt (n : Int) : Except NumericFault Float :=
  let x := Float.ofInt n
  if x.isInf then .error .integerTooLarge else .ok x

/-- **The nearest double to a quotient of integers,** halves to the even significand. The
quotient is taken after a shift that gives it more bits than a double holds; its last bit says
whether anything is left, so that no half is mistaken, and the shift is undone exactly. -/
def ofQuotient (num : Int) (den : Nat) : Except NumericFault Float :=
  let shift := 66 + den.log2 - num.natAbs.log2
  let scaled := num.natAbs * Nat.pow 2 shift
  let bits := scaled / den ||| (if scaled % den = 0 then 0 else 1)
  let size := Float.ofNat bits / Float.ofNat (Nat.pow 2 shift)
  if size.isInf then .error .quotientTooLarge else .ok (if num < 0 then -size else size)

/-- A double moved to an integral double in a direction; NaN and the infinities stay. The
result passes through an integer, so it is never a negative zero. -/
def toIntegral (d : Direction) (x : Float) : Float :=
  match toInt d x with
  | .ok n => Float.ofInt n
  | .error _ => x

def nan : Float := 0.0 / 0.0

def infinity : Float := 1.0 / 0.0

/-- The later of two numbers if it is strictly smaller, else the first: a NaN stays where it
is first and loses where it is second. -/
def smaller (a b : Float) : Float := if b < a then b else a

/-- The later of two numbers if it is strictly greater, else the first. -/
def greater (a b : Float) : Float := if a < b then b else a

end ValuedGraph
