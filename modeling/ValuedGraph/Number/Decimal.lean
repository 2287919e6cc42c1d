import ValuedGraph.Number.Binary64

/-!
# Decimal texts of doubles

A `Decimal` is `digits · 10 ^ exponent`. Two ways lead from a double to a decimal:

* `shortest`: the fewest digits that read back as the same double and, of those, the
  nearest to it;
* `significant`: a given number of significant digits, halves to the even one.

A `Style` says how a decimal is written. There are two: `Style.full`, which marks every
number as fractional, and `Style.short`, which does not.

* `fullText`: the shortest decimal in the full style.
* `shortText`: six significant digits in the short style.
* `roundPlaces`: a double rounded to a number of decimal places, again a double.
-/

namespace ValuedGraph

/-- The number `digits · 10 ^ exponent`. -/
structure Decimal where
  digits : Nat
  exponent : Int
  deriving DecidableEq, Repr

/-- The decimal digits of a natural number, most significant first. -/
def decimalDigits (n : Nat) : List Char := Nat.toDigits 10 n

/-- Drops up to the given number of trailing zeros. -/
def stripZeros : Nat → Nat → Int → Decimal
  | 0, n, k => ⟨n, k⟩
  | fuel + 1, n, k => if n % 10 = 0 && n != 0 then stripZeros fuel (n / 10) (k + 1) else ⟨n, k⟩

/-- The same number with no trailing zero among its digits. -/
def Decimal.normal (d : Decimal) : Decimal :=
  stripZeros (decimalDigits d.digits).length d.digits d.exponent

/-- Counts how often a fraction below one has to be multiplied by ten to reach one. -/
def leadingZeros (den : Nat) : Nat → Nat → Nat
  | 0, _ => 0
  | fuel + 1, num => if den ≤ num then 0 else leadingZeros den fuel (num * 10) + 1

/-- **The decimal magnitude** of a positive fraction: the `e` with
`10 ^ (e - 1) ≤ num / den < 10 ^ e`. Doubles need no more than 330 steps. -/
def magnitude (num den : Nat) : Int :=
  if den ≤ num then (decimalDigits (num / den)).length
  else 1 - (leadingZeros den 330 num : Int)

/-- A fraction measured in units of `10 ^ k`. -/
def scale (num den : Nat) (k : Int) : Nat × Nat :=
  if 0 ≤ k then (num, den * Nat.pow 10 k.toNat) else (num * Nat.pow 10 (-k).toNat, den)

/-- **The fewest digits that read back.** `m · 2 ^ e` is a positive finite double. With `n`
digits, the two neighbours of the double on the grid of its `n`-digit numbers are tried
against the interval of reals that round to the double, whose ends belong to it if `m` is
even. The first grid with a hit wins; of two hits the nearer one, of two equally near the
even one. Seventeen digits always suffice. -/
def shortest (m : Nat) (e : Int) : Decimal :=
  let (num, den) := fraction (4 * m) (e - 2)
  let (unit, _) := fraction 1 (e - 2)
  -- the spacing below a power of two is half of the spacing above it
  let lowGap := if m = hiddenBit && -1074 < e then unit else 2 * unit
  let highGap := 2 * unit
  let top := magnitude num den
  let closed := m % 2 == 0
  let attempt (n : Nat) : Option Decimal :=
    let k := top - n
    let (v, d) := scale num den k
    let (low, _) := scale (num - lowGap) den k
    let (high, _) := scale (num + highGap) den k
    let inside (c : Nat) : Bool :=
      if closed then low ≤ c * d && c * d ≤ high else low < c * d && c * d < high
    let below := v / d
    let above := below + 1
    match inside below, inside above with
    | true, true =>
      let toBelow := v - below * d
      let toAbove := above * d - v
      let c := if toBelow < toAbove then below
        else if toAbove < toBelow then above
        else if below % 2 = 0 then below else above
      some ⟨c, k⟩
    | true, false => some ⟨below, k⟩
    | false, true => some ⟨above, k⟩
    | false, false => none
  (((List.range 17).findSome? fun i => attempt (i + 1)).getD ⟨0, 0⟩).normal

/-- **A number of significant digits,** halves to the even one, of a positive fraction. -/
def significant (count num den : Nat) : Decimal :=
  let k := magnitude num den - count
  let (v, d) := scale num den k
  (Decimal.mk (roundQuotient v d) k).normal

/-- **How a decimal is written:** positionally if its first digit stands for a power of ten
at least `least` and below `limit`, else with an exponent. -/
structure Style where
  least : Int
  limit : Int
  /-- what follows the digits of a positional number without fractional digits -/
  integralTail : String

/-- Full texts are positional below `10 ^ 16` and keep `.0` on integral numbers. -/
def Style.full : Style := ⟨-4, 16, ".0"⟩

/-- Short texts are positional below `10 ^ 6` and leave integral numbers bare. -/
def Style.short : Style := ⟨-4, 6, ""⟩

/-- An exponent: a sign and at least two digits. -/
def exponentText (x : Int) : String :=
  let ds := decimalDigits x.natAbs
  let padded := if ds.length < 2 then '0' :: ds else ds
  (if x < 0 then "e-" else "e+") ++ String.ofList padded

/-- Writes a decimal without trailing zeros. Zero is written as the digit `0`. -/
def Style.write (style : Style) (d : Decimal) : String :=
  let ds := decimalDigits d.digits
  let point : Int := ds.length + d.exponent
  let lead := if d.digits = 0 then 0 else point - 1
  if style.least ≤ lead && lead < style.limit then
    if 0 ≤ d.exponent then
      String.ofList (ds ++ List.replicate d.exponent.toNat '0') ++ style.integralTail
    else if 0 < point then
      String.ofList (ds.take point.toNat ++ '.' :: ds.drop point.toNat)
    else
      "0." ++ String.ofList (List.replicate (-point).toNat '0' ++ ds)
  else
    let tail := ds.drop 1
    String.ofList (ds.take 1 ++ if tail.isEmpty then [] else '.' :: tail) ++ exponentText lead

/-- The text of a double from the text of its magnitude. -/
def signedText (x : Float) (write : Nat → Int → String) : String :=
  match parts x with
  | .nan => "nan"
  | .infinite negative => if negative then "-inf" else "inf"
  | .finite negative m e => (if negative then "-" else "") ++ write m e

/-- **The full text of a double,** which reads back as the same double. -/
def fullText (x : Float) : String :=
  signedText x fun m e => Style.full.write (if m = 0 then ⟨0, 0⟩ else shortest m e)

/-- **The short text of a double:** six significant digits. -/
def shortText (x : Float) : String :=
  signedText x fun m e =>
    let (num, den) := fraction m e
    Style.short.write (if m = 0 then ⟨0, 0⟩ else significant 6 num den)

/-- The list of full texts in brackets. -/
def fullTexts (xs : List Float) : String :=
  "[" ++ ", ".intercalate (xs.map fullText) ++ "]"

/-- **A decimal as the nearest double.** Numbers beyond every double are decided by their
magnitude, so no power of ten grows with the exponent. -/
def Decimal.toFloat (d : Decimal) : Float :=
  let top := (decimalDigits d.digits).length + d.exponent
  if d.digits = 0 then 0.0
  else if 400 < top then infinity
  else if top < -400 then 0.0
  else if 0 ≤ d.exponent then Float.ofScientific d.digits false d.exponent.toNat
  else Float.ofScientific d.digits true (-d.exponent).toNat

/-- **A double rounded to decimal places,** halves of the exact value to the even digit. -/
def roundPlaces (places : Nat) (x : Float) : Float :=
  match parts x with
  | .finite negative m e =>
    let (num, den) := fraction m e
    let size := (Decimal.mk (roundQuotient (num * Nat.pow 10 places) den) (-(places : Int))).toFloat
    if negative then -size else size
  | _ => x

end ValuedGraph
