import ValuedGraph.Number.Reading
import ValuedGraph.Number.Sum
import ValuedGraph.Text.Lowercase
import ValuedGraph.Text.Quoted

/-!
# Colors

A color has red, green and blue channels and an alpha. Expressions only carry numbers, so a
color travels as one number, `0xRRGGBBAA` with alpha as a byte.

* `Color.ofText`: a color from its name, its hexadecimal or its functional form.
* `Color.pack`, `Color.unpack`: a color as one number and back.
* `Color.make`: a color with every channel brought into its range.
* `Color.mix`, `Color.interpolate`: averages of colors.
-/

namespace ValuedGraph

/-- **A color.** Channels are meant to lie in `0..255` and alpha in `0..1`. -/
structure Color where
  red : Int
  green : Int
  blue : Int
  alpha : Float := 1.0
  deriving Inhabited

/-- Why a text is no color. -/
inductive ColorError where
  /-- hexadecimal digits in a wrong number, or other characters -/
  | badHex (text : String)
  /-- a functional form with a wrong number of parts, or parts that are no numbers -/
  | badParts (text : String)
  /-- neither a known form nor a known name -/
  | unknown (text : String)
  /-- a part is a number that is no channel -/
  | numeric (fault : NumericFault)
  deriving DecidableEq, Repr

/-- The wording of a color error. -/
def ColorError.message : ColorError → String
  | badHex text => "Invalid hex color: " ++ quoted text
  | badParts text => "Invalid color: " ++ quoted text
  | unknown text => "Unknown color: " ++ quoted text
  | numeric fault => fault.message

/-- **The bits of either number,** negative numbers having infinitely many leading ones. -/
def bitOr : Int → Int → Int
  | .ofNat a, .ofNat b => .ofNat (a ||| b)
  | .negSucc a, .negSucc b => .negSucc (a &&& b)
  | .ofNat a, .negSucc b => .negSucc (b ^^^ (a &&& b))
  | .negSucc a, .ofNat b => .negSucc (a ^^^ (a &&& b))

namespace Color

def black : Color := { red := 0, green := 0, blue := 0 }

/-- The named colors. -/
def named : List (String × Nat × Nat × Nat) :=
  [("black", 0, 0, 0), ("white", 255, 255, 255), ("red", 255, 0, 0), ("green", 0, 128, 0),
   ("lime", 0, 255, 0), ("blue", 0, 0, 255), ("yellow", 255, 255, 0), ("cyan", 0, 255, 255),
   ("aqua", 0, 255, 255), ("magenta", 255, 0, 255), ("fuchsia", 255, 0, 255),
   ("gray", 128, 128, 128), ("grey", 128, 128, 128), ("silver", 192, 192, 192),
   ("lightgray", 211, 211, 211), ("darkgray", 169, 169, 169), ("maroon", 128, 0, 0),
   ("olive", 128, 128, 0), ("navy", 0, 0, 128), ("purple", 128, 0, 128), ("teal", 0, 128, 128),
   ("orange", 255, 165, 0), ("gold", 255, 215, 0), ("pink", 255, 192, 203),
   ("brown", 165, 42, 42), ("indigo", 75, 0, 130), ("violet", 238, 130, 238),
   ("coral", 255, 127, 80), ("salmon", 250, 128, 114), ("tomato", 255, 99, 71),
   ("crimson", 220, 20, 60), ("khaki", 240, 230, 140), ("turquoise", 64, 224, 208),
   ("skyblue", 135, 206, 235), ("steelblue", 70, 130, 180), ("darkgreen", 0, 100, 0),
   ("darkblue", 0, 0, 139), ("darkred", 139, 0, 0), ("orchid", 218, 112, 214),
   ("plum", 221, 160, 221), ("beige", 245, 245, 220), ("ivory", 255, 255, 240)]

/-- The nearest integer, brought into `0..255`. -/
def clampChannel (x : Float) : Except NumericFault Int := do
  let n ← toInt .nearest x
  return max 0 (min 255 n)

/-- A number brought into `0..1`. NaN becomes one. -/
def clampUnit (x : Float) : Float := greater 0.0 (smaller 1.0 x)

/-- **A color with every channel brought into its range.** -/
def make (r g b a : Float) : Except NumericFault Color := do
  let red ← clampChannel r
  let green ← clampChannel g
  let blue ← clampChannel b
  return { red, green, blue, alpha := clampUnit a }

/-- The channels of an even number of hexadecimal digits. -/
def pairChannels : List Char → Option (List Int)
  | [] => some []
  | [_] => none
  | a :: b :: rest => do
    let n ← readHex? [a, b]
    let ns ← pairChannels rest
    return n :: ns

/-- A text of digits after a hash sign. A single digit stands for itself twice. -/
def ofHexDigits (text : String) (digits : List Char) : Except ColorError Color :=
  let full :=
    if digits.length = 3 || digits.length = 4 then digits.flatMap fun c => [c, c] else digits
  if full.length = 6 || full.length = 8 then
    match pairChannels full with
    | some [r, g, b] => .ok { red := r, green := g, blue := b }
    | some [r, g, b, a] =>
      .ok { red := r, green := g, blue := b, alpha := Float.ofInt a / 255.0 }
    | _ => .error (.badHex text)
  else .error (.badHex text)

/-- The pieces of a text between commas. -/
def splitCommas (cs : List Char) : List (List Char) := cs.splitOn ','

/-- The numbers between the parentheses of a functional form. -/
def ofBody (text : String) (body : List Char) : Except ColorError Color :=
  let parts := splitCommas body
  if parts.length = 3 || parts.length = 4 then
    match parts.mapM fun p => readDouble? (stripWhile isBlank p) with
    | some [r, g, b] => (make r g b 1.0).mapError .numeric
    | some [r, g, b, a] => (make r g b a).mapError .numeric
    | _ => .error (.badParts text)
  else .error (.badParts text)

/-- What stands between the parentheses of a functional form. The only closing parenthesis
ends the text. -/
def functionalBody? (cs : List Char) : Option (List Char) := do
  let rest ← (Json.afterWord "rgba(" cs <|> Json.afterWord "rgb(" cs)
  match rest.reverse with
  | ')' :: body => if body.contains ')' then none else some body.reverse
  | _ => none

/-- **A color from its text.** Blanks around the text and the case of letters do not count. -/
def ofText (text : String) : Except ColorError Color :=
  let cleaned := lowercase (strip text)
  match cleaned.toList with
  | '#' :: digits => ofHexDigits cleaned digits
  | cs =>
    match functionalBody? cs with
    | some body => ofBody text body
    | none =>
      if cleaned = "transparent" then
        .ok { red := 0, green := 0, blue := 0, alpha := 0.0 }
      else
        match named.lookup cleaned with
        | some (r, g, b) => .ok { red := r, green := g, blue := b }
        | none => .error (.unknown text)

/-- The four bytes of a color as one integer. -/
def packedInt (c : Color) (alpha : Int) : Int :=
  bitOr (bitOr (bitOr (c.red * 0x1000000) (c.green * 0x10000)) (c.blue * 0x100)) alpha

/-- **A color as one number.** There is none if alpha is NaN or infinite. -/
def pack (c : Color) : Except NumericFault Float := do
  let alpha ← toInt .nearest (c.alpha * 255.0)
  ofInt (c.packedInt alpha)

/-- The integer that a packed number stands for: truncated, and brought into 32 bits. -/
def packedNat (x : Float) : Nat :=
  if x.isNaN then 0
  else
    match toInt .towardZero (greater 0.0 (smaller 4294967295.0 x)) with
    | .ok n => n.toNat
    | .error _ => 0

/-- **The color of a packed number.** Every number has one. -/
def unpack (x : Float) : Color :=
  let n := packedNat x
  { red := n / 0x1000000 % 256
    green := n / 0x10000 % 256
    blue := n / 0x100 % 256
    alpha := Float.ofNat (n % 256) / 255.0 }

/-- **The average of colors,** channel by channel. Alphas are summed with compensation. -/
def mix (colors : List Color) : Except NumericFault Color :=
  if colors.isEmpty then .error .emptyAverage
  else do
    let average (channel : Color → Int) : Except NumericFault Float :=
      ofQuotient ((colors.map channel).foldl (· + ·) 0) colors.length
    let red ← average red
    let green ← average green
    let blue ← average blue
    make red green blue (compensatedSum (colors.map alpha) / Float.ofNat colors.length)

/-- The number on the way from one integer to another. -/
def between (start stop : Int) (progress : Float) : Except NumericFault Float := do
  let way := (← ofInt (stop - start)) * progress
  return (← ofInt start) + way

/-- **The color on the way from one to another.** The progress is brought into `0..1`. -/
def interpolate (start stop : Color) (progress : Float) : Except NumericFault Color := do
  let t := clampUnit progress
  let red ← between start.red stop.red t
  let green ← between start.green stop.green t
  let blue ← between start.blue stop.blue t
  make red green blue (start.alpha + (stop.alpha - start.alpha) * t)

/-- Two hexadecimal digits, more if the channel needs them, after the sign. -/
def channelText (n : Int) : String :=
  let ds := Nat.toDigits 16 n.natAbs
  if n < 0 then "-" ++ String.ofList ds
  else String.ofList (if ds.length < 2 then '0' :: ds else ds)

/-- The hexadecimal form, without alpha. -/
def hex (c : Color) : String :=
  "#" ++ channelText c.red ++ channelText c.green ++ channelText c.blue

/-- The functional form; alpha has three decimal places. -/
def functional (c : Color) : String :=
  s!"rgba({c.red},{c.green},{c.blue},{fullText (roundPlaces 3 c.alpha)})"

/-- The hexadecimal form of an opaque color, the functional form of any other. -/
def text (c : Color) : String := if 1.0 ≤ c.alpha then c.hex else c.functional

end Color

end ValuedGraph
