import ValuedGraph.Document.Json

/-!
# TOML scalars

Readers for the parts of a TOML line that hold no other value: keys, texts, numbers, dates
and times. Each takes the start of a text and returns what it read and the rest; `none` means
that nothing of its kind stands there or that it is malformed.

* `Toml.key`: a dotted key.
* `Toml.text`: a text in any of its four spellings.
* `Toml.moment`: a date, a time of day or both.
* `Toml.number`: an integer in four bases or a double.
-/

namespace ValuedGraph.Toml

/-- Blanks within a line. -/
def isGap (c : Char) : Bool := c == ' ' || c == '\t'

def dropGap (cs : List Char) : List Char := cs.dropWhile isGap

/-- Blanks and line ends. -/
def dropSpace (cs : List Char) : List Char := cs.dropWhile fun c => isGap c || c == '\n'

/-- The characters that never stand bare in a text or a comment of one line. -/
def isControl (c : Char) : Bool := (c.toNat < 32 && c != '\t') || c.toNat == 127

/-- The characters of a key without quotes. -/
def isBare (c : Char) : Bool := c.isAlphanum || c == '-' || c == '_'

/-- The characters that stand for others after a backslash. -/
def shortEscape? : Char → Option Char
  | '"' => some '"'
  | '\\' => some '\\'
  | 'b' => some (Char.ofNat 8)
  | 'f' => some (Char.ofNat 12)
  | 'n' => some '\n'
  | 'r' => some '\r'
  | 't' => some '\t'
  | _ => none

/-- The character of a code. Surrogates and numbers beyond the last code point have none. -/
def codeChar? (n : Nat) : Option Char := if n.isValidChar then some (Char.ofNat n) else none

/-- Skips the rest of a line after a backslash, and all blanks on the lines that follow. -/
def continuation? (cs : List Char) : Option (List Char) :=
  match cs with
  | '\n' :: rest => some (dropSpace rest)
  | c :: rest =>
    if isGap c then
      match dropGap rest with
      | [] => some []
      | '\n' :: rest => some (dropSpace rest)
      | _ => none
    else none
  | [] => none

/-- What stands after a backslash: the characters it means and the rest. -/
def escape (multiline : Bool) (cs : List Char) : Option (List Char × List Char) :=
  match (if multiline then continuation? cs else none) with
  | some rest => some ([], rest)
  | none =>
    match cs with
    | 'u' :: rest => code 4 rest
    | 'U' :: rest => code 8 rest
    | c :: rest => (shortEscape? c).map fun e => ([e], rest)
    | [] => none
where
  code (width : Nat) (cs : List Char) : Option (List Char × List Char) := do
    let ds := cs.take width
    if ds.length = width then
      let n ← hexNumber? ds
      let c ← codeChar? n
      return ([c], cs.drop width)
    else none

/-- A text between double quotes, after the opening ones. The fuel bounds its length. -/
def basicBody (multiline : Bool) : Nat → List Char → Option (List Char × List Char)
  | 0, _ => none
  | fuel + 1, cs =>
    match cs with
    | [] => none
    | '\\' :: rest => do
      let (es, rest) ← escape multiline rest
      let (body, rest) ← basicBody multiline fuel rest
      return (es ++ body, rest)
    | '"' :: rest =>
      if !multiline then some ([], rest)
      else
        match rest with
        | '"' :: '"' :: rest => some ([], rest)
        | _ => (basicBody multiline fuel rest).map fun (body, rest) => ('"' :: body, rest)
    | c :: rest =>
      if isControl c && !(multiline && c == '\n') then none
      else (basicBody multiline fuel rest).map fun (body, rest) => (c :: body, rest)

/-- A text between single quotes on one line, after the opening one. -/
def literalBody : List Char → Option (List Char × List Char)
  | [] => none
  | '\'' :: rest => some ([], rest)
  | c :: rest =>
    if isControl c then none
    else (literalBody rest).map fun (body, rest) => (c :: body, rest)

/-- A text between triple single quotes, after the opening ones. -/
def literalLines : List Char → Option (List Char × List Char)
  | [] => none
  | '\'' :: '\'' :: '\'' :: rest => some ([], rest)
  | c :: rest =>
    if isControl c && c != '\n' then none
    else (literalLines rest).map fun (body, rest) => (c :: body, rest)

/-- Up to two more quotes after the closing three belong to the text. -/
def extraQuotes (mark : Char) (found : List Char × List Char) : List Char × List Char :=
  let (body, rest) := found
  match rest with
  | a :: b :: tail =>
    if a = mark then
      if b = mark then (body ++ [mark, mark], tail) else (body ++ [mark], b :: tail)
    else (body, rest)
  | [a] => if a = mark then (body ++ [mark], []) else (body, rest)
  | [] => (body, rest)

/-- A line end right after opening triple quotes is dropped. -/
def dropFirstLineEnd : List Char → List Char
  | '\n' :: rest => rest
  | cs => cs

/-- **A text in any of its four spellings.** -/
def text (cs : List Char) : Option (String × List Char) :=
  let found :=
    match cs with
    | '"' :: '"' :: '"' :: rest =>
      let rest := dropFirstLineEnd rest
      (basicBody true (rest.length + 1) rest).map (extraQuotes '"')
    | '"' :: rest => basicBody false (rest.length + 1) rest
    | '\'' :: '\'' :: '\'' :: rest =>
      (literalLines (dropFirstLineEnd rest)).map (extraQuotes '\'')
    | '\'' :: rest => literalBody rest
    | _ => none
  found.map fun (body, rest) => (String.ofList body, rest)

/-- One part of a dotted key: bare, or a text on one line. -/
def keyPart (cs : List Char) : Option (String × List Char) :=
  match cs with
  | '"' :: rest =>
    (basicBody false (rest.length + 1) rest).map fun (body, rest) => (String.ofList body, rest)
  | '\'' :: rest => (literalBody rest).map fun (body, rest) => (String.ofList body, rest)
  | _ =>
    let part := cs.takeWhile isBare
    if part.isEmpty then none else some (String.ofList part, cs.dropWhile isBare)

/-- The parts of a dotted key. The fuel bounds their number. -/
def keyParts : Nat → List Char → Option (List String × List Char)
  | 0, _ => none
  | fuel + 1, cs => do
    let (part, rest) ← keyPart cs
    match dropGap rest with
    | '.' :: rest =>
      let (parts, rest) ← keyParts fuel (dropGap rest)
      return (part :: parts, rest)
    | rest => return ([part], rest)

/-- **A dotted key.** -/
def key (cs : List Char) : Option (List String × List Char) := keyParts (cs.length + 1) cs

/-- Digits of a base, single underscores between them dropped. -/
def moreDigits (p : Char → Bool) : List Char → List Char × List Char
  | '_' :: d :: rest =>
    if p d then
      let (ds, rest) := moreDigits p rest
      (d :: ds, rest)
    else ([], '_' :: d :: rest)
  | d :: rest =>
    if p d then
      let (ds, rest) := moreDigits p rest
      (d :: ds, rest)
    else ([], d :: rest)
  | [] => ([], [])

/-- Digits of a base that begin with a digit. -/
def digits (p : Char → Bool) : List Char → Option (List Char × List Char)
  | d :: rest =>
    if p d then
      let (ds, rest) := moreDigits p rest
      some (d :: ds, rest)
    else none
  | [] => none

/-- The number that digits write in a base. -/
def basedNumber (base : Nat) (ds : List Char) : Nat :=
  ds.foldl (fun n c => base * n + (hexValue? c).getD 0) 0

/-- An integer in base sixteen, two or eight. -/
def based (cs : List Char) : Option (Value × List Char) :=
  match cs with
  | '0' :: 'x' :: rest => read 16 (fun c => (hexValue? c).isSome) rest
  | '0' :: 'b' :: rest => read 2 (fun c => c == '0' || c == '1') rest
  | '0' :: 'o' :: rest => read 8 (fun c => '0' ≤ c && c ≤ '7') rest
  | _ => none
where
  read (base : Nat) (p : Char → Bool) (cs : List Char) : Option (Value × List Char) :=
    (digits p cs).map fun (ds, rest) => (.int (basedNumber base ds), rest)

/-- The digits of a whole part: a zero alone, or digits that do not begin with zero. -/
def whole : List Char → Option (List Char × List Char)
  | '0' :: rest => some (['0'], rest)
  | cs => digits isDigit cs

/-- The digits after a point, if there are any. -/
def places : List Char → Option (List Char × List Char)
  | '.' :: rest => digits isDigit rest
  | _ => none

/-- An exponent, if there is one. -/
def exponent : List Char → Option (Int × List Char)
  | c :: rest =>
    if c = 'e' || c = 'E' then
      let (negative, rest) := takeSign rest
      (digits isDigit rest).map fun (ds, rest) =>
        let n : Int := decimalNumber ds
        (if negative then -n else n, rest)
    else none
  | [] => none

/-- A decimal integer or a double. -/
def decimal (cs : List Char) : Except DocumentFault (Value × List Char) := do
  let (negative, rest) := takeSign cs
  let (ds, rest) ← DocumentFault.demand (whole rest)
  let n : Int := decimalNumber ds
  match places rest with
  | some (fs, rest) =>
    match exponent rest with
    | some (e, rest) => return (.float (Json.double negative ds fs e), rest)
    | none => return (.float (Json.double negative ds fs 0), rest)
  | none =>
    match exponent rest with
    | some (e, rest) => return (.float (Json.double negative ds [] e), rest)
    | none => return (← DocumentFault.withinDigits (if negative then -n else n), rest)

/-- The names of the doubles that have no digits. -/
def special (cs : List Char) : Option (Value × List Char) :=
  let (negative, rest) := takeSign cs
  let sign (x : Float) : Value := .float (if negative then -x else x)
  match rest with
  | 'i' :: 'n' :: 'f' :: rest => some (sign infinity, rest)
  | 'n' :: 'a' :: 'n' :: rest => some (sign nan, rest)
  | _ => none

/-- **An integer or a double.** -/
def number (cs : List Char) : Except DocumentFault (Value × List Char) :=
  match based cs <|> special cs with
  | some found => .ok found
  | none => decimal cs

/-- A number of exactly as many digits as there are characters. -/
def fixed? (ds : List Char) : Option Nat := if ds.all isDigit then some (decimalNumber ds) else none

/-- A number of two digits within bounds. -/
def two? (a b : Char) (least most : Nat) : Option Nat := do
  let n ← fixed? [a, b]
  if least ≤ n && n ≤ most then some n else none

/-- The microseconds that the digits after a point write; digits beyond the sixth are dropped. -/
def micros (ds : List Char) : Nat :=
  decimalNumber (ds.take 6 ++ List.replicate (6 - ds.length) '0')

/-- A time of day. -/
def time : List Char → Option (Time × List Char)
  | h1 :: h2 :: ':' :: m1 :: m2 :: ':' :: s1 :: s2 :: rest => do
    let hour ← two? h1 h2 0 23
    let minute ← two? m1 m2 0 59
    let second ← two? s1 s2 0 59
    match rest with
    | '.' :: tail =>
      let ds := tail.takeWhile isDigit
      if ds.isEmpty then return (⟨hour, minute, second, 0⟩, rest)
      else return (⟨hour, minute, second, micros ds⟩, tail.dropWhile isDigit)
    | _ => return (⟨hour, minute, second, 0⟩, rest)
  | _ => none

/-- A distance to universal time in minutes. -/
def offset : List Char → Option (Int × List Char)
  | c :: rest =>
    if c = 'Z' || c = 'z' then some (0, rest)
    else if c = '+' || c = '-' then
      match rest with
      | h1 :: h2 :: ':' :: m1 :: m2 :: rest => do
        let hour ← two? h1 h2 0 23
        let minute ← two? m1 m2 0 59
        let n : Int := hour * 60 + minute
        return (if c = '-' then -n else n, rest)
      | _ => none
    else none
  | [] => none

/-- Whether a year has a 29th of February. -/
def isLeap (year : Nat) : Bool := year % 4 == 0 && (year % 100 != 0 || year % 400 == 0)

/-- The number of days of a month. -/
def monthDays (year month : Nat) : Nat :=
  if month = 2 then if isLeap year then 29 else 28
  else if month = 4 || month = 6 || month = 9 || month = 11 then 30
  else 31

/-- The digits of a date, which need not be a day of the calendar. -/
def dateDigits : List Char → Option (Date × List Char)
  | y1 :: y2 :: y3 :: y4 :: '-' :: m1 :: m2 :: '-' :: d1 :: d2 :: rest => do
    let year ← fixed? [y1, y2, y3, y4]
    let month ← two? m1 m2 1 12
    let day ← two? d1 d2 1 31
    return (⟨year, month, day⟩, rest)
  | _ => none

/-- Whether a date is a day of the calendar. -/
def isDay (d : Date) : Bool := 1 ≤ d.year && d.day ≤ monthDays d.year d.month

/-- What follows a date: a time after a `T` or a blank, and a distance to universal time. -/
def afterDate (d : Date) (cs : List Char) : Moment × List Char :=
  match cs with
  | c :: rest =>
    if c = 'T' || c = 't' || c = ' ' then
      match time rest with
      | some (t, rest) =>
        match offset rest with
        | some (o, rest) => (.zoned d t o, rest)
        | none => (.dateTime d t, rest)
      | none => (.date d, cs)
    else (.date d, cs)
  | [] => (.date d, cs)

/-- **A date or a time of day.** The outer option says whether the text looks like one, the
inner one whether it is one. -/
def moment (cs : List Char) : Option (Option (Moment × List Char)) :=
  match dateDigits cs with
  | some (d, rest) => some (if isDay d then some (afterDate d rest) else none)
  | none => (time cs).map fun (t, rest) => some (.time t, rest)

end ValuedGraph.Toml
