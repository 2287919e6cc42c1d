/-!
# Dates and times

A definition file may hold dates and times. No setting takes one, so all that is done with
them is to write them out in the message that refuses them.
-/

namespace ValuedGraph

/-- A day of the calendar. -/
structure Date where
  year : Nat
  month : Nat
  day : Nat
  deriving DecidableEq, Repr

/-- A time of day, to the microsecond. -/
structure Time where
  hour : Nat
  minute : Nat
  second : Nat
  micros : Nat
  deriving DecidableEq, Repr

/-- **A date, a time of day, or both,** with the distance to universal time in minutes if it
is known. -/
inductive Moment where
  | date (d : Date)
  | time (t : Time)
  | dateTime (d : Date) (t : Time)
  | zoned (d : Date) (t : Time) (offset : Int)
  deriving DecidableEq, Repr

namespace Moment

/-- The parts of a time, without trailing zero seconds and microseconds. -/
def timeParts (t : Time) : List Nat :=
  [t.hour, t.minute] ++
    if t.micros ≠ 0 then [t.second, t.micros] else if t.second ≠ 0 then [t.second] else []

def dateParts (d : Date) : List Nat := [d.year, d.month, d.day]

/-- A distance to universal time. A negative one is written as a day back and the rest. -/
def offsetText (offset : Int) : String :=
  if offset = 0 then "datetime.timezone.utc"
  else
    let span := if offset < 0
      then "days=-1, seconds=" ++ toString (86400 + offset * 60)
      else "seconds=" ++ toString (offset * 60)
    "datetime.timezone(datetime.timedelta(" ++ span ++ "))"

/-- A moment as messages write it. -/
def literal : Moment → String
  | date d => "datetime.date(" ++ items (dateParts d) ++ ")"
  | time t => "datetime.time(" ++ items (timeParts t) ++ ")"
  | dateTime d t => "datetime.datetime(" ++ items (dateParts d ++ timeParts t) ++ ")"
  | zoned d t offset =>
    "datetime.datetime(" ++ items (dateParts d ++ timeParts t) ++ ", tzinfo=" ++
      offsetText offset ++ ")"
where
  items (ns : List Nat) : String := ", ".intercalate (ns.map toString)

end Moment

end ValuedGraph
