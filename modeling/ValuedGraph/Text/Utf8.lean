import ValuedGraph.Text.Quoted

/-!
# Bytes as text

Texts in files are kept in UTF-8. Where bytes stop being UTF-8, the fault tells which bytes and
why: a byte that starts no character, a byte that does not go on with one, or the end of the
bytes in the middle of one.

* `readUtf8`: the text that bytes write, or the first fault.
-/

namespace ValuedGraph

/-- Why bytes are no text. -/
inductive Utf8Reason where
  | badStart | badContinuation | endOfData
  deriving DecidableEq, Repr

/-- The wording of a reason. -/
def Utf8Reason.message : Utf8Reason → String
  | badStart => "invalid start byte"
  | badContinuation => "invalid continuation byte"
  | endOfData => "unexpected end of data"

/-- **Where and why bytes are no text.** -/
structure Utf8Fault where
  position : Nat
  /-- the bytes from the position on that belong to no character -/
  bytes : List UInt8
  reason : Utf8Reason
  deriving DecidableEq, Repr

/-- The wording of a fault. -/
def Utf8Fault.message (f : Utf8Fault) : String :=
  let place :=
    match f.bytes with
    | [b] => s!"byte 0x{String.ofList (hexDigits 2 b.toNat)} in position {f.position}"
    | bytes => s!"bytes in position {f.position}-{f.position + bytes.length - 1}"
  s!"'utf-8' codec can't decode {place}: {f.reason.message}"

/-- A character of which some bytes are still due. -/
structure PartialChar where
  position : Nat
  /-- the bytes so far, the last one first -/
  bytes : List UInt8
  /-- how many bytes are due -/
  due : Nat
  /-- the bounds of the next byte -/
  least : UInt8 := 0x80
  most : UInt8 := 0xbf

/-- What the first byte of a character asks for: nothing more, or further bytes. A byte that
starts no character asks for nothing sensible. -/
def startChar (position : Nat) (b : UInt8) : Option (Option PartialChar) :=
  if b < 0x80 then some none
  else if b < 0xc2 then none
  else if b < 0xe0 then some (some { position, bytes := [b], due := 1 })
  else if b = 0xe0 then some (some { position, bytes := [b], due := 2, least := 0xa0 })
  else if b = 0xed then some (some { position, bytes := [b], due := 2, most := 0x9f })
  else if b < 0xf0 then some (some { position, bytes := [b], due := 2 })
  else if b = 0xf0 then some (some { position, bytes := [b], due := 3, least := 0x90 })
  else if b = 0xf4 then some (some { position, bytes := [b], due := 3, most := 0x8f })
  else if b < 0xf4 then some (some { position, bytes := [b], due := 3 })
  else none

/-- The first fault of bytes from a position on, in the middle of a character or not. -/
def utf8Fault? (position : Nat) : Option PartialChar → List UInt8 → Option Utf8Fault
  | none, [] => none
  | some p, [] => some ⟨p.position, p.bytes.reverse, .endOfData⟩
  | none, b :: rest =>
    match startChar position b with
    | some p => utf8Fault? (position + 1) p rest
    | none => some ⟨position, [b], .badStart⟩
  | some p, b :: rest =>
    if p.least ≤ b && b ≤ p.most then
      if p.due = 1 then utf8Fault? (position + 1) none rest
      else
        let next := { position := p.position, bytes := b :: p.bytes, due := p.due - 1 }
        utf8Fault? (position + 1) (some next) rest
    else some ⟨p.position, p.bytes.reverse, .badContinuation⟩

/-- **The text that bytes write,** or the first fault. -/
def readUtf8 (bytes : ByteArray) : Except Utf8Fault String :=
  match utf8Fault? 0 none bytes.data.toList with
  | some fault => .error fault
  | none => .ok ((String.fromUTF8? bytes).getD "")

end ValuedGraph
