import ValuedGraph.Terminal.Emoji
import ValuedGraph.Terminal.TextStyle

/-!
# Markup

Texts for a terminal may hold tags in square brackets, which set a style until they are closed.
Backslashes in front of a tag stand for half as many, and an odd one makes the tag a plain text.
A terminal without styles shows what is left when the tags are gone.

* `Markup.escape`: a text whose tags are made plain.
* `Markup.plain`: what is left of a text with markup, or the tag that closes nothing.
* `Markup.printed`: what is left of a text without markup.
-/

namespace ValuedGraph

/-- **Why markup is refused:** a closing tag that closes nothing. -/
inductive MarkupError where
  | unmatched (tag : String) (position : Nat)
  | nothingToClose (position : Nat)
  deriving DecidableEq, Repr

/-- The wording of a markup error. -/
def MarkupError.message : MarkupError → String
  | unmatched tag position =>
    s!"closing tag '[{tag}]' at position {position} doesn't match any open tag"
  | nothingToClose position => s!"closing tag '[/]' at position {position} has nothing to close"

namespace Markup

/-- Whether a tag may begin with a character. -/
def startsTag (c : Char) : Bool :=
  ('a' ≤ c && c ≤ 'z') || c == '#' || c == '/' || c == '@'

/-- The tag behind an opening bracket, and what follows its closing bracket. -/
def tag? : List Char → Option (List Char × List Char)
  | c :: rest =>
    let body := rest.takeWhile fun d => d != ']' && d != '['
    match rest.drop body.length with
    | ']' :: rest => if startsTag c then some (c :: body, rest) else none
    | _ => none
  | [] => none

/-- The tag in brackets at the start of a text, and what follows it. -/
def bracketed? : List Char → Option (List Char × List Char)
  | '[' :: rest => tag? rest
  | _ => none

/-- Makes tags plain, from the left. The fuel bounds the length of the text. -/
def escapeFrom : Nat → List Char → List Char
  | 0, cs => cs
  | _, [] => []
  | fuel + 1, c :: cs =>
    let slashes := (c :: cs).takeWhile (· == '\\')
    match bracketed? ((c :: cs).drop slashes.length) with
    | some (tag, rest) =>
      slashes ++ slashes ++ '\\' :: '[' :: tag ++ ']' :: escapeFrom fuel rest
    | none => c :: escapeFrom fuel cs

/-- **A text whose tags are made plain.** A single backslash at its end is doubled, so that it
does not reach what follows. -/
def escape (s : String) : String :=
  let cs := escapeFrom s.toList.length s.toList
  String.ofList <|
    match cs.reverse with
    | '\\' :: '\\' :: _ => cs
    | '\\' :: _ => cs ++ ['\\']
    | _ => cs

/-- **A piece of a text:** a plain one, or a tag and its position. -/
inductive Piece where
  | text (cs : List Char)
  | tag (cs : List Char) (position : Nat)

/-- The pieces that backslashes and a tag behind them stand for. -/
def tagPieces (slashes tag : List Char) (position : Nat) : List Piece :=
  .text (List.replicate (slashes.length / 2) '\\') ::
    [if slashes.length % 2 = 0 then .tag tag (position + slashes.length)
     else .text ('[' :: tag ++ [']'])]

/-- The pieces of a text at a position, behind plain characters in reverse order. The fuel
bounds the length of the text. -/
def pieces : Nat → Nat → List Char → List Char → List Piece
  | 0, _, before, _ | _, _, before, [] => [.text before.reverse]
  | fuel + 1, position, before, c :: cs =>
    let slashes := (c :: cs).takeWhile (· == '\\')
    match bracketed? ((c :: cs).drop slashes.length) with
    | some (tag, rest) =>
      .text before.reverse :: tagPieces slashes tag position ++
        pieces fuel (position + slashes.length + tag.length + 2) [] rest
    | none => pieces fuel (position + 1) (c :: before) cs

/-- A backslash in front of an opening bracket is dropped. -/
def openBrackets : List Char → List Char
  | '\\' :: '[' :: rest => '[' :: openBrackets rest
  | c :: rest => c :: openBrackets rest
  | [] => []

/-- The name of a tag, without its parameters. -/
def tagName (tag : List Char) : String := String.ofList (tag.takeWhile (· != '='))

/-- Closes the last open tag of a name. -/
def close? (name : String) (openTags : List String) : Option (List String) :=
  if openTags.contains name then some (openTags.erase name) else none

/-- The tags that are open behind a tag, the last one first. -/
def afterTag (tag : List Char) (position : Nat) (openTags : List String) :
    Except MarkupError (List String) :=
  match (tagName tag).toList with
  | '/' :: name =>
    let name := strip (String.ofList name)
    if name = "" then
      match openTags with
      | _ :: openTags => .ok openTags
      | [] => .error (.nothingToClose position)
    else
      match close? (TextStyle.normalForm name) openTags with
      | some openTags => .ok openTags
      | none => .error (.unmatched (String.ofList tag) position)
  | name => .ok (TextStyle.normalForm (String.ofList name) :: openTags)

/-- What is left of pieces, given the tags that are open. -/
def plainPieces : List Piece → List String → Except MarkupError (List Char)
  | [], _ => .ok []
  | .text cs :: rest, openTags =>
    (plainPieces rest openTags).map (expandEmoji (openBrackets cs) ++ ·)
  | .tag tag position :: rest, openTags => do plainPieces rest (← afterTag tag position openTags)

/-- The control characters that are never shown. -/
def isHidden (c : Char) : Bool :=
  c.toNat == 0x7 || c.toNat == 0x8 || (0xb ≤ c.toNat && c.toNat ≤ 0xd)

/-- **What is left of a text with markup.** -/
def plain (s : String) : Except MarkupError (List Char) :=
  let cs := s.toList
  (plainPieces (pieces (cs.length + 1) 0 [] cs) []).map (List.filter fun c => !isHidden c)

/-- **What is left of a text without markup.** -/
def printed (s : String) : List Char := (expandEmoji s.toList).filter fun c => !isHidden c

end Markup

end ValuedGraph
