import ValuedGraph.Terminal.EmojiNames
import ValuedGraph.Text.Lowercase

/-!
# Emoji

What is printed may call an emoji by its name between two colons, in letters of either case.
Behind the name, `-text` or `-emoji` asks for one of its two looks. A name that is not in the
catalogue stays as it is, with both of its colons.

* `expandEmoji`: a text with its emoji in place of their names.
-/

namespace ValuedGraph

/-- The two looks that a name can ask for, with the character that selects each. -/
def emojiLooks : List (String × Char) :=
  [("-emoji", Char.ofNat 0xfe0f), ("-text", Char.ofNat 0xfe0e)]

/-- The front of a text that ends in another one. -/
def beforeEnding? (ending cs : List Char) : Option (List Char) :=
  if ending.isSuffixOf cs then some (cs.take (cs.length - ending.length)) else none

/-- The name between two colons, and the look that it asks for. -/
def nameAndLook (cs : List Char) : List Char × List Char :=
  let looks := emojiLooks.filterMap fun (ending, selector) =>
    (beforeEnding? ending.toList cs).map fun name => (name, [selector])
  looks.headD (cs, [])

/-- **The emoji that stands between two colons,** if there is one. -/
def emoji? (cs : List Char) : Option (List Char) :=
  let (name, look) := nameAndLook cs
  (emojiNames.lookup (lowercase (String.ofList name))).map fun s => s.toList ++ look

/-- What stands between a colon and the next one, and what follows. Blanks may not stand
there. -/
def betweenColons? (cs : List Char) : Option (List Char × List Char) :=
  let name := cs.takeWhile fun c => c != ':' && !isBlank c
  match cs.drop name.length with
  | ':' :: rest => some (name, rest)
  | _ => none

/-- Emoji in place of their names, from the left. The fuel bounds the length of the text. -/
def expandFrom : Nat → List Char → List Char
  | 0, cs => cs
  | _, [] => []
  | fuel + 1, c :: rest =>
    if c = ':' then
      match betweenColons? rest with
      | some (name, rest) => (emoji? name).getD (':' :: name ++ [':']) ++ expandFrom fuel rest
      | none => c :: expandFrom fuel rest
    else c :: expandFrom fuel rest

/-- **A text with its emoji in place of their names.** -/
def expandEmoji (cs : List Char) : List Char := expandFrom cs.length cs

end ValuedGraph
