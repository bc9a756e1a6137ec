import Protogen.Markup.Emoji
import Protogen.Markup.Literal
import Protogen.Markup.Style
import Protogen.Markup.Styled
import Protogen.Markup.Tag
import Protogen.Text.Alphanumeric

/-!
# Styled texts from markup

A tag styles the text up to the tag that closes it, which is named like it behind a slash; a slash
alone closes the tag that was opened last, and tags that stay open reach to the end.

* `render` reads a markup as a styled text.
* `Styled.checkStyles` checks that the styles of a text can be read.
-/

set_option autoImplicit false

namespace Protogen.Markup

/-- A tag that is not closed yet, and the place behind which it styles the text. -/
structure OpenTag where
  start : Nat
  tag : Tag
  deriving DecidableEq, Repr

/-- A styled text with the tags that are open, the last one first. -/
structure Rendering where
  text : Styled := {}
  opened : List OpenTag := []

/-- Whether a character is one that texts in a table do not have. -/
def isDropped (c : Char) : Bool :=
  c.toNat == 0x07 || c.toNat == 0x08 || (0x0b ≤ c.toNat && c.toNat ≤ 0x0d)

/-- A text as it is shown. -/
def shown (text : List Char) : List Char := (replaceEmoji text).filter (!isDropped ·)

/-- The text without the backslashes before opening brackets. -/
def unescape : List Char → List Char
  | '\\' :: '[' :: rest => '[' :: unescape rest
  | c :: rest => c :: unescape rest
  | [] => []

/-- The literal in the data of a tag; behind a name in front of round brackets it is what they
hold. -/
def literalOf (data : List Char) : List Char :=
  let text := Text.trim data
  let rest := text.dropWhile fun c => Text.isAlphanumeric c || c == '_' || c == '.'
  if rest.isEmpty then ['(', ')']
  else if rest.head? == some '(' && rest.getLast? == some ')' && !rest.contains '\n' then rest
  else text

/-- Whether the data of a tag, if it is one that begins with `@`, is a literal. -/
def Tag.hasGoodData (t : Tag) : Bool :=
  match t.data with
  | some (c :: data) => t.name.head? != some '@' || Literal.isLiteral (literalOf (c :: data))
  | _ => true

/-- The style of a tag; one that begins with `@` has none if it is closed. -/
def Tag.style (t : Tag) : List Char := t.name ++ t.data.elim [] (' ' :: ·)

/-- The first of the open tags with a name and the other ones. -/
def takeNamed? (name : List Char) : List OpenTag → Option (OpenTag × List OpenTag)
  | [] => none
  | o :: rest =>
    if o.tag.name = name then some (o, rest)
    else (takeNamed? name rest).map fun (found, others) => (found, o :: others)

/-- The tag that is closed by a name behind a slash, and the other ones. -/
def closed? (name : List Char) (opened : List OpenTag) :
    Except Fault (Option (OpenTag × List OpenTag)) := do
  if (Text.trim name).isEmpty then
    pure (opened.head?.map (·, opened.drop 1))
  else pure (takeNamed? (← normalStyle (Text.trim name)) opened)

namespace Rendering

/-- A span from the place of a tag to the end. -/
def addSpan (r : Rendering) (start : Nat) (style : List Char) : Rendering :=
  { r with text.spans := r.text.spans ++ [⟨start, r.text.chars.length, style⟩] }

/-- Closes a tag. -/
def close (r : Rendering) (name : List Char) : Except Fault Rendering := do
  match ← closed? name r.opened with
  | none => throw .nothingToClose
  | some (o, others) =>
    if o.tag.hasGoodData then
      let style := if o.tag.name.head? == some '@' then [] else o.tag.style
      pure ({ r with opened := others }.addSpan o.start style)
    else throw .malformedData

/-- Goes on with a part. -/
def step (r : Rendering) (part : Part) : Except Fault Rendering :=
  match part with
  | .text chars => .ok { r with text.chars := r.text.chars ++ shown (unescape chars) }
  | .tag ⟨'/' :: name, _⟩ => r.close name
  | .tag t => do
    let name ← normalStyle t.name
    pure { r with opened := ⟨r.text.chars.length, { t with name := name }⟩ :: r.opened }

/-- The text, with the tags that are open up to its end. -/
def finish (r : Rendering) : Styled :=
  (r.opened.foldl (fun r o => r.addSpan o.start o.tag.style) r).text

end Rendering

/-- Reads a markup; without a bracket it has no tags and no backslashes before them. -/
def render (markup : List Char) : Except Fault Styled := do
  if markup.contains '[' then
    pure (← (parts markup).foldlM Rendering.step {}).finish
  else pure ⟨shown markup, []⟩

/-- Checks that the styles of a text can be read; one that is no style has no effect. -/
def Styled.checkStyles (t : Styled) : Except Fault Unit :=
  t.spans.forM fun s => do
    let _ ← readStyle s.style

end Protogen.Markup
