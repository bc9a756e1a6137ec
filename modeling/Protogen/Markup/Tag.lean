import Protogen.Text.Blank

/-!
# Tags

A tag stands in square brackets and begins with a small letter or one of `#`, `/` and `@`. A
backslash before the bracket makes it text, two of them are a backslash before a tag.

* `Tag` is a tag, divided at its first equals sign.
* `parts` divides a markup into texts and tags.
-/

set_option autoImplicit false

namespace Protogen.Markup

/-- A tag: its name, and the data behind an equals sign. -/
structure Tag where
  name : List Char
  data : Option (List Char) := none
  deriving DecidableEq, Repr

/-- The tag that stands in brackets. -/
def Tag.read (body : List Char) : Tag :=
  match body.dropWhile (· != '=') with
  | [] => ⟨body, none⟩
  | _ :: data => ⟨body.takeWhile (· != '='), some data⟩

/-- A part of a markup. -/
inductive Part
  | text (chars : List Char)
  | tag (tag : Tag)
  deriving DecidableEq, Repr

/-- What is read of a markup: complete parts, text, and what may be a tag behind a bracket; all
of them back to front. -/
structure Reading where
  parts : List Part := []
  text : List Char := []
  body : Option (List Char) := none

/-- Whether a tag may begin with a character. -/
def isTagStart (c : Char) : Bool :=
  ('a' ≤ c && c ≤ 'z') || c == '#' || c == '/' || c == '@'

namespace Reading

/-- What may be a tag is text. -/
def giveUp (r : Reading) : Reading :=
  match r.body with
  | none => r
  | some body => { r with text := body ++ '[' :: r.text, body := none }

/-- A part more, unless it is a text without characters. -/
def put (r : Reading) (part : Part) : Reading :=
  if part = .text [] then r else { r with parts := part :: r.parts }

/-- The text is complete. -/
def putText (r : Reading) : Reading := { r.put (.text r.text.reverse) with text := [] }

/-- A tag is complete: of the backslashes before it, pairs stand for one, and one without another
makes the tag text. -/
def putTag (r : Reading) (body : List Char) : Reading :=
  let slashes := (r.text.takeWhile (· == '\\')).length
  let before := { r with text := r.text.drop slashes, body := none }.putText
  let escaped := before.put (.text (List.replicate (slashes / 2) '\\'))
  escaped.put (if slashes % 2 = 1 then .text ('[' :: body ++ [']']) else .tag (Tag.read body))

/-- Reads a character. -/
def step (r : Reading) (c : Char) : Reading :=
  if c == '[' then { r.giveUp with body := some [] }
  else match r.body with
    | none => { r with text := c :: r.text }
    | some [] =>
      if isTagStart c then { r with body := some [c] }
      else { r.giveUp with text := c :: r.giveUp.text }
    | some body => if c == ']' then r.putTag body.reverse else { r with body := some (c :: body) }

end Reading

/-- The texts and tags of a markup. -/
def parts (markup : List Char) : List Part :=
  (markup.foldl Reading.step {}).giveUp.putText.parts.reverse

end Protogen.Markup
