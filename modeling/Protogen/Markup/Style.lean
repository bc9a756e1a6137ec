import Protogen.Markup.Color

/-!
# Styles

A style is a list of words: effects, such as `bold`, which `not` before them takes away, a colour,
`on` and the colour behind the text, and `link` with an address. A style that is written in another
way has no effect.

* `readStyle` reads a style.
* `Style.words` writes a style, with its parts in a fixed order.
* `normalStyle` is the text of a style as `Style.words` writes it, by which the two tags around a
  text are matched.
-/

set_option autoImplicit false

namespace Protogen.Markup

/-- What a style does to a text besides colouring it. -/
inductive Effect
  | bold
  | dim
  | italic
  | underline
  | blink
  | blinkFast
  | reverse
  | conceal
  | strike
  | underlineTwice
  | frame
  | encircle
  | overline
  deriving DecidableEq, Repr

/-- All effects, in the order in which they are written. -/
def Effect.all : List Effect :=
  [.bold, .dim, .italic, .underline, .blink, .blinkFast, .reverse, .conceal, .strike,
    .underlineTwice, .frame, .encircle, .overline]

/-- The words for an effect; the first one is written. -/
def Effect.names : Effect → String × Option String
  | .bold => ("bold", "b")
  | .dim => ("dim", "d")
  | .italic => ("italic", "i")
  | .underline => ("underline", "u")
  | .blink => ("blink", none)
  | .blinkFast => ("blink2", none)
  | .reverse => ("reverse", "r")
  | .conceal => ("conceal", "c")
  | .strike => ("strike", "s")
  | .underlineTwice => ("underline2", "uu")
  | .frame => ("frame", none)
  | .encircle => ("encircle", none)
  | .overline => ("overline", "o")

/-- The effect with a name. -/
def Effect.ofName? (name : List Char) : Option Effect :=
  Effect.all.find? fun e =>
    e.names.1.toList == name || e.names.2.any fun short => short.toList == name

/-- A style; of two settings of an effect the first one counts. -/
structure Style where
  effects : List (Effect × Bool) := []
  color : Option (List Char) := none
  background : Option (List Char) := none
  link : Option (List Char) := none
  deriving DecidableEq, Repr

/-- The words of a setting of an effect. -/
def Effect.words (e : Effect) (isOn : Bool) : List (List Char) :=
  if isOn then [e.names.1.toList] else ["not".toList, e.names.1.toList]

/-- The words of a style. -/
def Style.words (s : Style) : List (List Char) :=
  (Effect.all.flatMap fun e => (s.effects.lookup e).elim [] e.words) ++ s.color.toList ++
    s.background.elim [] (["on".toList, ·]) ++ s.link.elim [] (["link".toList, ·])

/-- The text of a style. -/
def Style.text (s : Style) : List Char :=
  if s.words.isEmpty then "none".toList else [' '].intercalate s.words

/-- A part of a style: a word, or one of the words that have another one behind them. -/
inductive StyleItem
  | plain (word : List Char)
  | pair (word next : List Char)
  deriving DecidableEq, Repr

/-- Whether a word in lower case has another one behind it. -/
def takesNext (word : List Char) : Bool :=
  word == "on".toList || word == "not".toList || word == "link".toList

/-- The parts of a style; a word at the end that needs another one has an empty one. -/
def styleItems : List (List Char) → List StyleItem
  | [] => []
  | [word] =>
    if takesNext (Text.lower word) then [.pair (Text.lower word) []]
    else [.plain word]
  | word :: next :: rest =>
    if takesNext (Text.lower word) then
      .pair (Text.lower word) next :: styleItems rest
    else .plain word :: styleItems (next :: rest)

/-- A style with another part; none if the part is unknown. -/
def Style.add (s : Style) : StyleItem → Except Fault (Option Style)
  | .pair word next =>
    if word == "on".toList then do
      pure ((← readColor next).map fun color => { s with background := some color })
    else if word == "not".toList then
      .ok ((Effect.ofName? next).map fun e => { s with effects := (e, false) :: s.effects })
    else .ok (if next.isEmpty then none else some { s with link := some next })
  | .plain word =>
    match Effect.ofName? (Text.lower word) with
    | some e => .ok (some { s with effects := (e, true) :: s.effects })
    | none => do
      pure ((← readColor word).map fun color => { s with color := some color })

/-- Reads the parts of a style behind others. -/
def readItems (s : Style) : List StyleItem → Except Fault (Option Style)
  | [] => .ok (some s)
  | item :: rest => do
    match ← s.add item with
    | some s => readItems s rest
    | none => pure none

/-- The words between white space. -/
def spacedWords (text : List Char) : List (List Char) :=
  (text.splitOnP Text.isBlank).filter (!·.isEmpty)

/-- Reads a style. -/
def readStyle (text : List Char) : Except Fault (Option Style) :=
  readItems {} (styleItems (spacedWords text))

/-- The text of a style in its normal form; one that is no style is only put in lower case. -/
def normalStyle (text : List Char) : Except Fault (List Char) := do
  match ← readStyle text with
  | some s => pure s.text
  | none => pure (Text.lower (Text.trim text))

end Protogen.Markup
