import Protogen.Markup.Literal.Token

/-!
# Literals

The data of a tag is a literal: a number with a sign or without, a sum of a number and an imaginary
one, a text in quotes, a word for a constant, or several literals in brackets. Round brackets
hold a group, curly ones a set, or keys with their values; what is to be found in a set or by
a key cannot be changed, so that it is no set and has no keys.

* `isLiteral` tells whether a text is a literal.
-/

set_option autoImplicit false

namespace Protogen.Markup.Literal

/-- What is known of a literal, or of a key with its value. -/
inductive Shape
  | number (sort : NumberSort)
  /-- a real number behind a sign -/
  | signed
  /-- another literal that cannot be changed -/
  | fixed
  | changeable
  | keyed
  /-- the word before the empty set, which is no literal -/
  | setWord
  deriving DecidableEq, Repr

/-- What a literal in round brackets is; a comma makes a group of a single one. -/
def Shape.group? (shapes : List Shape) (hasComma : Bool) : Option Shape :=
  match shapes, hasComma with
  | [shape], false => if shape = .keyed then none else some shape
  | shapes, _ =>
    if shapes.contains .keyed || shapes.contains .setWord then none
    else some (if shapes.contains .changeable then .changeable else .fixed)

/-- What literals in curly brackets are. -/
def Shape.collection? (shapes : List Shape) : Option Shape :=
  if shapes.all (· == .keyed) then some .changeable
  else if shapes.any fun s => s = .keyed || s = .changeable || s = .setWord then none
  else some .changeable

/-- Whether a token is a plus or a minus. -/
def isSign (t : Token) : Bool := t == .mark '+' || t == .mark '-'

/-- What follows further texts in quotes of one kind. -/
def afterTexts (isBytes : Bool) : List Token → Option (List Token)
  | .quoted other :: rest => if other == isBytes then afterTexts isBytes rest else none
  | rest => some rest

/-- Behind a number, the imaginary one that is added to it, if there is one. -/
def sumShape? (first : Shape) (second : Shape) : Option Shape :=
  if (first == .number .real || first == .signed) && second == .number .imaginary then some .fixed
  else none

/-- What a sign makes of a number. -/
def Shape.withSign? : Shape → Option Shape
  | .number .real => some .signed
  | .number _ => some .fixed
  | _ => none

mutual

/-- A literal without signs, or the word before the empty set, and what follows it. -/
def simple? : Nat → List Token → Option (Shape × List Token)
  | 0, _ => none
  | n + 1, tokens =>
    match tokens with
    | .number sort :: rest => some (.number sort, rest)
    | .quoted isBytes :: rest => (afterTexts isBytes rest).map (.fixed, ·)
    | .constant :: rest => some (.fixed, rest)
    | .setWord :: rest => some (.setWord, rest)
    | .mark '(' :: rest => do
      let (shapes, hasComma, rest) ← elements? n ')' rest
      pure (← Shape.group? shapes hasComma, rest)
    | .mark '{' :: rest => do
      let (shapes, _, rest) ← elements? n '}' rest
      pure (← Shape.collection? shapes, rest)
    | _ => none

/-- A literal without signs, and what follows it; the word before the empty set has brackets
behind it, unless it stands in brackets. -/
def atom? : Nat → List Token → Option (Shape × List Token)
  | 0, _ => none
  | n + 1, tokens => do
    let (shape, rest) ← simple? n tokens
    match shape, rest with
    | .setWord, .mark '(' :: .mark ')' :: rest => pure (.changeable, rest)
    | shape, rest => pure (shape, rest)

/-- A literal, and what follows it. -/
def literal? : Nat → List Token → Option (Shape × List Token)
  | 0, _ => none
  | n + 1, tokens => do
    let (first, rest) ← if tokens.head?.any isSign then do
        let (shape, rest) ← atom? n (tokens.drop 1)
        pure (← shape.withSign?, rest)
      else atom? n tokens
    if rest.head?.any isSign then do
      let (second, rest) ← atom? n (rest.drop 1)
      pure (← sumShape? first second, rest)
    else pure (first, rest)

/-- A literal, or a key with its value, and what follows it. -/
def element? : Nat → List Token → Option (Shape × List Token)
  | 0, _ => none
  | n + 1, tokens => do
    let (first, rest) ← literal? n tokens
    match rest with
    | .mark ':' :: rest => do
      let (second, rest) ← literal? n rest
      if first == .changeable || first == .setWord || second == .setWord then none
      else pure (.keyed, rest)
    | _ => pure (first, rest)

/-- The elements up to a closing bracket, whether there is a comma behind the first one, and what
follows the bracket. -/
def elements? : Nat → Char → List Token → Option (List Shape × Bool × List Token)
  | 0, _, _ => none
  | n + 1, close, tokens =>
    if tokens.head? == some (.mark close) then some ([], false, tokens.drop 1)
    else do
      let (first, rest) ← element? n tokens
      match rest with
      | .mark ',' :: rest => do
        let (others, _, rest) ← elements? n close rest
        pure (first :: others, true, rest)
      | .mark c :: rest => if c == close then pure ([first], false, rest) else none
      | _ => none

end

/-- Whether a text is a literal; several with commas between them are a group. -/
def isLiteral (text : List Char) : Bool :=
  match tokens? text with
  | none => false
  | some tokens =>
    !tokens.isEmpty && match elements? (5 * tokens.length + 10) ')' (tokens ++ [.mark ')']) with
      | some (shapes, hasComma, []) =>
        (Shape.group? shapes hasComma).any fun shape => shape != .setWord
      | _ => false

end Protogen.Markup.Literal
