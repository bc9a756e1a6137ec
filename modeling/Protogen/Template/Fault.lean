import Protogen.Text.Quoted

/-!
# Faults of templates

* `Template.Fault` names what can be wrong with a template, or with what it is filled with.
* `Template.Fault.message` is the wording.
-/

set_option autoImplicit false

namespace Protogen.Template

/-- What can be wrong with a template. -/
inductive Fault
  /-- a closing brace that closes no field -/
  | loneClose
  /-- an opening brace at the end of the text -/
  | loneOpen
  /-- an opening brace inside the name of a field -/
  | openInName
  /-- a field that is not closed -/
  | unclosedField
  /-- a layout that is not closed -/
  | unclosedLayout
  /-- an exclamation mark with no conversion after it -/
  | conversionMissing
  /-- a conversion followed by neither a colon nor the end of the field -/
  | conversionTooLong
  | unknownConversion (conversion : Char)
  /-- an empty name after a field with a number -/
  | automaticAfterManual
  /-- a number after a field with an empty name -/
  | manualAfterAutomatic
  /-- a number that is too large -/
  | hugeNumber
  /-- a number for which there is no value -/
  | noSuchValue
  /-- a name for which there is no value -/
  | noSuchName (name : String)
  /-- a look-up of an attribute that a value does not have -/
  | noAttribute
  /-- a look-up of an element of a text or group by something that is no number -/
  | elementByName
  /-- a look-up of an element of what has none -/
  | noElements
  /-- a field name with nothing between its brackets or after its dot -/
  | emptyLookup
  /-- an opening bracket in a field name with no closing one -/
  | unclosedBracket
  /-- a closing bracket that is followed by neither a dot nor a bracket -/
  | afterBracket
  /-- an element beyond the end of a text or group -/
  | noSuchElement
  /-- a key that a table does not have, as it is quoted -/
  | noSuchKey (key : String)
  /-- a layout inside the layout of a layout -/
  | nestedLayout
  | signInLayout
  | blankSignInLayout
  /-- the letter `z`, for numbers without a negative zero -/
  | zeroSignInLayout
  | alternateInLayout
  | equalsInLayout
  /-- a mark between groups of digits, and the letter that says what is laid out -/
  | groupingInLayout (mark code : Char)
  | bothGroupings
  | missingPrecision
  | hugeLayoutNumber
  | precisionOfWhole
  | zeroSignOfWhole
  /-- a sign of a number that is shown as a character -/
  | signOfCharacter
  | alternateOfCharacter
  /-- a number that no character has -/
  | noSuchCharacter
  | hugePrecision
  /-- the letter of a layout, and the class of what is laid out -/
  | unknownLayout (code : Char) (className : String)
  /-- a layout of what is neither text nor number -/
  | layoutOfOther
  /-- a width that no text of reasonable length has -/
  | hugeWidth
  | invalidLayout (layout className : String)
  deriving DecidableEq, Repr

/-- A letter in a message; characters that are not visible ones below a limit are shown by their
hexadecimal number. -/
def shownCode (limit : Nat) (c : Char) : String :=
  if 32 < c.toNat && c.toNat < limit then String.singleton c
  else "\\x" ++ String.ofList (Nat.toDigits 16 c.toNat)

/-- The letter of a layout in a message. -/
def layoutCode (c : Char) : String := shownCode 128 c

/-- The letter of a conversion in a message. -/
def conversionCode (c : Char) : String := shownCode 127 c

/-- The wording of a fault. -/
def Fault.message : Fault → String
  | .loneClose => "Single '\x7d' encountered in format string"
  | .loneOpen => "Single '\x7b' encountered in format string"
  | .openInName => "unexpected '\x7b' in field name"
  | .unclosedField => "expected '\x7d' before end of string"
  | .unclosedLayout => "unmatched '\x7b' in format spec"
  | .conversionMissing => "end of string while looking for conversion specifier"
  | .conversionTooLong => "expected ':' after conversion specifier"
  | .unknownConversion c => "Unknown conversion specifier " ++ conversionCode c
  | .automaticAfterManual =>
    "cannot switch from manual field specification to automatic field numbering"
  | .manualAfterAutomatic =>
    "cannot switch from automatic field numbering to manual field specification"
  | .hugeNumber => "Too many decimal digits in format string"
  | .noSuchValue => "no such value"
  | .noSuchName name => Text.quote name
  | .noAttribute => "no such attribute"
  | .elementByName => "string indices must be integers"
  | .noElements => "no elements"
  | .emptyLookup => "Empty attribute in format string"
  | .unclosedBracket => "Missing ']' in format string"
  | .afterBracket => "Only '.' or '[' may follow ']' in format field specifier"
  | .noSuchElement => "string index out of range"
  | .noSuchKey key => key
  | .nestedLayout => "Max string recursion exceeded"
  | .signInLayout => "Sign not allowed in string format specifier"
  | .blankSignInLayout => "Space not allowed in string format specifier"
  | .alternateInLayout => "Alternate form (#) not allowed in string format specifier"
  | .equalsInLayout => "'=' alignment not allowed in string format specifier"
  | .zeroSignInLayout => "Negative zero coercion (z) not allowed in string format specifier"
  | .groupingInLayout mark code =>
    "Cannot specify '" ++ String.singleton mark ++ "' with '" ++ layoutCode code ++ "'."
  | .bothGroupings => "Cannot specify both ',' and '_'."
  | .missingPrecision => "Format specifier missing precision"
  | .hugeLayoutNumber => "Too many decimal digits in format string"
  | .precisionOfWhole => "Precision not allowed in integer format specifier"
  | .zeroSignOfWhole => "Negative zero coercion (z) not allowed in integer format specifier"
  | .signOfCharacter => "Sign not allowed with integer format specifier 'c'"
  | .alternateOfCharacter => "Alternate form (#) not allowed with integer format specifier 'c'"
  | .noSuchCharacter => "%c arg not in range(0x110000)"
  | .hugePrecision => "precision too big"
  | .unknownLayout c className =>
    "Unknown format code '" ++ layoutCode c ++ "' for object of type '" ++ className ++ "'"
  | .layoutOfOther => "a layout of what is neither text nor number"
  | .hugeWidth => ""
  | .invalidLayout layout className =>
    "Invalid format specifier '" ++ layout ++ "' for object of type '" ++ className ++ "'"

end Protogen.Template
