import Protogen.Template.Layout.Number
import Protogen.Template.Layout.Text
import Protogen.Template.LookUp

/-!
# Filling templates

A template is a text with replacement fields in braces, filled with one value: `\x7b\x7d` and
`\x7b0\x7d` stand for the value, a doubled brace for the brace itself. A field may carry a
conversion after `!` and a layout after `:`.

* `named` is what the name of a field stands for.
* `fill` reads the template once from left to right; the first fault ends it.
-/

set_option autoImplicit false

namespace Protogen.Template

/-- How fields get their numbers: not known yet, counted, or written in the fields. -/
inductive Numbering
  | undecided
  | automatic (next : Nat)
  | manual

/-- Where the reader of a template stands. -/
inductive Place
  | text
  /-- inside the name of a field; `name` is read back to front -/
  | name (name : List Char) (inBracket : Bool)
  /-- behind the exclamation mark -/
  | conversion (name : List Char)
  /-- behind the conversion -/
  | afterConversion (name : List Char) (conversion : Char)
  /-- inside the layout, `depth` braces deep; `layout` is read back to front -/
  | layout (name : List Char) (conversion : Option Char) (layout : List Char) (depth : Nat)

/-- What a field name stands for, and the numbering from then on. -/
def named (value : List Char) (numbering : Numbering) (name : List Char) :
    Except Fault (Subject × Numbering) := do
  let first := name.takeWhile fun c => c != '.' && c != '['
  let rest := name.dropWhile fun c => c != '.' && c != '['
  if first.isEmpty then
    match numbering with
    | .manual => throw .automaticAfterManual
    | .undecided => pure (← lookUp value rest, .automatic 1)
    | .automatic n =>
      if n == 0 then pure (← lookUp value rest, .automatic 1) else throw .noSuchValue
  else match ← wholeNumber? first with
    | none => throw (.noSuchName (String.ofList first))
    | some n =>
      match numbering with
      | .automatic _ => throw .manualAfterAutomatic
      | _ => if n == 0 then pure (← lookUp value rest, .manual) else throw .noSuchValue

/-- A subject as its conversion wants it. -/
def convert (subject : Subject) : Option Char → Except Fault Subject
  | none => .ok subject
  | some 's' => .ok (.text subject.shown)
  | some 'r' => .ok (.text (subject.quoted Text.quote).toList)
  | some 'a' => .ok (.text (subject.quoted Text.quoteAscii).toList)
  | some c => .error (.unknownConversion c)

/-- Lays a subject out; only texts and numbers can have a layout. -/
def present (spelled : List Char) (subject : Subject) : Except Fault (List Char) :=
  if spelled.isEmpty then .ok subject.shown
  else match subject with
    | .text value => layOutText spelled value
    | .whole n => layOutNumber "int" spelled n
    | .truth value => layOutNumber "bool" spelled value.toNat
    | _ => .error .layoutOfOther

/-- Reads a template from a place in it to its end. `expand` fills the layout of a field, which
may hold fields itself; the result is the filled text and the numbering at its end. -/
def fillFrom (expand : Numbering → List Char → Except Fault (List Char × Numbering))
    (value : List Char) : Numbering → Place → List Char → Except Fault (List Char × Numbering)
  | numbering, .text, [] => .ok ([], numbering)
  | numbering, .text, '{' :: '{' :: rest => do
    let (out, numbering) ← fillFrom expand value numbering .text rest
    pure ('{' :: out, numbering)
  | numbering, .text, '}' :: '}' :: rest => do
    let (out, numbering) ← fillFrom expand value numbering .text rest
    pure ('}' :: out, numbering)
  | _, .text, ['{'] => .error .loneOpen
  | numbering, .text, c :: rest =>
    if c == '}' then .error .loneClose
    else if c == '{' then fillFrom expand value numbering (.name [] false) rest
    else do
      let (out, numbering) ← fillFrom expand value numbering .text rest
      pure (c :: out, numbering)
  | _, .name _ _, [] => .error .unclosedField
  | numbering, .name name true, c :: rest =>
    fillFrom expand value numbering (.name (c :: name) (c != ']')) rest
  | numbering, .name name false, c :: rest =>
    if c == '{' then .error .openInName
    else if c == '}' then do
      let (found, numbering) ← named value numbering name.reverse
      let (out, numbering) ← fillFrom expand value numbering .text rest
      pure (found.shown ++ out, numbering)
    else if c == ':' then fillFrom expand value numbering (.layout name none [] 1) rest
    else if c == '!' then fillFrom expand value numbering (.conversion name) rest
    else fillFrom expand value numbering (.name (c :: name) (c == '[')) rest
  | _, .conversion _, [] => .error .conversionMissing
  | numbering, .conversion name, c :: rest =>
    fillFrom expand value numbering (.afterConversion name c) rest
  | _, .afterConversion _ _, [] => .error .unclosedLayout
  | numbering, .afterConversion name conversion, c :: rest =>
    if c == '}' then do
      let (found, numbering) ← named value numbering name.reverse
      let converted ← convert found conversion
      let (out, numbering) ← fillFrom expand value numbering .text rest
      pure (converted.shown ++ out, numbering)
    else if c == ':' then
      fillFrom expand value numbering (.layout name (some conversion) [] 1) rest
    else .error .conversionTooLong
  | _, .layout _ _ _ _, [] => .error .unclosedLayout
  | numbering, .layout name conversion layout depth, c :: rest =>
    if c == '}' && depth == 1 then do
      let (found, numbering) ← named value numbering name.reverse
      let converted ← convert found conversion
      let (spelled, numbering) ← expand numbering layout.reverse
      let laid ← present spelled converted
      let (out, numbering) ← fillFrom expand value numbering .text rest
      pure (laid ++ out, numbering)
    else
      let depth := if c == '{' then depth + 1 else if c == '}' then depth - 1 else depth
      fillFrom expand value numbering (.layout name conversion (c :: layout) depth) rest

/-- Fills the layout of a field, whose own fields may have no further fields in their layouts. -/
def fillLayout (value : List Char) (numbering : Numbering) (layout : List Char) :
    Except Fault (List Char × Numbering) :=
  if layout.contains '{' then
    fillFrom (fun numbering inner =>
      if inner.contains '{' then .error .nestedLayout else .ok (inner, numbering))
      value numbering .text layout
  else .ok (layout, numbering)

/-- Fills a template with a value. -/
def fill (template value : String) : Except Fault String :=
  (fillFrom (fillLayout value.toList) value.toList .undecided .text template.toList).map
    fun result => String.ofList result.1

end Protogen.Template
