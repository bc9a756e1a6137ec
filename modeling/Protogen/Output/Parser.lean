import Protogen.Field.Parsing

/-!
# The parser of a message

* `fromObjectMethod` writes the method that turns a plain object into a message: null for null,
  otherwise a new message into which the fields are merged in declaration order.
* `renderParser` is the text of the whole parser.
-/

set_option autoImplicit false

namespace Protogen

open Code

/-- The code of a field, which may not be null. -/
def parseDeclared (field : Option Schema.Field) (registry : Registry) : Emission Unit := do
  let field ← Emission.demand (failing .nullPart (Schema.declared field))
  FieldToParse.generate { field := field } registry

/-- Declares a parser as a subtype of the abstract one. -/
def declareParser (parser : String) : Emission Unit := do
  Emission.method parser "" (Emission.line "ObjectParser.call(this);")
  Emission.line (parser ++ ".prototype = Object.create(ObjectParser.prototype);")
  Emission.line (parser ++ ".prototype.constructor = " ++ parser ++ ";")

namespace Schema.MessageType

/-- The name of the parser of a message. -/
def parser (t : MessageType) : String := Naming.parserName (shownName t.fullName)

/-- Writes the method that parses a plain object. -/
def emitMethod (t : MessageType) (registry : Registry) : Emission Unit :=
  Emission.method (t.parser ++ ".prototype.fromObject") "obj" do
    Emission.ifBlock "obj === null" (Emission.line "return null;")
    Emission.blank
    Emission.line ("let msg = new " ++ Naming.typeName (shownName t.fullName) ++ "();")
    let fields ← Emission.demand (failing .nullPart (wanted t.declaration.fields))
    fields.forM fun field => do
      Emission.blank
      parseDeclared field registry
    Emission.blank
    Emission.line "return msg;"

/-- The method that parses a plain object. -/
def fromObjectMethod (t : MessageType) (registry : Registry) : Except Failure Writer :=
  (t.emitMethod registry).written

/-- The complete parser of a message. -/
def renderParser (t : MessageType) (registry : Registry) : Except Failure String := do
  let writer ← Emission.written do
    declareParser t.parser
    Emission.blank
    Emission.append (← Emission.demand (t.fromObjectMethod registry))
  failing .scope writer.text

end Schema.MessageType

end Protogen
