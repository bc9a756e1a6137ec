import Protogen.Decimal.Shortest
import Protogen.Text.Quoted

/-!
# JSON values

Whole numbers and numbers with a fraction or an exponent are kept apart, and the members of an
object keep their order.

* `Json.ofMembers` builds an object: a repeated name keeps its first place and takes its last
  value.
* `Json.get?` looks a member up.
* `Json.truth` is the truth value of a value: empty texts, lists and objects, zero and null are
  false.
* `Json.display` is the text a value has where a text is wanted.
-/

set_option autoImplicit false

namespace Protogen

/-- A JSON value. -/
inductive Json
  | null
  | bool (value : Bool)
  | int (value : Int)
  | float (value : Binary64)
  | str (text : String)
  | arr (items : List Json)
  | obj (members : List (String × Json))
  deriving Repr

namespace Json

/-- Members with the value of one name set, in its place if there is one and last otherwise. -/
def setMember (name : String) (value : Json) : List (String × Json) → List (String × Json)
  | [] => [(name, value)]
  | m :: members => if m.1 == name then (name, value) :: members
    else m :: setMember name value members

/-- The object with these members. -/
def ofMembers (members : List (String × Json)) : Json :=
  .obj (members.foldl (fun acc m => setMember m.1 m.2 acc) [])

/-- The value of a member of an object. -/
def get? (name : String) : Json → Option Json
  | .obj members => members.lookup name
  | _ => none

/-- The truth value of a value. -/
def truth : Json → Bool
  | .null => false
  | .bool b => b
  | .int n => n != 0
  | .float x => !x.isZero
  | .str s => !s.isEmpty
  | .arr items => !items.isEmpty
  | .obj members => !members.isEmpty

mutual

/-- The text of a value inside a list or an object. -/
def shown : Json → String
  | .null => "None"
  | .bool b => if b then "True" else "False"
  | .int n => toString n
  | .float x => x.text
  | .str s => Text.quote s
  | .arr items => "[" ++ String.intercalate ", " (shownItems items) ++ "]"
  | .obj members => "\x7b" ++ String.intercalate ", " (shownMembers members) ++ "\x7d"

/-- The texts of the items of a list. -/
def shownItems : List Json → List String
  | [] => []
  | item :: items => shown item :: shownItems items

/-- The texts of the members of an object. -/
def shownMembers : List (String × Json) → List String
  | [] => []
  | (name, value) :: members => (Text.quote name ++ ": " ++ shown value) :: shownMembers members

end

/-- The text of a value; a text stands for itself. -/
def display : Json → String
  | .str s => s
  | value => shown value

end Json

end Protogen
