import Protogen.Registry
import Protogen.Json.Printer
import Protogen.Table.Grid

/-!
# Listings of known types

* `Registry.sorted` orders the entries by URL.
* `Registry.listing` is a table of markup with a row for each entry, no wider than
  `listingWidth`.
* `Registry.listingJson` is the same as a JSON text.
-/

set_option autoImplicit false

namespace Protogen.Registry

/-- The entries in the order of their URLs. -/
def sorted (r : Registry) : List Entry :=
  r.entries.mergeSort fun a b => !(b.url < a.url)

/-- The header of the table. -/
def listingHeader : List String := ["Type URL", "JS type", "Parser"]

/-- The cells of an entry. -/
def listingRow (e : Entry) : List String := [e.url, e.typeName, e.parserName.getD ""]

/-- The title above the table. -/
def listingTitle : String := "Types\n"

/-- The cells of a line of the table. -/
def listingWidth : Nat := 400

/-- The table of known types. -/
def listing (r : Registry) : Except Markup.Fault String :=
  Table.draw listingWidth listingHeader.length (listingHeader :: r.sorted.map listingRow)

/-- The known types as a JSON text. -/
def listingJson (r : Registry) : String :=
  let text (name : Option String) : Json := name.elim .null .str
  let members := r.sorted.map fun e =>
    (e.url, Json.obj [("full_name", text e.fullName), ("type", .str e.typeName),
      ("parser", text e.parserName)])
  (Json.obj members).pretty ++ "\n"

end Protogen.Registry
