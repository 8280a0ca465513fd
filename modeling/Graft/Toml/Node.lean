import Graft.Decimal.Binary64
import Graft.Text.Search

/-!
# The nodes of a TOML document

A document is a table of nodes under keys, kept in the order in which the
keys first came. Places in the document are counted from its end, as the
number of characters still to be read there, so that a reader knows where
it is without knowing what it has read.

A table records how it came about, because that decides what may be added
to it: a table opened by a header of its own, one implied by the header of
a table below it, or one made by a dotted key. A table written in braces
is complete as it stands, and an array of tables grows at its last one.
-/

namespace Graft

namespace Toml

/-- A stretch of the document: how many characters are left where it starts
and how many where it stops. -/
structure Span where
  start : Nat
  stop : Nat
deriving DecidableEq, Repr

/-- A key as written at one place. -/
structure Key where
  text : Text
  span : Span
deriving DecidableEq, Repr

/-- A dotted key: its last part and the parts before it. -/
structure KeyPath where
  lead : List Key
  last : Key
deriving DecidableEq, Repr

/-- How a table came about. -/
inductive Origin where
  /-- A header named the table itself. -/
  | header
  /-- A header named a table below it. -/
  | implied
  /-- A dotted key led through it. -/
  | dotted
deriving DecidableEq, Repr

/-- What a table has under a key: the key's text, and the stretch of the
document to point at when the node there is at fault. -/
structure Label where
  key : Text
  span : Span
deriving DecidableEq, Repr

/-- A node of a document. -/
inductive Node where
  | string (content : Text)
  | integer (value : Int)
  | float (value : Binary64)
  | boolean (value : Bool)
  /-- A date, a time, or both, as written. -/
  | moment (written : Text)
  | array (items : List Node)
  /-- A table in braces. -/
  | braces (fields : List (Label × Node))
  | table (origin : Origin) (fields : List (Label × Node))
  /-- An array of tables, the last one apart. -/
  | tables (earlier : List (List (Label × Node))) (last : List (Label × Node))

/-- What a table holds. -/
abbrev Fields := List (Label × Node)

/-- Reads something from the front of a text and gives back the rest. -/
abbrev Reader (α : Type) := Text → Option (α × Text)

end Toml

end Graft
