import Graft.Decimal.Shortest
import Graft.Text.Lines
import Graft.Text.Quoted
import Graft.Text.Utf8
import Graft.Toml.Node

/-!
# Faults of a document

A document can fail in two ways: it is not TOML at all, or a node in it is
not of the type or in the range that its key asks for. The second kind is
reported with the line of the document, the column, the line itself, a row
of carets under the node, and the reason. Columns count characters; the
carets count bytes and stop where the line stops.
-/

namespace Graft

namespace Toml

/-- What a key asks for. -/
inductive Expected where
  | mode
  | boolean
  | string
deriving DecidableEq, Repr

/-- What stands there instead. -/
inductive Found where
  | string (content : Text)
  | integer (value : Int)
  | float (value : Binary64)
  | boolean (value : Bool)
  | sequence
  | map
deriving DecidableEq, Repr

/-- Why a node does not do. -/
inductive Reason where
  /-- It is of another type. -/
  | wrongType (found : Found) (expected : Expected)
  /-- It is an integer beyond the range. -/
  | outOfRange (value : Int) (expected : Expected)
deriving DecidableEq, Repr

/-- Why a document cannot be used. -/
inductive Fault where
  /-- It is not TOML. -/
  | malformed
  /-- A node does not do; the fault holds the document and says where. -/
  | unsuitable (document : Text) (span : Span) (reason : Reason)
deriving DecidableEq, Repr

/-- What a node is, to a reader who expected something else. A moment shows
itself as a map. -/
def Node.found : Node → Found
  | .string content => .string content
  | .integer value => .integer value
  | .float value => .float value
  | .boolean value => .boolean value
  | .moment _ => .map
  | .array _ => .sequence
  | .braces _ => .map
  | .table _ _ => .map
  | .tables _ _ => .sequence

/-! ## Wording -/

/-- An integer in decimal. -/
def integerText (value : Int) : Text :=
  (if value < 0 then ['-'] else []) ++ Nat.toDigits 10 value.natAbs

namespace Expected

/-- What messages say is expected. -/
def text : Expected → Text
  | mode => "u32".toList
  | boolean => "a boolean".toList
  | string => "a string".toList

end Expected

namespace Found

/-- What messages say was found. -/
def text : Found → Text
  | string content => "string ".toList ++ Text.quote content
  | integer value => "integer `".toList ++ integerText value ++ ['`']
  | float value => "floating point `".toList ++ value.text ++ ['`']
  | boolean value => (if value then "boolean `true`" else "boolean `false`").toList
  | sequence => "sequence".toList
  | map => "map".toList

end Found

namespace Reason

/-- What messages say is wrong. -/
def text : Reason → Text
  | wrongType found expected =>
    "invalid type: ".toList ++ found.text ++ ", expected ".toList ++ expected.text
  | outOfRange value expected =>
    "invalid value: integer `".toList ++ integerText value ++ "`, expected ".toList ++
      expected.text

end Reason

/-- A place in a document as a reader looks for it. -/
structure Excerpt where
  /-- How many lines stand before. -/
  line : Nat
  /-- How many characters stand before on the line. -/
  column : Nat
  /-- The line, without its line feed. -/
  content : Text
  /-- How many carets to draw. -/
  carets : Nat

/-- The excerpt of a document that shows a stretch of it. -/
def excerpt (document : Text) (span : Span) : Excerpt :=
  let before := document.take (document.length - span.start)
  let marked := (document.drop before.length).take (span.start - span.stop)
  let line := before.count '\n'
  let column := (before.reverse.takeWhile fun c => c != '\n').length
  let content := ((Text.lines document)[line]?).getD []
  { line, column, content
    carets := max 1 (min (Text.byteLength marked) (Text.byteLength content - column)) }

namespace Excerpt

/-- The excerpt over four lines: its place, an empty gutter, the line with
its number, and the carets below it. -/
def text (e : Excerpt) : Text :=
  let number := Nat.toDigits 10 (e.line + 1)
  let gutter := List.replicate (number.length + 1) ' ' ++ ['|']
  " at line ".toList ++ number ++ ", column ".toList ++ Nat.toDigits 10 (e.column + 1) ++ ['\n'] ++
    gutter ++ ['\n'] ++
    number ++ " | ".toList ++ e.content ++ ['\n'] ++
    gutter ++ List.replicate (e.column + 1) ' ' ++ List.replicate e.carets '^' ++ ['\n']

end Excerpt

namespace Fault

/-- What messages say of a fault. -/
def text : Fault → Text
  | malformed => "TOML parse error".toList
  | unsuitable document span reason =>
    "TOML parse error".toList ++ (excerpt document span).text ++ reason.text ++ ['\n']

end Fault

end Toml

end Graft
