import Graft.Toml.Fields
import Graft.Toml.Moment
import Graft.Toml.Numeral

/-!
# Keys and values of TOML

A key is a row of parts with dots between them, fewer than eighty. A value
is a text, a number, a moment, a truth value, an array in brackets or a
table in braces; arrays and braces are nested less than eighty deep. An
array may run over lines, hold comments and end in a comma; braces may do
none of this.
-/

namespace Graft

namespace Toml

/-- How many parts a key may have, and how deep values may be nested. -/
def depthLimit : Nat := 79

/-- Reads one part of a key. -/
def keyPart? (content : Text) : Option (Text × Text) :=
  (shortString? content).or <|
    let part := content.takeWhile isBareKeyChar
    if part.isEmpty then none else some (part, content.dropWhile isBareKeyChar)

/-- Reads a key of at most so many parts, with spaces around each. -/
def keyPath? : Nat → Reader KeyPath
  | 0, _ => none
  | count + 1, content => do
    let content := skipSpaces content
    let (part, rest) ← keyPart? content
    let key : Key := ⟨part, ⟨content.length, rest.length⟩⟩
    match skipSpaces rest with
    | '.' :: rest => do
      let (path, rest) ← keyPath? count rest
      some (⟨key :: path.lead, path.last⟩, rest)
    | rest => some (⟨[], key⟩, rest)

/-- Reads a value that holds no others. -/
def plainValue? (content : Text) : Option (Node × Text) :=
  match content with
  | 't' :: 'r' :: 'u' :: 'e' :: rest => some (.boolean true, rest)
  | 'f' :: 'a' :: 'l' :: 's' :: 'e' :: rest => some (.boolean false, rest)
  | _ => ((string? content).map fun (text, rest) => (.string text, rest)).or <|
      (moment? content).or (number? content)

/-- Reads on after an opening bracket, with a reader for the items. Every
item takes a character, so `fuel` above the length suffices. -/
def items? (item? : Reader Node) : Nat → Reader (List Node)
  | 0, _ => none
  | fuel + 1, content =>
    match skipGaps false content with
    | ']' :: rest => some ([], rest)
    | content => do
      let (item, rest) ← item? content
      match skipGaps false rest with
      | ',' :: rest => do
        let (items, rest) ← items? item? fuel rest
        some (item :: items, rest)
      | ']' :: rest => some ([item], rest)
      | _ => none

/-- Reads a key, the equals sign and a value, and gives the value with the
stretch it takes. -/
def assignment? (value? : Reader Node) (content : Text) :
    Option ((KeyPath × Span × Node) × Text) := do
  let (path, rest) ← keyPath? depthLimit content
  let rest ← skip? '=' rest
  let start := skipSpaces rest
  let (value, rest) ← value? start
  some ((path, ⟨start.length, rest.length⟩, value), rest)

/-- Reads on in braces at a key. -/
def braces? (value? : Reader Node) : Nat → Fields → Reader Fields
  | 0, _, _ => none
  | fuel + 1, fields, content => do
    let ((path, span, value), rest) ← assignment? value? content
    let fields ← fields.define path.last span value path.lead
    match skipSpaces rest with
    | ',' :: rest => braces? value? fuel fields rest
    | '}' :: rest => some (fields, rest)
    | _ => none

/-- Reads a value in which others are nested at most so deep. -/
def value? : Nat → Reader Node
  | 0, content => plainValue? content
  | depth + 1, content =>
    match content with
    | '[' :: rest => do
      let (items, rest) ← items? (value? depth) (rest.length + 1) rest
      some (.array items, rest)
    | '{' :: rest =>
      match skipSpaces rest with
      | '}' :: rest => some (.braces [], rest)
      | rest => do
        let (fields, rest) ← braces? (value? depth) (rest.length + 1) [] rest
        some (.braces fields, rest)
    | content => plainValue? content

end Toml

end Graft
