import Graft.Toml.Value

/-!
# TOML documents

A document is read in two steps. The first, `statements?`, reads its lines
as *statements*: a value for a key, the header of a table, or the header of
one more table in an array. The second, `build`, gathers the values after
each header into a *section* and puts the sections together, refusing
whatever would define a key or a table twice.
-/

namespace Graft

namespace Toml

/-- One statement of a document. -/
inductive Statement where
  /-- A value for a key, and the stretch the value takes. -/
  | value (path : KeyPath) (span : Span) (node : Node)
  /-- The header of a table, and the stretch it takes. -/
  | table (path : KeyPath) (span : Span)
  /-- The header of a further table in an array of tables. -/
  | element (path : KeyPath) (span : Span)

/-- The mark that may stand before everything else. -/
def byteOrderMark : Char := '\uFEFF'

/-- Reads one statement and the rest of its line. -/
def statement? (content : Text) : Option (Statement × Text) :=
  match content with
  | '[' :: '[' :: inner => do
    let (path, rest) ← keyPath? depthLimit inner
    let rest ← skip? ']' rest
    let rest ← skip? ']' rest
    let following ← finishLine? rest
    some (.element path ⟨content.length, rest.length⟩, following)
  | '[' :: inner => do
    let (path, rest) ← keyPath? depthLimit inner
    let rest ← skip? ']' rest
    let following ← finishLine? rest
    some (.table path ⟨content.length, rest.length⟩, following)
  | _ => do
    let ((path, span, node), rest) ← assignment? (value? depthLimit) content
    let following ← finishLine? rest
    some (.value path span node, following)

/-- Reads statements to the end of the document. Every round takes a
character, so `fuel` above the length suffices. -/
def statementsFrom? : Nat → Text → Option (List Statement)
  | 0, _ => none
  | fuel + 1, content =>
    match skipSpaces content with
    | [] => some []
    | c :: rest =>
      if c == '#' || c == '\n' || c == '\r' then
        finishLine? (c :: rest) >>= statementsFrom? fuel
      else do
        let (statement, rest) ← statement? (c :: rest)
        let statements ← statementsFrom? fuel rest
        some (statement :: statements)

/-- The statements of a document. -/
def statements? (document : Text) : Option (List Statement) :=
  match document with
  | c :: rest =>
    if c == byteOrderMark then statementsFrom? (rest.length + 1) rest
    else statementsFrom? (document.length + 1) document
  | [] => some []

/-! ## Sections -/

/-- A value, the dotted key before it and the stretch it takes. -/
abbrev Assignment := KeyPath × Span × Node

/-- A header with the values up to the next one. -/
structure Section where
  /-- The header names one more table of an array. -/
  isElement : Bool
  path : KeyPath
  header : Span
  values : List Assignment

/-- The values before any header, and the sections after them. -/
def sections : List Statement → List Assignment × List Section
  | [] => ([], [])
  | statement :: rest =>
    let (values, others) := sections rest
    match statement with
    | .value path span node => ((path, span, node) :: values, others)
    | .table path span => ([], ⟨false, path, span, values⟩ :: others)
    | .element path span => ([], ⟨true, path, span, values⟩ :: others)

/-- The fields with the values added, each under its key. -/
def fill (values : List Assignment) (fields : Fields) : Option Fields :=
  values.foldlM (fun fields (path, span, node) => fields.define path.last span node path.lead)
    fields

namespace Section

/-- From the start of the header to the end of the last value below it. -/
def span (part : Section) : Span :=
  match part.values.getLast? with
  | some (_, last, _) => ⟨part.header.start, last.stop⟩
  | none => part.header

/-- Adds the table of a section to the table its header leads to. A table
that has only been implied so far goes on with what it holds. -/
def addTable (part : Section) (fields : Fields) : Option Fields := do
  let former ← match fields.find? part.path.last.text with
    | none => some []
    | some (_, .table .implied inner) => some inner
    | some _ => none
  let inner ← fill part.values former
  some ((fields.remove part.path.last.text).add part.path.last part.span (.table .header inner))

/-- Adds the table of a section to an array of tables, which is new or grows
by it. -/
def addElement (part : Section) (fields : Fields) : Option Fields := do
  let inner ← fill part.values []
  match fields.find? part.path.last.text with
  | none => some (fields.add part.path.last part.span (.tables [] inner))
  | some (label, .tables earlier last) =>
    some (fields.set ⟨label.key, ⟨label.span.start, part.span.stop⟩⟩
      (.tables (earlier ++ [last]) inner))
  | some _ => none

/-- Adds a section to the document. -/
def addTo (part : Section) (document : Fields) : Option Fields :=
  document.within (if part.isElement then part.addElement else part.addTable) part.path.lead

end Section

/-- The document that statements make up. -/
def build (statements : List Statement) : Option Fields := do
  let (values, parts) := sections statements
  let document ← fill values []
  parts.foldlM (fun document part => part.addTo document) document

/-- The table that a text describes, or `none` where the text is no TOML. -/
def parse? (document : Text) : Option Fields :=
  statements? document >>= build

end Toml

end Graft
