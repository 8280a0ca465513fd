import Graft.Toml.Node

/-!
# Building tables

How a document's tables grow. `Fields.define` adds a value under a dotted
key; the tables its parts lead through are made on the way, and only
tables that dotted keys made may receive it. `Fields.within` works on the
table a header's parts lead to, making the tables on the way that are not
there yet. Nothing is ever defined twice: both refuse by `none`.

Keys stay in the order in which they first came. A table that was only
implied so far and then gets a header of its own moves to the end.
-/

namespace Graft

namespace Toml

namespace Fields

/-- What stands under a key. -/
def find? (key : Text) (fields : Fields) : Option (Label × Node) :=
  List.find? (fun field => field.1.key = key) fields

/-- The fields with a key's label and node exchanged. -/
def set (label : Label) (node : Node) (fields : Fields) : Fields :=
  fields.map fun field => if field.1.key = label.key then (label, node) else field

/-- The fields without a key. -/
def remove (key : Text) (fields : Fields) : Fields :=
  fields.filter fun field => field.1.key ≠ key

/-- The fields with a new key at the end. -/
def add (key : Key) (span : Span) (node : Node) (fields : Fields) : Fields :=
  fields ++ [(⟨key.text, span⟩, node)]

/-- Adds a value under a dotted key. The last table on the way must be one
that a dotted key made; those before it may be implied ones too. -/
def define (last : Key) (span : Span) (value : Node) : List Key → Fields → Option Fields
  | [], fields =>
    if (fields.find? last.text).isNone then some (fields.add last span value) else none
  | key :: lead, fields =>
    match fields.find? key.text with
    | none => (define last span value lead []).map fun inner =>
        fields.add key key.span (.table .dotted inner)
    | some (label, .table origin inner) =>
      if origin = .dotted ∨ (origin = .implied ∧ lead ≠ []) then
        (define last span value lead inner).map fun inner =>
          fields.set label (.table origin inner)
      else none
    | some (label, .tables earlier inner) =>
      if lead ≠ [] then
        (define last span value lead inner).map fun inner =>
          fields.set label (.tables earlier inner)
      else none
    | some _ => none

/-- Changes the table to which the parts of a header lead. Tables of any
origin let a header through, an array of tables through its last one. -/
def within (change : Fields → Option Fields) : List Key → Fields → Option Fields
  | [], fields => change fields
  | key :: lead, fields =>
    match fields.find? key.text with
    | none => (within change lead []).map fun inner =>
        fields.add key key.span (.table .implied inner)
    | some (label, .table origin inner) =>
      (within change lead inner).map fun inner => fields.set label (.table origin inner)
    | some (label, .tables earlier inner) =>
      (within change lead inner).map fun inner => fields.set label (.tables earlier inner)
    | some _ => none

end Fields

end Toml

end Graft
