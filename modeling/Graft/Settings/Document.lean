import Graft.Settings.Basic
import Graft.Toml.Document

/-!
# Settings from a document

A settings file is a TOML document with up to three keys of its own; it may
hold any others. A key that is missing leaves the default. The first field
in the document that does not suit is at fault, and only settings whose
fields all suit are checked.
-/

namespace Graft

namespace Settings

open Toml

/-- One more than the greatest mode a document can give. -/
def modeBound : Int := 0x100000000

/-- The settings after one field of the document. -/
def readField (settings : Settings) (key : Text) (node : Node) : Except Reason Settings :=
  if key = "file_mode".toList then
    match node with
    | .integer value =>
      if 0 ≤ value ∧ value < modeBound then .ok { settings with fileMode := value.toNat }
      else .error (.outOfRange value .mode)
    | _ => .error (.wrongType node.found .mode)
  else if key = "atomic_writes".toList then
    match node with
    | .boolean value => .ok { settings with atomicWrites := value }
    | _ => .error (.wrongType node.found .boolean)
  else if key = "scaffold_bin".toList then
    match node with
    | .string content => .ok { settings with scaffoldBin := content }
    | _ => .error (.wrongType node.found .string)
  else .ok settings

/-- The settings after the fields of a document, in order. A field that
does not suit is named by the stretch its label points at. -/
def readFields (settings : Settings) : Fields → Except (Span × Reason) Settings
  | [] => .ok settings
  | (label, node) :: rest =>
    match settings.readField label.key node with
    | .ok settings => readFields settings rest
    | .error reason => .error (label.span, reason)

/-- The settings that a document gives. -/
def ofDocument (document : Text) : Except Problem Settings :=
  match Toml.parse? document with
  | none => .error (.document .malformed)
  | some fields =>
    match readFields default fields with
    | .error (span, reason) => .error (.document (.unsuitable document span reason))
    | .ok settings => do
      settings.check
      .ok settings

end Settings

end Graft
