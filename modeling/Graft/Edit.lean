import Graft.Journal
import Graft.Webhook

/-!
# Edits of a file's text

An `Edit` is what a splicer is asked to do to a file. `decide` says what it
makes of the text it is shown: another text to be written, no change, or
an error; it sees nothing but the text. The other functions give the
events with which an edit goes along: `opening` before the file is read,
`notice` when it has been decided, and `closing` after all went well.
-/

namespace Graft

/-- What can be done to the text of a file. -/
inductive Edit where
  /-- Put `payload` behind `marker`. -/
  | insert (marker payload : Text)
  /-- Take the comment `sign` from the lines of `block`. -/
  | uncomment (block sign : Text)
  /-- Make these replacements. -/
  | replace (replacements : List Replacement)
  /-- Fill in the sample webhook. -/
  | fillWebhook
deriving DecidableEq, Repr

/-- What an edit makes of a text. -/
inductive Decision where
  /-- This text takes its place. -/
  | write (content : Text)
  /-- There is nothing to do. -/
  | keep
  /-- The edit cannot be made. -/
  | refuse (error : Error)
deriving DecidableEq, Repr

namespace Decision

/-- What an edit that may fail makes of a text. -/
def ofExcept : Except Error Text → Decision
  | .ok content => .write content
  | .error error => .refuse error

/-- What an edit that may have nothing to do makes of a text. -/
def ofOption : Option Text → Decision
  | some content => .write content
  | none => .keep

end Decision

namespace Edit

/-- What an edit makes of a text. -/
def decide (edit : Edit) (content : Text) : Decision :=
  match edit with
  | insert marker payload => .ofExcept (insertAfter content marker payload)
  | uncomment block sign => .ofOption (Graft.uncomment content block sign)
  | replace replacements => .ofExcept (applyReplacements content replacements)
  | fillWebhook => .ofExcept (applyReplacements content Webhook.replacements)

/-- To uncomment is left to whether the block is there. -/
theorem decide_uncomment (block sign content : Text) :
    (uncomment block sign).decide content = .ofOption (Graft.uncomment content block sign) := rfl

/-- The events before the file is read. -/
def opening (edit : Edit) (path : Path) : List Event :=
  match edit with
  | insert _ payload => [.inserting (Text.byteLength payload) path]
  | uncomment _ _ => []
  | replace replacements => [.replacing replacements.length path]
  | fillWebhook => [.replacing Webhook.replacements.length path]

/-- The events when it is decided what becomes of the text. -/
def notice (edit : Edit) (path : Path) (decision : Decision) : List Event :=
  match edit, decision with
  | insert _ _, .refuse _ => [.insertMarkerMissing path]
  | replace _, .refuse error => [.targetMissing path error]
  | fillWebhook, .refuse error => [.targetMissing path error]
  | uncomment block _, .write _ => [.uncommenting (Text.lines block).length path]
  | uncomment _ _, .keep => [.uncommentAbsent path]
  | _, _ => []

/-- The events after the edit went well. -/
def closing (edit : Edit) (path : Path) : List Event :=
  match edit with
  | fillWebhook => [.webhookFilled path]
  | _ => []

end Edit

end Graft
