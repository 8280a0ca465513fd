import Graft.Error
import Graft.Store.Write

/-!
# The journal

File operations report what they do as events. Each event has a level and
a message.
-/

namespace Graft

/-- How much an event matters. -/
inductive Level where
  | debug
  | info
  | warn
deriving DecidableEq, Repr

/-- Something a file operation reports. -/
inductive Event where
  /-- A file is about to be read. -/
  | reading (path : Path)
  /-- A file is about to be written. -/
  | writing (method : Method) (path : Path) (bytes : Nat)
  /-- A text of so many bytes is about to be inserted. -/
  | inserting (bytes : Nat) (path : Path)
  /-- The marker to insert behind is missing. -/
  | insertMarkerMissing (path : Path)
  /-- A block of so many lines is about to be uncommented. -/
  | uncommenting (lines : Nat) (path : Path)
  /-- The block to uncomment is not there. -/
  | uncommentAbsent (path : Path)
  /-- So many replacements are about to be made. -/
  | replacing (count : Nat) (path : Path)
  /-- A target to replace is missing. -/
  | targetMissing (path : Path) (error : Error)
  /-- The sample webhook is filled in. -/
  | webhookFilled (path : Path)
  /-- There is no settings file, so the defaults hold. -/
  | settingsAbsent (path : Path)
  /-- The settings file is taken up. -/
  | settingsLoaded (path : Path)
deriving DecidableEq, Repr

namespace Event

/-- The level of an event. Only what is missing warns, and only the filled
webhook informs. -/
def level : Event → Level
  | insertMarkerMissing _ | targetMissing _ _ => .warn
  | webhookFilled _ => .info
  | _ => .debug

/-- A number in decimal. -/
def count (n : Nat) : Text := Nat.toDigits 10 n

/-- The message of an event. -/
def message : Event → Text
  | reading path => "Reading file: ".toList ++ path.shown
  | writing method path bytes =>
    (match method with
      | .inPlace => "Writing file in place: ".toList
      | .atomic => "Writing file atomically: ".toList) ++
      path.shown ++ " (".toList ++ count bytes ++ " bytes)".toList
  | inserting bytes path =>
    "Inserting ".toList ++ count bytes ++ " bytes after marker in ".toList ++ path.shown
  | insertMarkerMissing path => "Insert marker not found in ".toList ++ path.shown
  | uncommenting lines path =>
    "Uncommenting ".toList ++ count lines ++ " lines in ".toList ++ path.shown
  | uncommentAbsent path =>
    "Uncomment target not present in ".toList ++ path.shown ++ ", skipping".toList
  | replacing n path =>
    "Applying ".toList ++ count n ++ " replacements to ".toList ++ path.shown
  | targetMissing path error =>
    "Replacement target missing in ".toList ++ path.shown ++ ": ".toList ++ error.message
  | webhookFilled path => "Implemented sample webhook logic in ".toList ++ path.shown
  | settingsAbsent path =>
    "Config file ".toList ++ path.shown ++ " not found, using defaults".toList
  | settingsLoaded path => "Loaded config from ".toList ++ path.shown

end Event

end Graft
