import Graft.Failure
import Graft.Path
import Graft.Text.Blank
import Graft.Toml.Fault

/-!
# Settings

What every splice goes by: the permission bits of files that are created
or replaced, whether files are replaced atomically, and the name of the
scaffolding program. `Settings.check` says which settings can be used;
`Problem` holds every reason for which they cannot be had.
-/

namespace Graft

/-- The settings of a splicer. -/
structure Settings where
  /-- The permission bits of a file that is created or replaced. -/
  fileMode : Nat := 0o644
  /-- Replace files by new ones instead of writing into them. -/
  atomicWrites : Bool := false
  /-- The name of the scaffolding program. -/
  scaffoldBin : Text := "kubebuilder".toList
deriving DecidableEq, Repr

namespace Settings

/-- The settings where nothing is said. -/
def default : Settings := {}

/-- The greatest permission bits that can be used. -/
def maxMode : Nat := 0o777

/-- The variable that names the settings file. -/
def fileVariable : Text := "SCAFFOLD_E2E_CONFIG".toList

/-- The variable that overrides the permission bits. -/
def modeVariable : Text := "SCAFFOLD_E2E_FILE_MODE".toList

/-- The variable that overrides the way of writing. -/
def atomicVariable : Text := "SCAFFOLD_E2E_ATOMIC_WRITES".toList

/-- The variable that overrides the program. -/
def binVariable : Text := "SCAFFOLD_E2E_BIN".toList

/-- Why digits do not write a mode. -/
inductive DigitFault where
  /-- There are none. -/
  | empty
  /-- A character is no octal digit. -/
  | notADigit
  /-- The number has more than 32 bits. -/
  | tooLarge
deriving DecidableEq, Repr

/-- What messages say of a digit fault. -/
def DigitFault.text : DigitFault → Text
  | .empty => "cannot parse integer from empty string".toList
  | .notADigit => "invalid digit found in string".toList
  | .tooLarge => "number too large to fit in target type".toList

/-- Why settings cannot be had. -/
inductive Problem where
  /-- The permission bits go beyond the greatest that can be used. -/
  | modeTooLarge (mode : Nat)
  /-- The program has no name but blanks. -/
  | blankBin
  /-- The override of the permission bits writes no mode. -/
  | badMode (value : Text) (fault : DigitFault)
  /-- The override of the way of writing is no truth value. -/
  | badSwitch (value : Text)
  /-- The settings file cannot be used as a document. -/
  | document (fault : Toml.Fault)
  /-- The settings file cannot be read. -/
  | unreadable (file : Path) (failure : Failure)
  /-- The settings in the file cannot be used. -/
  | inFile (file : Path) (problem : Problem)
  /-- A problem reported from elsewhere. -/
  | reported (text : Text)
deriving DecidableEq, Repr

/-- What stands before every message about settings. -/
def problemHeading : Text := "Invalid configuration: ".toList

/-- What messages say of a problem. -/
def Problem.text : Problem → Text
  | .modeTooLarge mode =>
    "file_mode ".toList ++ Nat.toDigits 8 mode ++ " exceeds 0o777".toList
  | .blankBin => "scaffold_bin must not be empty".toList
  | .badMode value fault =>
    modeVariable ++ ['='] ++ Text.quote value ++ ": ".toList ++ fault.text
  | .badSwitch value =>
    atomicVariable ++ ['='] ++ Text.quote value ++ " is not a boolean".toList
  | .document fault => fault.text
  | .unreadable file failure =>
    "Failed to read config file: ".toList ++ file.shown ++ ": ".toList ++ failure.text
  | .inFile file problem =>
    "Failed to parse config file: ".toList ++ file.shown ++ ": ".toList ++ problemHeading ++
      problem.text
  | .reported text => text

/-- Refuses settings that cannot be used: the permission bits first, then
the program. -/
def check (settings : Settings) : Except Problem Unit :=
  if maxMode < settings.fileMode then .error (.modeTooLarge settings.fileMode)
  else if Text.isAllBlank settings.scaffoldBin then .error .blankBin
  else .ok ()

end Settings

end Graft
