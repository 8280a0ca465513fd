import Graft.Settings.Basic

/-!
# Errors

Every operation fails with one of four errors: a file could not be read or
written, a marker that had to be there is missing, the random source gave
nothing, or the settings cannot be used. The first two may name the file
they are about. The file named first stays: `inFile` fills in a missing
one and never changes another.
-/

namespace Graft

/-- An error of an operation. -/
inductive Error where
  /-- A file could not be read or written. -/
  | io (failure : Failure) (path : Option Path)
  /-- The marker stands nowhere in the text. -/
  | markerNotFound (marker : Text) (path : Option Path)
  /-- The random source failed, for the reason it gave. -/
  | entropy (message : Text)
  /-- The settings cannot be used. -/
  | config (problem : Settings.Problem)
deriving DecidableEq, Repr

namespace Error

/-- The error with the file it is about, unless it names one already or is
about none. -/
def inFile (file : Path) : Error → Error
  | io failure none => io failure (some file)
  | markerNotFound marker none => markerNotFound marker (some file)
  | other => other

/-- The file the error is about. -/
def path : Error → Option Path
  | io _ path => path
  | markerNotFound _ path => path
  | entropy _ => none
  | config _ => none

/-- The error is a missing marker. -/
def isMarkerNotFound : Error → Bool
  | markerNotFound _ _ => true
  | _ => false

/-- The end of a message that names a file. -/
def pathSuffix : Option Path → Text
  | none => []
  | some path => " in ".toList ++ path.shown

/-- The message of an error. -/
def message : Error → Text
  | io failure _ => "IO error: ".toList ++ failure.text
  | markerNotFound marker path =>
    "can't find ".toList ++ Text.quote marker ++ pathSuffix path
  | entropy message => "Entropy source failed: ".toList ++ message
  | config problem => Settings.problemHeading ++ problem.text

/-- A file named once stays named. -/
@[simp] theorem inFile_inFile (a b : Path) (e : Error) :
    (e.inFile a).inFile b = e.inFile a := by
  cases e with
  | io failure path => cases path <;> rfl
  | markerNotFound marker path => cases path <;> rfl
  | entropy message => rfl
  | config problem => rfl

end Error

end Graft
