import Graft.Text.Search

/-!
# Failures of file access

Why a file could not be read, written or made. Each cause has a *kind*, by which
a caller tells failures apart, and a text for messages, which ends in the
number the system gives the cause where it gives one. A caller may also
report a failure of its own, with a kind and a text it chooses.
-/

namespace Graft

namespace Failure

/-- The kinds by which failures are told apart. -/
inductive Kind where
  | notFound
  | permissionDenied
  | alreadyExists
  | isADirectory
  | notADirectory
  | invalidData
  | invalidInput
  | invalidFilename
  | filesystemLoop
  | resourceBusy
  | other
deriving DecidableEq, Repr

end Failure

/-- A cause for which a file could not be read, written or made. -/
inductive Failure where
  /-- A name on the way does not exist. -/
  | notFound
  /-- The permission bits of the file forbid it. -/
  | permissionDenied
  /-- A directory gets no further names. -/
  | notPermitted
  /-- A name is taken that was to be vacant. -/
  | alreadyExists
  /-- A file was wanted and a directory stands there. -/
  | isDirectory
  /-- A directory was wanted and something else stands there. -/
  | notDirectory
  /-- A name or the whole path has more bytes than the system takes. -/
  | nameTooLong
  /-- More symbolic links had to be followed than the system allows. -/
  | linkLoop
  /-- The entry cannot be replaced, because the path names a directory by a dot. -/
  | busy
  /-- The path to open holds a NUL byte. -/
  | nulInName
  /-- The path to rename to holds a NUL byte. -/
  | invalidArgument
  /-- The bytes of the file are not UTF-8. -/
  | notText
  /-- The temporary file of that name could not be made. -/
  | temporary (name : Text) (cause : Failure)
  /-- A failure reported from elsewhere. -/
  | reported (kind : Failure.Kind) (text : Text)
deriving DecidableEq, Repr

namespace Failure

/-- The kind of a failure. A temporary file fails as its cause does. -/
def kind : Failure → Kind
  | notFound => .notFound
  | permissionDenied | notPermitted => .permissionDenied
  | alreadyExists => .alreadyExists
  | isDirectory => .isADirectory
  | notDirectory => .notADirectory
  | nameTooLong => .invalidFilename
  | linkLoop => .filesystemLoop
  | busy => .resourceBusy
  | nulInName | invalidArgument => .invalidInput
  | notText => .invalidData
  | temporary _ cause => kind cause
  | reported k _ => k

/-- What messages say of a failure. -/
def text : Failure → Text
  | notFound => "No such file or directory (os error 2)".toList
  | permissionDenied => "Permission denied (os error 13)".toList
  | notPermitted => "Operation not permitted (os error 1)".toList
  | alreadyExists => "File exists (os error 17)".toList
  | isDirectory => "Is a directory (os error 21)".toList
  | notDirectory => "Not a directory (os error 20)".toList
  | nameTooLong => "File name too long (os error 36)".toList
  | linkLoop => "Too many levels of symbolic links (os error 40)".toList
  | busy => "Device or resource busy (os error 16)".toList
  | nulInName => "file name contained an unexpected NUL byte".toList
  | invalidArgument => "Invalid argument (os error 22)".toList
  | notText => "stream did not contain valid UTF-8".toList
  | temporary name cause => text cause ++ " at path ".toList ++ name
  | reported _ t => t

end Failure

end Graft
