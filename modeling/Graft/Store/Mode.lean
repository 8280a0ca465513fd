/-!
# Permission bits

A file carries twelve bits: three for each of owner, group and others, the
sticky bit, and the two set-id bits, with which a program runs as its
file's owner or group. Whoever works with a store owns its files, so the
owner's bits say what may be done.

The set-id bits must not vouch for bytes written later. Writing into a
file therefore clears the one of the owner, and the one of the group where
the group may execute the file; where it may not, that bit has another
meaning and stays.
-/

namespace Graft

/-- The permission bits of a file, as a number. -/
abbrev Mode := Nat

namespace Mode

/-- The bits a file can have. -/
def all : Mode := 0o7777

/-- The bits withheld from a file that opening creates. -/
def withheld : Mode := 0o022

/-- The bit that lets the owner read. -/
def ownerRead : Mode := 0o400

/-- The bit that lets the owner write. -/
def ownerWrite : Mode := 0o200

/-- The bit that lets the group execute. -/
def groupExecute : Mode := 0o010

/-- The set-id bit of the owner. -/
def setOwner : Mode := 0o4000

/-- The set-id bit of the group. -/
def setGroup : Mode := 0o2000

/-- Some of the bits are set. -/
def hasAny (mode bits : Mode) : Bool :=
  mode &&& bits != 0

/-- The mode with these bits cleared. -/
def without (mode bits : Mode) : Mode :=
  mode ^^^ (mode &&& bits)

/-- The file can be opened for reading. -/
def isReadable (mode : Mode) : Bool :=
  mode.hasAny ownerRead

/-- The file can be opened for writing. -/
def isWritable (mode : Mode) : Bool :=
  mode.hasAny ownerWrite

/-- The bits of a file that is created with this mode. -/
def created (mode : Nat) : Mode :=
  without (mode &&& all) withheld

/-- The bits left after writing into the file. -/
def afterWrite (mode : Mode) : Mode :=
  let mode := mode.without setOwner
  if mode.hasAny groupExecute then mode.without setGroup else mode

example : created 0o7666 = 0o7644 := by decide

example : [0o4755, 0o2755, 0o2745, 0o6644, 0o1777].map afterWrite =
    [0o755, 0o755, 0o2745, 0o2644, 0o1777] := by decide

end Mode

end Graft
