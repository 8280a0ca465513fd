import Graft.Text.Utf8

/-!
# Paths

A path is a byte string in which slashes part the names. One that begins
with a slash is absolute and starts at the root of all directories; any
other starts in the directory in which one works. Doubled slashes part
names as one does. Two names are no entries: a single dot stands for the
directory it is met in (`here`), two dots for the one above that (`up`).
Which directory that is depends on the links on the way, so neither is
taken out of a path before it is walked.

Two questions are asked of a path. Walking asks for its `names`, in order,
for where they start and whether a slash ends them. Replacing an entry asks
for the directory the entry stands in, as a path of its own: `directory`
drops the last name and the slashes and dot names around it. What is left
of an absolute path is at least its first slash, and of one name alone the
dot.
-/

namespace Graft

/-- The name of an entry in a directory. -/
abbrev Name := Bytes

/-- A path, as its bytes. -/
structure Path where
  bytes : Bytes
deriving DecidableEq, Repr

namespace Path

/-- The byte that parts names. -/
def slash : UInt8 := 0x2f

/-- The byte of which the names of directories relative to others consist. -/
def dot : UInt8 := 0x2e

/-- The name by which a directory means itself. -/
def here : Name := [dot]

/-- The name by which a directory means the one it stands in. -/
def up : Name := [dot, dot]

/-- The path written as a text. -/
def ofText (content : Text) : Path :=
  ⟨Text.encode content⟩

/-- The path as messages show it. -/
def shown (path : Path) : Text :=
  Text.showBytes path.bytes

/-- Showing a path that was written as a text gives the text back. -/
@[simp] theorem shown_ofText (content : Text) : (ofText content).shown = content := by
  simp [shown, ofText]

/-! ## Names -/

/-- The path starts at the root. -/
def isAbsolute (path : Path) : Bool :=
  path.bytes.head? = some slash

/-- The names on the path, dot names among them. -/
def names (path : Path) : List Name :=
  (path.bytes.splitOn slash).filter fun name => !name.isEmpty

/-- The last byte is a slash. -/
def endsInSlash (path : Path) : Bool :=
  path.bytes.getLast? = some slash

/-- The relative path with these names, a slash between each two. -/
def ofNames (parts : List Name) : Path :=
  ⟨[slash].intercalate parts⟩

/-- The absolute path with these names. -/
def rooted (parts : List Name) : Path :=
  ⟨slash :: (ofNames parts).bytes⟩

/-- A path that starts where another leads. An absolute one starts at the
root still. -/
def join (directory path : Path) : Path :=
  if path.isAbsolute || directory.bytes.isEmpty then path
  else if directory.endsInSlash then ⟨directory.bytes ++ path.bytes⟩
  else ⟨directory.bytes ++ slash :: path.bytes⟩

/-! ## The directory of a path -/

/-- Takes the slashes and the dot names from the front of a path read
backwards. A dot name counts where a slash precedes it on the path. -/
def dropTrailing : Bytes → Bytes
  | [] => []
  | [b] => if b = slash then [] else [b]
  | b :: c :: rest =>
    if b = slash then dropTrailing (c :: rest)
    else if b = dot ∧ c = slash then dropTrailing rest
    else b :: c :: rest

/-- The path up to its last name, read backwards: nothing, or a slash comes
first. -/
def beforeLast (path : Path) : Bytes :=
  (dropTrailing path.bytes.reverse).dropWhile fun b => b != slash

/-- The directory in which the last name of the path stands. -/
def directory (path : Path) : Path :=
  match path.beforeLast with
  | [] => ⟨here⟩
  | before =>
    match dropTrailing before with
    | [] => ⟨[slash]⟩
    | backwards => ⟨backwards.reverse⟩

example : (ofText "a//b/./c/".toList).directory = ofText "a//b".toList := by decide +kernel

example : (ofText "d/..".toList).directory = ofText "d".toList := by decide +kernel

example : ["./a", "d/.", "..", "/."].map (fun path => (ofText path.toList).directory) =
    List.replicate 4 (ofText ".".toList) := by
  decide +kernel

example : (ofText "/./f".toList).directory = ofText "/".toList := by decide +kernel

example : (ofText "/.//d/../f/".toList).names = [here, [0x64], up, [0x66]] := by decide +kernel

end Path

end Graft
