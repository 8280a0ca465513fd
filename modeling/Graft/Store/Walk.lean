import Graft.Failure
import Graft.Store.Basic

/-!
# Walking a path

A walk starts at the root or, along a relative path, in the working
directory, and takes the names of the path one by one. All but the last
must lead to a directory. Two dots lead to the directory above the one that
has been reached, whichever way it was, and from the root nowhere else. A
symbolic link on the way puts its own names in front of those still to come
and starts them at the root or in the directory that holds the link, as its
path is absolute or not; the last name is followed too. At most `linkBudget`
links are followed in one walk, so no walk runs on.

Where a walk ends is a `Spot`: a directory, a file, or a name that is
still vacant in a directory. A slash after the last name asks for a
directory there; who walks in order to write is refused at that slash.
-/

namespace Graft

/-- How many symbolic links one walk follows. -/
def linkBudget : Nat := 40

/-- How many bytes a name may have. -/
def maxNameLength : Nat := 255

/-- How many bytes a path may have. -/
def maxPathLength : Nat := 4095

/-- What a walk is for. -/
inductive Purpose where
  | reading
  | writing
deriving DecidableEq, Repr

/-- Where a walk ends. -/
inductive Spot where
  /-- The directory at a location. -/
  | directory (place : Location)
  /-- The file that the entry at a location names. -/
  | file (place : Location) (id : FileId)
  /-- No entry yet, in a directory that exists. -/
  | vacant (place : Location)
deriving DecidableEq, Repr

namespace Sight

/-- All there is to see can be read. -/
def isReadable : Sight → Bool
  | file mode _ => mode.isReadable
  | directory | link _ => true

end Sight

namespace Path

/-- Refuses the paths that the system takes for no file at all. -/
def check (path : Path) : Except Failure Unit :=
  if path.bytes.contains 0 then .error .nulInName
  else if path.bytes.isEmpty then .error .notFound
  else if maxPathLength < path.bytes.length then .error .nameTooLong
  else .ok ()

/-- Where the path starts if a relative one starts at `place`. -/
def start (path : Path) (place : Location) : Location :=
  if path.isAbsolute then [] else place

end Path

namespace Store

/-- Takes the names from a directory onward, up to the first symbolic link.
There `follow` goes on, from where the link's target starts, with the names
of the target before those still to come. `slash` says that a slash stands
after the last name. -/
def takeNames (store : Store) (purpose : Purpose)
    (follow : Location → List Name → Bool → Except Failure Spot) :
    Location → List Name → Bool → Except Failure Spot
  | place, [], _ => .ok (.directory place)
  | place, name :: rest, slash =>
    if name = Path.here then takeNames store purpose follow place rest slash
    else if name = Path.up then takeNames store purpose follow place.dropLast rest slash
    else if rest.isEmpty && slash && purpose = .writing then .error .isDirectory
    else if maxNameLength < name.length then .error .nameTooLong
    else match store.entryAt (place ++ [name]) with
      | some .directory => takeNames store purpose follow (place ++ [name]) rest slash
      | some (.link target) =>
        follow (target.start place) (target.names ++ rest)
          (if rest.isEmpty then slash || target.endsInSlash else slash)
      | some (.file id) =>
        if rest.isEmpty && !slash then .ok (.file (place ++ [name]) id) else .error .notDirectory
      | none => if rest.isEmpty then .ok (.vacant (place ++ [name])) else .error .notFound

/-- Takes the names from a directory onward and follows at most so many
symbolic links. -/
def walkFrom (store : Store) (purpose : Purpose) :
    Nat → Location → List Name → Bool → Except Failure Spot
  | 0 => store.takeNames purpose fun _ _ _ => .error .linkLoop
  | budget + 1 => store.takeNames purpose (store.walkFrom purpose budget)

/-- Where a path starts in the store. -/
def startOf (store : Store) (path : Path) : Location :=
  path.start store.home

/-- Walks a path. -/
def walk (store : Store) (purpose : Purpose) (path : Path) : Except Failure Spot := do
  path.check
  store.walkFrom purpose linkBudget (store.startOf path) path.names path.endsInSlash

/-- The directory to which names lead from another. -/
def enter (store : Store) (place : Location) (names : List Name) : Except Failure Location := do
  match ← store.walkFrom .reading linkBudget place (names ++ [Path.here]) false with
  | .directory place => .ok place
  | .file _ _ | .vacant _ => .error .notDirectory

/-- The location for which the last name of a path stands, whatever stands
there: a link in that place is not followed. A path that ends in one dot or
two or has no name means a directory by no name of its own, and gets none. -/
def lastPlace (store : Store) (path : Path) : Except Failure (Option Location) := do
  path.check
  let place ← store.enter (store.startOf path) path.names.dropLast
  match path.names.getLast? with
  | none => .ok none
  | some name =>
    if name = Path.here ∨ name = Path.up then .ok none
    else if maxNameLength < name.length then .error .nameTooLong
    else .ok (some (place ++ [name]))

/-! ## Reading -/

/-- The file or directory exists, through any links. -/
def pathExists (store : Store) (path : Path) : Bool :=
  match store.walk .reading path with
  | .ok (.directory _) | .ok (.file _ _) => true
  | _ => false

/-- The bytes of the file to which a path leads. -/
def readBytes (store : Store) (path : Path) : Except Failure Bytes := do
  match ← store.walk .reading path with
  | .directory _ => .error .isDirectory
  | .vacant _ => .error .notFound
  | .file _ id =>
    if (store.fileAt id).mode.isReadable then .ok (store.fileAt id).bytes
    else .error .permissionDenied

/-- The text in the file to which a path leads. -/
def readText (store : Store) (path : Path) : Except Failure Text := do
  match Text.decode? (← store.readBytes path) with
  | some content => .ok content
  | none => .error .notText

/-- The listing as someone gets it who reads every file for it: one file
that forbids reading spoils it. -/
def survey (store : Store) : Except Failure (List (Location × Sight)) :=
  if store.listing.all fun entry => entry.2.isReadable then .ok store.listing
  else .error .permissionDenied

end Store

end Graft
