import Graft.Store.Walk

/-!
# Writing a file

A file is written in one of two ways. *In place*, the path is walked to
its end, links included; the file found there is emptied and filled, if
its bits allow it, or a new one is made where the walk ends at a vacant
name. *Atomically*, a temporary file is made and filled in the directory
of the path's last name, given its bits, and renamed onto that name,
whatever stands there; if the renaming is refused the temporary file is
removed again.

The two differ in what they touch. Writing in place keeps the entry, its
hard links and the bits of a file that was there before, up to the set-id
bits (`Mode.afterWrite`). Writing atomically puts a file of its own behind
the entry and leaves the former file and the target of a former link
alone.
-/

namespace Graft

/-- The two ways of writing a file. -/
inductive Method where
  | inPlace
  | atomic
deriving DecidableEq, Repr

namespace Store

/-- The store in which these bytes have been written to the file `id`, which
was open and empty. No bytes are no write, and clear no bits. -/
def fill (store : Store) (id : FileId) (bytes : Bytes) : Store :=
  if bytes.isEmpty then store
  else store.setFile id ⟨(store.fileAt id).mode.afterWrite, bytes⟩

/-- The store in which the file `id` has these bits and its former bytes. -/
def changeMode (store : Store) (id : FileId) (mode : Nat) : Store :=
  store.setFile id { store.fileAt id with mode := mode &&& Mode.all }

/-! ## In place -/

/-- The store in which the file `id` has been emptied, which is a write. -/
def truncate (store : Store) (id : FileId) : Store :=
  store.setFile id ⟨(store.fileAt id).mode.afterWrite, []⟩

/-- Opens a file for writing from its beginning. A file that exists and may
be written is emptied; a vacant name gets a new, empty file, which is open
for writing whatever its bits. -/
def openEmpty (store : Store) (path : Path) (mode : Nat) : Except Failure FileId × Store :=
  match store.walk .writing path with
  | .error failure => (.error failure, store)
  | .ok (.directory _) => (.error .isDirectory, store)
  | .ok (.file _ id) =>
    if (store.fileAt id).mode.isWritable then (.ok id, store.truncate id)
    else (.error .permissionDenied, store)
  | .ok (.vacant place) => (.ok store.freshId, store.addFile place (Mode.created mode) [])

/-- Writes the bytes to the file at the end of the path, which is made if
the name is vacant. -/
def writeInPlace (store : Store) (path : Path) (mode : Nat) (bytes : Bytes) :
    Except (Failure × Path) Unit × Store :=
  match store.openEmpty path mode with
  | (.error failure, store) => (.error (failure, path), store)
  | (.ok id, store) => (.ok (), store.fill id bytes)

/-! ## Atomically -/

/-- The permission bits of a temporary file. -/
def temporaryMode : Mode := 0o600

/-- How many bytes a temporary name has. -/
def temporaryLength : Nat := 10

/-- The temporary names, `.tmp` and tildes: a name of the right length, and
longer ones in case it is taken. -/
def temporaryName (more : Nat) : Name :=
  [0x2e, 0x74, 0x6d, 0x70] ++ List.replicate (temporaryLength - 4 + more) 0x7e

/-- A temporary name that is vacant in a directory: that with the fewest
tildes. No more names are taken than there are entries, and one by which the
way to the working directory may go on. -/
def vacantName (store : Store) (place : Location) : Name :=
  temporaryName <| ((List.range (store.entries.length + 2)).find? fun more =>
    (store.entryAt (place ++ [temporaryName more])).isNone).getD 0

/-- The full path of a temporary file: from the root, where the directory to
which it goes is relative by way of the working directory. -/
def temporaryPath (store : Store) (directory : Path) : Path :=
  ((Path.rooted store.home).join directory).join ⟨temporaryName 0⟩

/-- The directory for a temporary file, which is made by its full path. That
must not be too long. -/
def temporaryPlace (store : Store) (directory : Path) : Except Failure Location := do
  (store.temporaryPath directory).check
  store.enter (store.startOf directory) directory.names

/-- Makes an empty temporary file in the directory a path leads to, and
says where it stands. -/
def makeTemporary (store : Store) (directory : Path) :
    Except Failure (Location × FileId) × Store :=
  match store.temporaryPlace directory with
  | .error failure => (.error (.temporary (store.temporaryPath directory).shown failure), store)
  | .ok place =>
    let spot := place ++ [store.vacantName place]
    (.ok (spot, store.freshId), store.addFile spot temporaryMode [])

/-- The location whose entry a file renamed to the path would take. A name
of dots cannot be taken, a directory neither, and a slash after the name asks
for a directory, which the renamed file is not. A NUL byte makes the path a
bad argument, where opening it would have blamed the name. -/
def renameTarget (store : Store) (path : Path) : Except Failure Location :=
  if path.bytes.contains 0 then .error .invalidArgument
  else do
    match ← store.lastPlace path with
    | none => .error .busy
    | some place =>
      if path.endsInSlash then .error .notDirectory
      else if store.entryAt place = some .directory then .error .isDirectory
      else .ok place

/-- Gives the entry at `target` the file named at `source`, whose own entry
goes. What is moved to where it stands stays. -/
def move (store : Store) (source target : Location) : Store :=
  if source = target then store
  else match store.entryAt source with
    | none => store
    | some entry =>
      let store := store.unlink target
      { store with entries := Table.put target entry (Table.erase source store.entries) }

/-- Puts a new file with these bits and bytes where the path's last name
stands. A failure to make the temporary file is one of the directory, any
later failure one of the path. No path leads to a temporary file, whose
real name is drawn at random, so the path is resolved without it. -/
def writeAtomically (store : Store) (path : Path) (mode : Nat) (bytes : Bytes) :
    Except (Failure × Path) Unit × Store :=
  match store.makeTemporary path.directory with
  | (.error failure, store) => (.error (failure, path.directory), store)
  | (.ok (spot, id), made) =>
    let filled := (made.fill id bytes).changeMode id mode
    match store.renameTarget path with
    | .error failure => (.error (failure, path), filled.unlink spot)
    | .ok target => (.ok (), filled.move spot target)

/-- Writes bytes to a path in the given way. -/
def writeBytes (store : Store) (method : Method) (path : Path) (mode : Nat) (bytes : Bytes) :
    Except (Failure × Path) Unit × Store :=
  match method with
  | .inPlace => store.writeInPlace path mode bytes
  | .atomic => store.writeAtomically path mode bytes

end Store

end Graft
