import Graft.Path
import Graft.Store.Mode
import Graft.Store.Table

/-!
# The store of files

A store is a tree of directories under one root, with the directory in
which one works (`home`), where relative paths start. It is kept as two
tables. `entries` gives each location its entry: a directory, a symbolic
link, or the number of a file. `files` gives each number the file's
permission bits and bytes. Two entries with one number are hard links to
one file. A file lasts as long as an entry names it. The root, the working
directory and all between them are there in every store, and have no
entries. Whoever works with a store may enter and change any directory.

What a reader sees of a store is `look`: what stands at each location,
with a file's bits and bytes in place of its number. `shareFile` says
which locations hold one and the same file.
-/

namespace Graft

/-- Where an entry stands: the names that lead to it from the root. The
root itself has none. -/
abbrev Location := List Name

/-- The number by which entries refer to a file. -/
abbrev FileId := Nat

/-- What stands at a location. -/
inductive Entry where
  | directory
  | file (id : FileId)
  | link (target : Path)
deriving DecidableEq, Repr

/-- A regular file: its permission bits and its bytes. -/
structure File where
  mode : Mode
  bytes : Bytes
deriving DecidableEq, Repr

/-- A tree of directories, links and files. -/
structure Store where
  /-- The working directory. -/
  home : Location
  entries : Table Location Entry
  files : Table FileId File
deriving DecidableEq, Repr

/-- What a reader sees at a location. -/
inductive Sight where
  | directory
  | file (mode : Mode) (bytes : Bytes)
  | link (target : Path)
deriving DecidableEq, Repr

namespace Store

/-- The store with nothing but a working directory. -/
def empty (home : Location) : Store := ⟨home, [], []⟩

/-- The entry at a location. The directories from the root to the one in
which one works stand there without entries of their own. -/
def entryAt (store : Store) (place : Location) : Option Entry :=
  if place <+: store.home then some .directory else Table.get? place store.entries

/-- The file with a number. An unused number stands for an empty file. -/
def fileAt (store : Store) (id : FileId) : File :=
  (Table.get? id store.files).getD ⟨0, []⟩

/-- What a reader sees at a location. -/
def look (store : Store) (place : Location) : Option Sight :=
  (store.entryAt place).map fun
    | .directory => .directory
    | .file id => .file (store.fileAt id).mode (store.fileAt id).bytes
    | .link target => .link target

/-- Two locations hold one and the same file. -/
def shareFile (store : Store) (a b : Location) : Prop :=
  ∃ id, store.entryAt a = some (.file id) ∧ store.entryAt b = some (.file id)

/-- Some entry names the file. -/
def isNamed (store : Store) (id : FileId) : Bool :=
  store.entries.any fun pair => pair.2 = .file id

/-- A number above all that entries or files use. -/
def freshId (store : Store) : FileId :=
  let used := store.files.map (·.1) ++ store.entries.filterMap fun
    | (_, .file id) => some id
    | _ => none
  used.foldr (fun id bound => max (id + 1) bound) 0

/-- The store in which the file `id` has these bits and bytes. -/
def setFile (store : Store) (id : FileId) (file : File) : Store :=
  { store with files := Table.put id file store.files }

/-- The store with another entry at a location. -/
def setEntry (store : Store) (place : Location) (entry : Entry) : Store :=
  { store with entries := Table.put place entry store.entries }

/-- The store with a new file of these bits and bytes at a location. -/
def addFile (store : Store) (place : Location) (mode : Mode) (bytes : Bytes) : Store :=
  (store.setEntry place (.file store.freshId)).setFile store.freshId ⟨mode, bytes⟩

/-- Lets go of a file that no entry names any more. -/
def release (store : Store) (id : FileId) : Store :=
  if store.isNamed id then store else { store with files := Table.erase id store.files }

/-- The store without the entry at a location. -/
def unlink (store : Store) (place : Location) : Store :=
  let rest := { store with entries := Table.erase place store.entries }
  match store.entryAt place with
  | some (.file id) => rest.release id
  | _ => rest

/-! ## Listing -/

/-- Everything below the working directory, with where it stands from there:
a directory before what it holds and the entries of a directory in the order
of the bytes of their names. -/
def listing (store : Store) : List (Location × Sight) :=
  (store.entries.map (·.1)).mergeSort (fun a b => decide (a ≤ b)) |>.filterMap fun place =>
    match store.home.isPrefixOf? place with
    | some (name :: rest) => (store.look place).map fun sight => (name :: rest, sight)
    | some [] | none => none

/-! ## What each operation does to the look of a store -/

theorem entryAt_of_above {store : Store} {place : Location} (h : place <+: store.home) :
    store.entryAt place = some .directory := if_pos h

/-- What is no directory has an entry. -/
theorem entryAt_of_ne_directory {store : Store} {place : Location}
    (h : store.entryAt place ≠ some .directory) :
    store.entryAt place = Table.get? place store.entries := if_neg (mt entryAt_of_above h)

@[simp] theorem entryAt_setFile (store : Store) (id : FileId) (file : File) (place : Location) :
    (store.setFile id file).entryAt place = store.entryAt place := rfl

theorem entryAt_setEntry {store : Store} {place : Location}
    (h : store.entryAt place ≠ some .directory) (entry : Entry) (place' : Location) :
    (store.setEntry place entry).entryAt place' =
      if place = place' then some entry else store.entryAt place' := by
  unfold setEntry
  by_cases h' : place' <+: store.home
  · have hne : place ≠ place' := by
      rintro rfl
      exact h (entryAt_of_above h')
    rw [if_neg hne, entryAt, if_pos h', entryAt_of_above h']
  · rw [entryAt, if_neg h', entryAt, if_neg h', Table.get?_put]

theorem fileAt_setFile (store : Store) (id : FileId) (file : File) (id' : FileId) :
    (store.setFile id file).fileAt id' = if id = id' then file else store.fileAt id' := by
  unfold fileAt setFile
  simp only [Table.get?_put]
  split <;> rfl

@[simp] theorem fileAt_setEntry (store : Store) (place : Location) (entry : Entry) (id : FileId) :
    (store.setEntry place entry).fileAt id = store.fileAt id := rfl

end Store

end Graft
