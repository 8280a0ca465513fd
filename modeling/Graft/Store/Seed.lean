import Graft.Store.Write

/-!
# Setting up a store

A store is set up by putting seeds in it one after another: files with
their bits and bytes, directories, symbolic links, and further names for
what is there already.

A seed is put at a path, and the path is walked in the store that the seeds
before it made. So a seed whose path leads through a link stands where the
link leads, a file seed at a link or at a further name changes the one
file behind it, and a seed for which there is no place makes the whole
setting up fail.
-/

namespace Graft

/-- Something to put in a store. -/
inductive Seed where
  /-- A file with exactly these bits. One that is there already gets them,
  and the bytes, in place of its own. -/
  | file (mode : Nat) (bytes : Bytes)
  /-- A directory, with those it stands in. One that is there already stays
  as it is. -/
  | directory
  | link (target : Path)
  /-- One more name for what stands at a path. -/
  | hardLink (existing : Path)
deriving DecidableEq, Repr

namespace Store

/-! ## Entries -/

/-- The store with an entry at a path where none was. Only a directory may be
asked for by a slash after its name. -/
def makeEntry (store : Store) (path : Path) (entry : Entry) : Except Failure Store := do
  match ← store.lastPlace path with
  | none => .error .alreadyExists
  | some place =>
    if (store.entryAt place).isSome then .error .alreadyExists
    else if path.endsInSlash ∧ entry ≠ .directory then .error .notFound
    else .ok (store.setEntry place entry)

/-- The entry to which the last name of a path belongs, a link not followed.
A slash or dots at the end ask for a directory. -/
def lastEntry (store : Store) (path : Path) : Except Failure Entry := do
  match ← store.lastPlace path with
  | none => .ok .directory
  | some place =>
    if path.endsInSlash then
      let _ ← store.enter (store.startOf path) path.names
      .ok .directory
    else match store.entryAt place with
      | some entry => .ok entry
      | none => .error .notFound

/-- Makes a directory. One that is there already stays as it is. -/
def makeDirectory (store : Store) (path : Path) : Except Failure Store :=
  match store.makeEntry path .directory with
  | .ok store => .ok store
  | .error failure => do
    let _ ← (store.enter (store.startOf path) path.names).mapError fun _ => failure
    .ok store

/-- Makes the directory whose path `make` puts together from these names, the
innermost first, and before it those it stands in that are missing. -/
def makeDirectories (store : Store) (make : List Name → Path) : List Name → Except Failure Store
  | [] => .ok store
  | name :: outer =>
    let path := make (name :: outer).reverse
    match store.makeDirectory path with
    | .error .notFound => do (← store.makeDirectories make outer).makeDirectory path
    | result => result

/-! ## Seeds -/

/-- The store with a file of these bits and bytes at the end of a path. -/
def putFile (store : Store) (path : Path) (mode : Nat) (bytes : Bytes) : Except Failure Store :=
  match store.openEmpty path mode with
  | (.error failure, _) => .error failure
  | (.ok id, store) => .ok ((store.fill id bytes).changeMode id mode)

/-- The store with a seed at a path. -/
def plant (store : Store) (path : Path) : Seed → Except Failure Store
  | .file mode bytes => store.putFile path mode bytes
  | .directory => do
    path.check
    store.makeDirectories (if path.isAbsolute then Path.rooted else Path.ofNames)
      path.names.reverse
  | .link target => do
    target.check
    store.makeEntry path (.link target)
  | .hardLink existing => do
    let entry ← store.lastEntry existing
    let linked ← store.makeEntry path entry
    if entry = .directory then .error .notPermitted else .ok linked

/-- The store with seeds at their paths, put there in order. -/
def sow (store : Store) (seeds : List (Path × Seed)) : Except Failure Store :=
  seeds.foldlM (fun store (path, seed) => store.plant path seed) store

/-- A directory to work in that is thrown away afterwards: one with a random
name, here of tildes, among the temporary ones. -/
def scratch : Location :=
  [Text.encode "tmp".toList, temporaryName 0]

/-- The store that seeds make up in a scratch directory. -/
def ofSeeds (seeds : List (Path × Seed)) : Except Failure Store :=
  (empty scratch).sow seeds

/-- A file seed at a link makes the file to which the link leads. -/
example :
    ((empty [[0x77]]).sow [(.ofText "l".toList, .link (.ofText "/t".toList)),
      (.ofText "l".toList, .file 0o640 [0x78])]).toOption.map (·.look [[0x74]]) =
    some (some (.file 0o640 [0x78])) := by
  decide +kernel

/-- A seed whose path leads through a link stands where the link leads. -/
example :
    ((empty [[0x77]]).sow [(.ofText "../d/e".toList, .directory),
      (.ofText "l".toList, .link (.ofText "../d/e".toList)),
      (.ofText "l/../f".toList, .file 0o640 [])]).toOption.map (·.look [[0x64], [0x66]]) =
    some (some (.file 0o640 [])) := by
  decide +kernel

end Store

end Graft
