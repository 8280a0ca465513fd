import Graft.Edit

/-!
# Splicing files

An operation on files has an `Outcome`: its answer, the store as it leaves
it, and the events it reported. `spliceFile` reads the whole file, lets an
edit decide on its text, and writes the whole file, if the edit asks for
it. A file that cannot be read or an edit that cannot be made leaves the
store as it was.
-/

namespace Graft

/-- What an operation on files comes to. -/
structure Outcome (α : Type) where
  answer : Except Error α
  store : Store
  events : List Event

namespace Settings

/-- The way of writing that the settings ask for. -/
def method (settings : Settings) : Method :=
  if settings.atomicWrites then .atomic else .inPlace

end Settings

/-- Reads the text of a file. -/
def readFile (path : Path) (store : Store) : Outcome Text :=
  { answer := (store.readText path).mapError fun failure => .io failure (some path)
    store := store
    events := [.reading path] }

/-- Writes a text as the whole of a file, as the settings say. -/
def writeFile (settings : Settings) (path : Path) (content : Text) (store : Store) :
    Outcome Unit :=
  let (answer, store) :=
    store.writeBytes settings.method path settings.fileMode (Text.encode content)
  { answer := answer.mapError fun (failure, about) => .io failure (some about)
    store := store
    events := [.writing settings.method path (Text.byteLength content)] }

/-- Makes an edit in a file: reads it, decides, and writes what is decided. -/
def spliceFile (settings : Settings) (path : Path) (edit : Edit) (store : Store) : Outcome Unit :=
  let opened := edit.opening path ++ [.reading path]
  match store.readText path with
  | .error failure => ⟨.error (.io failure (some path)), store, opened⟩
  | .ok content =>
    let decision := edit.decide content
    let noticed := opened ++ edit.notice path decision
    match decision with
    | .refuse error => ⟨.error (error.inFile path), store, noticed⟩
    | .keep => ⟨.ok (), store, noticed⟩
    | .write content =>
      let written := writeFile settings path content store
      let closing := match written.answer with
        | .ok _ => edit.closing path
        | .error _ => []
      { written with events := noticed ++ written.events ++ closing }

end Graft
