import Graft.Settings.Document
import Graft.Settings.Override
import Graft.Splicer

/-!
# Loading settings

A loader knows a settings file or none. Without a file, or where nothing
exists at its path, the defaults hold; otherwise the file has to be read
and to give settings that can be used. Only then the environment overrides
them. Loading never changes a file.
-/

namespace Graft

/-- The environment: what each variable holds, as bytes. -/
abbrev Environment := Text → Option Bytes

namespace Settings

/-- The overrides in an environment. A variable that holds no text counts as
not set. -/
def Overrides.ofEnvironment (environment : Environment) : Overrides :=
  .ofLookup fun name => environment name >>= Text.decode?

/-- Where settings are loaded from. -/
structure Loader where
  /-- The settings file, if there is to be one. -/
  file : Option Path
deriving DecidableEq, Repr

namespace Loader

/-- The loader without a file. -/
def plain : Loader := ⟨none⟩

/-- The loader of a file. -/
def ofPath (path : Path) : Loader := ⟨some path⟩

/-- The loader of the file that the environment names. -/
def ofEnvironment (environment : Environment) : Loader :=
  ⟨(environment fileVariable).map Path.mk⟩

/-- The settings before overrides, and the events of reading them. -/
def readSettings (loader : Loader) (store : Store) : Except Problem Settings × List Event :=
  match loader.file with
  | none => (.ok default, [])
  | some path =>
    if store.pathExists path then
      match store.readText path with
      | .error failure => (.error (.unreadable path failure), [])
      | .ok document =>
        match ofDocument document with
        | .error problem => (.error (.inFile path problem), [])
        | .ok settings => (.ok settings, [.settingsLoaded path])
    else (.ok default, [.settingsAbsent path])

/-- Loads the settings: those of the file, with the overrides of the
environment. -/
def load (loader : Loader) (environment : Environment) (store : Store) : Outcome Settings :=
  match loader.readSettings store with
  | (.error problem, events) => ⟨.error (.config problem), store, events⟩
  | (.ok settings, events) =>
    match settings.override (.ofEnvironment environment) with
    | (.error problem, _) => ⟨.error (.config problem), store, events⟩
    | (.ok (), settings) => ⟨.ok settings, store, events⟩

end Loader

end Settings

end Graft
