import Graft.Settings.Loader

/-!
# Sessions

A session is a run of steps on one store. Every step names the settings it
goes by, so that steps of one session may write in different ways. A step
that fails does not end the session.
-/

namespace Graft

/-- One step of a session. -/
inductive Step where
  /-- Make an edit in a file. -/
  | splice (settings : Settings) (path : Path) (edit : Edit)
  /-- Write a text to a file. -/
  | write (settings : Settings) (path : Path) (content : Text)
  /-- Read a file. -/
  | read (path : Path)
  /-- Load settings. -/
  | load (loader : Settings.Loader) (environment : Environment)

/-- What a step answers when it goes well. -/
inductive Answer where
  | done
  | text (content : Text)
  | settings (settings : Settings)
deriving DecidableEq, Repr

namespace Outcome

variable {α β : Type}

/-- The outcome with its answer put differently. -/
def map (f : α → β) (outcome : Outcome α) : Outcome β :=
  ⟨outcome.answer.map f, outcome.store, outcome.events⟩

end Outcome

/-- What a step comes to on a store. -/
def Step.perform (step : Step) (store : Store) : Outcome Answer :=
  match step with
  | splice settings path edit => (spliceFile settings path edit store).map fun _ => .done
  | write settings path content => (writeFile settings path content store).map fun _ => .done
  | read path => (readFile path store).map .text
  | load loader environment => (loader.load environment store).map .settings

/-- The outcomes of the steps of a session, each on the store that the one
before left. -/
def run : List Step → Store → List (Outcome Answer)
  | [], _ => []
  | step :: rest, store =>
    let outcome := step.perform store
    outcome :: run rest outcome.store

end Graft
