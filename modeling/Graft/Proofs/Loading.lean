import Graft.Proofs.AllOrNothing
import Graft.Proofs.Documented
import Graft.Proofs.Overriding
import Graft.Settings.Loader

/-!
# Where loaded settings come from

Each setting has three sources: its variable in the environment, the settings
file, and the default, the former before the latter. Settings are checked twice,
the file's own before any variable is looked at and the result in the end. So a
file that cannot be used is never saved by variables that would override what is
wrong with it, and loading goes well exactly if the file can be used, or there
is none, and each variable that is set can be (`load_sources`).

That the second check asks nothing more of what was not overridden is because
the first has already passed it.
-/

namespace Graft

/-- The text that a variable holds, or none where it is not set or its bytes are
no text. -/
def Environment.text? (environment : Environment) : Settings.Lookup :=
  fun name => environment name >>= Text.decode?

namespace Settings

variable {settings base : Settings} {lookup : Lookup} {loader : Loader} {store : Store}
variable {environment : Environment} {problem : Problem}

/-! ## Overrides that can be used -/

/-- Every variable that is set can be used: it writes a mode that is not too
large, or a truth value, or names a program that is no blank. -/
structure Lookup.Suits (lookup : Lookup) : Prop where
  mode : ∀ value, lookup modeVariable = some value → ∃ mode ≤ maxMode, WritesMode value mode
  switch : ∀ value, lookup atomicVariable = some value → ∃ switch, WritesSwitch value switch
  bin : ∀ value, lookup binVariable = some value → Text.trim value ≠ []

/-- The settings are those of three variables where these are set, and others
where they are not. -/
structure TakenOver (lookup : Lookup) (base settings : Settings) : Prop where
  mode : Taken WritesMode (lookup modeVariable) base.fileMode settings.fileMode
  switch : Taken WritesSwitch (lookup atomicVariable) base.atomicWrites settings.atomicWrites
  bin : Taken (fun value bin => value = bin) (lookup binVariable) base.scaffoldBin
    settings.scaffoldBin

/-- A text writes one mode. -/
theorem WritesMode.unique {value : Text} {mode mode' : Nat} (h : WritesMode value mode)
    (h' : WritesMode value mode') : mode = mode' := by
  rw [← parseMode_eq_ok_iff] at h h'
  rw [h] at h'
  exact Except.ok.inj h'

/-- Overriding that goes well takes over what is set, and leaves settings that
can be used. -/
theorem takenOver_of_override (h : base.override (.ofLookup lookup) = (.ok (), settings)) :
    TakenOver lookup base settings ∧ settings.check = .ok () := by
  have hall := overridden base lookup
  generalize hresult : base.override (.ofLookup lookup) = result at hall
  cases hall with
  | badMode set bad => cases hresult.symm.trans h
  | badSwitch takenMode set bad => cases hresult.symm.trans h
  | checked takenMode takenSwitch takenBin =>
    obtain ⟨hcheck, rfl⟩ := Prod.mk.inj (hresult.symm.trans h)
    simp only [parseMode_eq_ok_iff] at takenMode
    exact ⟨⟨takenMode, takenSwitch, takenBin⟩, hcheck⟩

/-- **Settings that can be used are overridden exactly by variables that can
be.** -/
theorem exists_override_iff (hbase : base.check = .ok ()) :
    (∃ settings, base.override (.ofLookup lookup) = (.ok (), settings)) ↔ lookup.Suits := by
  constructor
  · rintro ⟨settings, h⟩
    obtain ⟨htaken, hcheck⟩ := takenOver_of_override h
    obtain ⟨hmode, hbin⟩ := check_eq_ok_iff.1 hcheck
    refine ⟨fun value hset => ⟨_, hmode, htaken.mode.of_writes hset⟩,
      fun value hset => ⟨_, htaken.switch.of_writes hset⟩, fun value hset => ?_⟩
    rwa [htaken.bin.of_writes hset]
  · intro h
    obtain ⟨hmode, hbin⟩ := check_eq_ok_iff.1 hbase
    have hall := overridden base lookup
    have hmodes : lookup.ModeSuits := fun value hset => by
      obtain ⟨mode, -, hwrites⟩ := h.mode value hset
      exact ⟨mode, parseMode_eq_ok_iff.2 hwrites⟩
    refine ⟨_, Prod.ext (hall.answer_eq_ok_iff.2 ⟨hmodes, h.switch, ?_, ?_⟩) rfl⟩
    · rcases hall.follows_fileMode with ⟨value, hset, hwrites⟩ | ⟨hsame, -⟩
      · obtain ⟨mode, hle, hwrites'⟩ := h.mode value hset
        rwa [(parseMode_eq_ok_iff.1 hwrites).unique hwrites']
      · rwa [hsame]
    · rcases hall.follows_scaffoldBin with ⟨-, -, hset⟩ | ⟨hsame, -⟩
      · exact h.bin _ hset
      · rwa [hsame]

namespace Loader

/-! ## The settings file -/

/-- There is no settings file, or nothing exists at its path, or it can be used:
it holds a text, and the text is a document of settings. -/
def FileSuits (loader : Loader) (store : Store) : Prop :=
  ∀ path, loader.file = some path → store.pathExists path = true →
    ∃ document settings, store.readText path = .ok document ∧ ofDocument document = .ok settings

/-- The fields of the settings file, none where there is no such file or it
holds no document. -/
def fields (loader : Loader) (store : Store) : Toml.Fields :=
  match loader.file with
  | none => []
  | some path =>
    if store.pathExists path then ((store.readText path).toOption.bind Toml.parse?).getD []
    else []

/-- The settings that fields give, or else the defaults. -/
def settingsIn (fields : Toml.Fields) : Settings :=
  ⟨modeIn fields, switchIn fields, binIn fields⟩

/-- **A file that can be used gives the settings before overrides**, and these
can be used themselves. -/
theorem readSettings_of_fileSuits (h : loader.FileSuits store) :
    (loader.readSettings store).1 = .ok (settingsIn (loader.fields store)) ∧
      (settingsIn (loader.fields store)).check = .ok () := by
  unfold readSettings fields
  cases hfile : loader.file with
  | none => exact ⟨rfl, rfl⟩
  | some path =>
    by_cases hexists : store.pathExists path = true
    · obtain ⟨document, settings, hread, hsettings⟩ := h path hfile hexists
      obtain ⟨fields, hparse, hgiven, hcheck⟩ := exists_parse?_of_ofDocument hsettings
      have hfields : ((store.readText path).toOption.bind Toml.parse?).getD [] = fields := by
        rw [hread]
        exact congrArg (Option.getD · []) hparse
      simp only [if_pos hexists, hread, hsettings] at hfields ⊢
      rw [hfields]
      subst hgiven
      exact ⟨rfl, hcheck⟩
    · simp only [if_neg hexists]
      exact ⟨rfl, rfl⟩

/-- What is wrong with a settings file, in a message that names it. -/
theorem exists_problem_of_not_fileSuits (h : ¬ loader.FileSuits store) :
    ∃ path problem, loader.file = some path ∧ (loader.readSettings store).1 = .error problem ∧
      "config file: ".toList ++ path.shown <:+: (Error.config problem).message := by
  unfold FileSuits at h
  push Not at h
  obtain ⟨path, hfile, hexists, hsuits⟩ := h
  unfold readSettings
  cases hdocument : store.readText path with
  | error failure =>
    refine ⟨path, .unreadable path failure, hfile, ?_, ?_⟩
    · simp only [hfile, if_pos hexists, hdocument]
    · have hmessage : (Error.config (.unreadable path failure)).message = problemHeading ++
          ("Failed to read config file: ".toList ++ path.shown ++ ": ".toList ++
            failure.text) := rfl
      have hsplit : "Failed to read config file: ".toList =
          "Failed to read ".toList ++ "config file: ".toList := by decide
      rw [hmessage, hsplit]
      exact ⟨problemHeading ++ "Failed to read ".toList, ": ".toList ++ failure.text,
        by simp only [List.append_assoc]⟩
  | ok document =>
    cases hsettings : ofDocument document with
    | error problem =>
      refine ⟨path, .inFile path problem, hfile, ?_, ?_⟩
      · simp only [hfile, if_pos hexists, hdocument, hsettings]
      · have hmessage : (Error.config (.inFile path problem)).message = problemHeading ++
            ("Failed to parse config file: ".toList ++ path.shown ++ ": ".toList ++
              problemHeading ++ problem.text) := rfl
        have hsplit : "Failed to parse config file: ".toList =
            "Failed to parse ".toList ++ "config file: ".toList := by decide
        rw [hmessage, hsplit]
        exact ⟨problemHeading ++ "Failed to parse ".toList,
          ": ".toList ++ problemHeading ++ problem.text, by simp only [List.append_assoc]⟩
    | ok settings => exact absurd hsettings (hsuits document settings hdocument)

/-! ## Loading -/

/-- What stops the reading of the file stops the loading, whatever the
environment holds. -/
theorem answer_load_of_error (h : (loader.readSettings store).1 = .error problem)
    (environment : Environment) :
    (loader.load environment store).answer = .error (.config problem) := by
  unfold load
  rcases hread : loader.readSettings store with ⟨_ | _, events⟩ <;> rw [hread] at h <;> cases h
  rfl

/-- After the file has been read, loading is overriding. -/
theorem answer_load_eq_ok_iff (h : (loader.readSettings store).1 = .ok base) :
    (loader.load environment store).answer = .ok settings ↔
      base.override (.ofLookup environment.text?) = (.ok (), settings) := by
  unfold load
  rcases hread : loader.readSettings store with ⟨_ | _, events⟩ <;> rw [hread] at h <;> cases h
  have hoverrides : Overrides.ofEnvironment environment = .ofLookup environment.text? := rfl
  rw [hoverrides]
  simp only
  rcases base.override (.ofLookup environment.text?) with ⟨problem | ⟨⟨⟩⟩, after⟩ <;> simp

/-- **Where loaded settings come from.** Loading goes well exactly if the
settings file can be used, or there is none, and every variable that is set can
be used. Each setting then is what its variable writes if that is set, else what
the file gives, else the default, and the settings can be used. A file that
cannot be used is named in the error, which is the same in every environment.
The store stays as it is. -/
theorem load_sources (loader : Loader) (environment : Environment) (store : Store) :
    ((∃ settings, (loader.load environment store).answer = .ok settings) ↔
        loader.FileSuits store ∧ environment.text?.Suits) ∧
      (∀ settings, (loader.load environment store).answer = .ok settings →
        Taken WritesMode (environment.text? modeVariable) (modeIn (loader.fields store))
            settings.fileMode ∧
          Taken WritesSwitch (environment.text? atomicVariable) (switchIn (loader.fields store))
            settings.atomicWrites ∧
          Taken (fun value bin => value = bin) (environment.text? binVariable)
            (binIn (loader.fields store)) settings.scaffoldBin ∧
          settings.check = .ok ()) ∧
      (¬ loader.FileSuits store → ∃ path problem, loader.file = some path ∧
        "config file: ".toList ++ path.shown <:+: (Error.config problem).message ∧
          ∀ environment, (loader.load environment store).answer = .error (.config problem)) ∧
      (loader.load environment store).store = store := by
  refine ⟨?_, ?_, ?_, loader.store_load environment store⟩
  · by_cases hfile : loader.FileSuits store
    · obtain ⟨hread, hcheck⟩ := readSettings_of_fileSuits hfile
      simp only [answer_load_eq_ok_iff hread, exists_override_iff hcheck, hfile, true_and]
    · obtain ⟨path, problem, -, hread, -⟩ := exists_problem_of_not_fileSuits hfile
      simp only [answer_load_of_error hread, reduceCtorEq, exists_false, hfile, false_and]
  · intro settings h
    by_cases hfile : loader.FileSuits store
    · obtain ⟨hread, -⟩ := readSettings_of_fileSuits hfile
      rw [answer_load_eq_ok_iff hread] at h
      obtain ⟨htaken, hcheck⟩ := takenOver_of_override h
      exact ⟨htaken.mode, htaken.switch, htaken.bin, hcheck⟩
    · obtain ⟨path, problem, -, hread, -⟩ := exists_problem_of_not_fileSuits hfile
      rw [answer_load_of_error hread] at h
      cases h
  · intro hfile
    obtain ⟨path, problem, hpath, hread, hnames⟩ := exists_problem_of_not_fileSuits hfile
    exact ⟨path, problem, hpath, hnames, answer_load_of_error hread⟩

/-- A file that can be used, behind a link with an absolute target, and a file
that cannot, on a path with two dots; with a truth value that is set and a
program whose bytes are no text. -/
theorem load_sources_of_two_files :
    let good := Text.encode "file_mode = 0o600\nscaffold_bin = 'kb'\n".toList
    let bad := Text.encode "scaffold_bin = ' '\n".toList
    let store : Store := ⟨[[0x77]], [([[0x73]], .file 0), ([[0x77], [0x64]], .directory),
      ([[0x77], [0x67]], .link (.ofText "/s".toList)), ([[0x77], [0x62]], .file 1)],
      [(0, ⟨0o644, good⟩), (1, ⟨0o644, bad⟩)]⟩
    let environment : Environment := fun name =>
      if name = atomicVariable then some (Text.encode " YES".toList)
      else if name = binVariable then some [0xff] else none
    let settings : Settings := ⟨0o600, true, "kb".toList⟩
    let loader : Loader := ⟨some (.ofText "g".toList)⟩
    let loader' : Loader := ⟨some (.ofText "d/../b".toList)⟩
    (loader.load environment store).answer = .ok settings ∧ loader.FileSuits store ∧
      environment.text?.Suits ∧
      Taken WritesSwitch (environment.text? atomicVariable) (switchIn (loader.fields store)) true ∧
      ¬ loader'.FileSuits store ∧ ∃ path problem, loader'.file = some path ∧
        "config file: ".toList ++ path.shown <:+: (Error.config problem).message ∧
          ∀ environment, (loader'.load environment store).answer = .error (.config problem) := by
  intro good bad store environment settings loader loader'
  have hanswer : (loader.load environment store).answer = .ok settings := by decide +kernel
  have hbad : ¬ loader'.FileSuits store := by
    intro hsuits
    obtain ⟨document, settings, hread, hsettings⟩ :=
      hsuits (.ofText "d/../b".toList) rfl (by decide +kernel)
    have hread' : store.readText (.ofText "d/../b".toList) = .ok "scaffold_bin = ' '\n".toList := by
      decide +kernel
    obtain rfl := Except.ok.inj (hread.symm.trans hread')
    have hblank : ofDocument "scaffold_bin = ' '\n".toList = .error .blankBin := by
      decide +kernel
    cases hsettings.symm.trans hblank
  obtain ⟨hiff, htaken, -, -⟩ := load_sources loader environment store
  obtain ⟨hfile, hsuits⟩ := hiff.1 ⟨settings, hanswer⟩
  exact ⟨hanswer, hfile, hsuits, (htaken settings hanswer).2.1, hbad,
    (load_sources loader' environment store).2.2.1 hbad⟩

end Loader

end Settings

end Graft
