import Graft.Proofs.Writing

/-!
# All or nothing

A step that fails leaves the store exactly as it found it: not the look of it
alone but its every entry and file, so no temporary file stays behind
(`perform_of_error`). The same holds of an edit with nothing to do. Writing in
place fails only before it has touched anything. Writing atomically may fail
when the temporary file is there already, and takes it away again
(`Store.unlink_addFile`).
-/

namespace Graft

variable {store : Store} {path : Path} {settings : Settings} {error : Error} {content : Text}

/-- A write that fails leaves the store as it was. -/
theorem Store.writeBytes_of_error {method : Method} {mode : Nat} {bytes : Bytes}
    {failure : Failure × Path} (h : (store.writeBytes method path mode bytes).1 = .error failure) :
    (store.writeBytes method path mode bytes).2 = store := by
  cases method with
  | inPlace =>
    -- what fails here fails in opening the file
    rw [Store.writeBytes, Store.writeInPlace_eq] at h ⊢
    rcases hwalk : store.walk .writing path with failure | place | ⟨place, id⟩ | place
    · rfl
    · rfl
    · by_cases hmode : (store.fileAt id).mode.isWritable
      · simp [hwalk, hmode] at h
      · simp [hmode]
    · simp [hwalk] at h
  | atomic =>
    -- the equation has the temporary file gone already where the renaming fails
    rw [Store.writeBytes, Store.writeAtomically_eq] at h ⊢
    cases htemp : store.temporaryPlace path.directory with
    | error failure => rfl
    | ok place =>
      cases htarget : store.renameTarget path with
      | error failure => rfl
      | ok target => simp [htemp, htarget] at h

theorem writeFile_of_error (h : (writeFile settings path content store).answer = .error error) :
    (writeFile settings path content store).store = store := by
  unfold writeFile at h ⊢
  rcases hwritten : store.writeBytes settings.method path settings.fileMode (Text.encode content)
    with ⟨_ | failure, written⟩
  · have hfirst : (store.writeBytes settings.method path settings.fileMode
        (Text.encode content)).1 = .error _ := congrArg Prod.fst hwritten
    have hkept := Store.writeBytes_of_error hfirst
    rw [hwritten] at hkept
    exact hkept
  · rw [hwritten] at h
    cases h

theorem spliceFile_of_error {edit : Edit}
    (h : (spliceFile settings path edit store).answer = .error error) :
    (spliceFile settings path edit store).store = store := by
  unfold spliceFile at h ⊢
  cases hread : store.readText path with
  | error failure => rfl
  | ok content =>
    rw [hread] at h
    simp only at h ⊢
    cases hdecide : edit.decide content with
    | refuse error => rfl
    | keep => rfl
    | write content =>
      rw [hdecide] at h
      exact writeFile_of_error h

/-- Loading settings never changes the store. -/
theorem Settings.Loader.store_load (loader : Settings.Loader) (environment : Environment)
    (store : Store) : (loader.load environment store).store = store := by
  unfold load
  rcases loader.readSettings store with ⟨problem | settings, events⟩
  · rfl
  · simp only
    rcases settings.override (.ofEnvironment environment) with ⟨problem | _, settings⟩ <;> rfl

/-- A step fails where the operation behind it does. -/
theorem Outcome.exists_of_map_error {α β : Type} {outcome : Outcome α} {f : α → β}
    (h : (outcome.map f).answer = .error error) : outcome.answer = .error error := by
  unfold map at h
  cases hanswer : outcome.answer with
  | error other => simpa [hanswer, Except.map] using h
  | ok value => simp [hanswer, Except.map] at h

/-- Every kind of step that fails leaves the store as it was. -/
theorem Step.perform_of_error {step : Step} (h : (step.perform store).answer = .error error) :
    (step.perform store).store = store := by
  cases step with
  | splice settings path edit => exact spliceFile_of_error (Outcome.exists_of_map_error h)
  | write settings path content => exact writeFile_of_error (Outcome.exists_of_map_error h)
  | read path => rfl
  | load loader environment => exact loader.store_load environment store

/-- To uncomment a block that is not there goes well and does nothing. -/
theorem perform_uncomment_absent {block sign : Text} (hread : store.readText path = .ok content)
    (habsent : uncomment content block sign = none) :
    ((Step.splice settings path (.uncomment block sign)).perform store).answer = .ok .done ∧
      ((Step.splice settings path (.uncomment block sign)).perform store).store = store := by
  have hkeep : (Edit.uncomment block sign).decide content = .keep := by
    rw [Edit.decide_uncomment, habsent, Decision.ofOption]
  exact perform_splice_of_keep settings hread hkeep

/-- **All or nothing.** Whatever a step is and whatever it fails of, the store
after it is the store before it; and so it is after an edit that finds
nothing to uncomment. -/
theorem store_perform_eq_self :
    (∀ (step : Step) (store : Store) (error : Error),
      (step.perform store).answer = .error error → (step.perform store).store = store) ∧
    ∀ (settings : Settings) (path : Path) (block sign content : Text) (store : Store),
      store.readText path = .ok content → uncomment content block sign = none →
        ((Step.splice settings path (.uncomment block sign)).perform store).answer = .ok .done ∧
          ((Step.splice settings path (.uncomment block sign)).perform store).store = store :=
  ⟨fun _ _ _ h => Step.perform_of_error h,
    fun _ _ _ _ _ _ hread habsent => perform_uncomment_absent hread habsent⟩

/-- A rename to a name of dots, refused when the temporary file is there
already, and a block that is not in the file. -/
theorem store_perform_eq_self_of_refused :
    let store : Store := ⟨[[0x77]], [([[0x64]], .directory), ([[0x64], [0x66]], .file 0)],
      [(0, ⟨0o644, [0x61]⟩)]⟩
    let atomic : Settings := { atomicWrites := true }
    let refused := Step.write atomic (.ofText "/d/..".toList) "x".toList
    let idle := Step.splice atomic (.ofText "../d/f".toList) (.uncomment "b".toList "#".toList)
    (refused.perform store).answer = .error (.io .busy (some (.ofText "/d/..".toList))) ∧
      (refused.perform store).store = store ∧
      (idle.perform store).answer = .ok .done ∧ (idle.perform store).store = store := by
  intro store atomic refused idle
  have hrefused : (refused.perform store).answer =
      .error (.io .busy (some (.ofText "/d/..".toList))) := by decide +kernel
  have hread : store.readText (.ofText "../d/f".toList) = .ok "a".toList := by decide +kernel
  have habsent : uncomment "a".toList "b".toList "#".toList = none := by decide +kernel
  exact ⟨hrefused, store_perform_eq_self.1 refused store _ hrefused,
    store_perform_eq_self.2 atomic _ _ _ _ store hread habsent⟩

end Graft
