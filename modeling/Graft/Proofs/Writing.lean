import Graft.Session
import Graft.Proofs.Fresh

/-!
# What a write comes to

Each way of writing as one equation: where the path is asked for, which
answer each finding gives, and the store it leaves. Writing in place asks for
the end of the path (`writeInPlace_eq`); writing atomically asks first for
the directory of its last name and then for that name
(`writeAtomically_eq`), and of its temporary file the outcome shows nothing
but the file that has taken its place.

Of the permission bits a write clears none that says what the owner may do
(`Mode.hasAny_afterWrite`), and a second write clears nothing that the first
has left (`Mode.afterWrite_afterWrite`), so that emptying a file and filling it
is one write (`fill_truncate`). An edit of a file that can be read comes to the
write, the success or the refusal for which it decides on the text.
-/

namespace Graft

namespace Mode

variable {mode bits gone : Mode}

/-! ## Bits -/

@[simp] theorem testBit_without (i : Nat) :
    (mode.without gone).testBit i = (mode.testBit i && !gone.testBit i) := by
  simp only [without, Nat.testBit_xor, Nat.testBit_and]
  cases mode.testBit i <;> cases gone.testBit i <;> rfl

/-- Bits that are gone cannot go again. -/
theorem without_without_self : (mode.without gone).without gone = mode.without gone := by
  refine Nat.eq_of_testBit_eq fun i => ?_
  simp only [testBit_without, Bool.and_assoc, Bool.and_self]

theorem without_comm : (mode.without bits).without gone = (mode.without gone).without bits := by
  refine Nat.eq_of_testBit_eq fun i => ?_
  simp only [testBit_without, Bool.and_assoc, Bool.and_comm (!bits.testBit i)]

/-- Clearing some bits keeps the others. -/
theorem hasAny_without (h : bits &&& gone = 0) :
    (mode.without gone).hasAny bits = mode.hasAny bits := by
  have hsame : mode.without gone &&& bits = mode &&& bits := by
    refine Nat.eq_of_testBit_eq fun i => ?_
    have hoff : (bits &&& gone).testBit i = false := by rw [h, Nat.zero_testBit]
    rw [Nat.testBit_and] at hoff
    rw [Nat.testBit_and, Nat.testBit_and, testBit_without]
    cases hbit : bits.testBit i with
    | false => rw [Bool.and_false, Bool.and_false]
    | true =>
      rw [hbit, Bool.true_and] at hoff
      rw [hoff, Bool.not_false, Bool.and_true]
  unfold hasAny
  rw [hsame]

/-- A write keeps the bits that are no set-id bits. -/
theorem hasAny_afterWrite (howner : bits &&& setOwner = 0) (hgroup : bits &&& setGroup = 0) :
    mode.afterWrite.hasAny bits = mode.hasAny bits := by
  unfold afterWrite
  simp only
  split
  · rw [hasAny_without hgroup, hasAny_without howner]
  · rw [hasAny_without howner]

/-- A second write finds nothing more to clear. -/
@[simp] theorem afterWrite_afterWrite (mode : Mode) :
    mode.afterWrite.afterWrite = mode.afterWrite := by
  have hexec (mode : Mode) : (mode.without setGroup).hasAny groupExecute =
      mode.hasAny groupExecute := hasAny_without (by decide)
  by_cases h : (mode.without setOwner).hasAny groupExecute
  · have hmode : mode.afterWrite = (mode.without setOwner).without setGroup := if_pos h
    have hgone : mode.afterWrite.without setOwner = mode.afterWrite := by
      rw [hmode, without_comm, without_without_self]
    rw [afterWrite, hgone, hmode, hexec, if_pos h, without_without_self]
  · have hmode : mode.afterWrite = mode.without setOwner := if_neg h
    rw [hmode, afterWrite, without_without_self, if_neg h]

/-- A file gets the bits it can have. -/
theorem hasAny_and_all (h : all &&& bits = bits) :
    hasAny (mode &&& all) bits = mode.hasAny bits := by
  unfold hasAny
  rw [Nat.and_assoc, h]

/-- The owner may read the file and write to it. -/
def isOpen (mode : Mode) : Bool :=
  mode.isReadable && mode.isWritable

@[simp] theorem isOpen_afterWrite (mode : Mode) : mode.afterWrite.isOpen = mode.isOpen := by
  unfold isOpen isReadable isWritable
  rw [hasAny_afterWrite (by decide) (by decide), hasAny_afterWrite (by decide) (by decide)]

@[simp] theorem isOpen_and_all (mode : Mode) : isOpen (mode &&& all) = mode.isOpen := by
  unfold isOpen isReadable isWritable
  rw [hasAny_and_all (by decide), hasAny_and_all (by decide)]

end Mode

namespace Store

/-! ## In place -/

/-- Emptying a file and filling it is one write. -/
theorem fill_truncate (store : Store) (id : FileId) (bytes : Bytes) :
    (store.truncate id).fill id bytes =
      store.setFile id ⟨(store.fileAt id).mode.afterWrite, bytes⟩ := by
  unfold fill truncate
  split
  · rename_i hempty
    obtain rfl : bytes = [] := by simpa using hempty
    rfl
  · rw [setFile_setFile, fileAt_setFile_self, Mode.afterWrite_afterWrite]

theorem writeInPlace_eq (store : Store) (path : Path) (mode : Nat) (bytes : Bytes) :
    store.writeInPlace path mode bytes =
      match store.walk .writing path with
      | .error failure => (.error (failure, path), store)
      | .ok (.directory _) => (.error (.isDirectory, path), store)
      | .ok (.file _ id) =>
        if (store.fileAt id).mode.isWritable then
          (.ok (), store.setFile id ⟨(store.fileAt id).mode.afterWrite, bytes⟩)
        else (.error (.permissionDenied, path), store)
      | .ok (.vacant place) =>
        (.ok (), (store.addFile place (Mode.created mode) []).fill store.freshId bytes) := by
  unfold writeInPlace openEmpty
  rcases store.walk .writing path with failure | place | ⟨place, id⟩ | place
  · rfl
  · rfl
  · by_cases hmode : (store.fileAt id).mode.isWritable
    · simp only [if_pos hmode, fill_truncate]
    · simp only [if_neg hmode]
  · rfl

/-! ## Atomically -/

/-- **The temporary file is seen only where it has taken the place it was
made for.** -/
theorem writeAtomically_eq (store : Store) (path : Path) (mode : Nat) (bytes : Bytes) :
    store.writeAtomically path mode bytes =
      match store.temporaryPlace path.directory with
      | .error failure =>
        (.error (.temporary (store.temporaryPath path.directory).shown failure, path.directory),
          store)
      | .ok place =>
        match store.renameTarget path with
        | .error failure => (.error (failure, path), store)
        | .ok target =>
          let spot := place ++ [store.vacantName place]
          (.ok (), (store.addFile spot (mode &&& Mode.all) bytes).move spot target) := by
  unfold writeAtomically makeTemporary
  cases store.temporaryPlace path.directory with
  | error failure => rfl
  | ok place =>
    have hvacant := store.entryAt_vacantName place
    simp only [changeMode_fill_addFile]
    cases store.renameTarget path with
    | error failure => simp only [unlink_addFile hvacant]
    | ok target => rfl

end Store

/-! ## Edits -/

variable {store : Store} {path : Path} {edit : Edit} {content new : Text}

theorem Settings.method_eq_atomic_iff {settings : Settings} :
    settings.method = .atomic ↔ settings.atomicWrites = true := by
  unfold method
  cases settings.atomicWrites <;> simp

theorem Settings.method_eq_inPlace {settings : Settings} (h : settings.atomicWrites = false) :
    settings.method = .inPlace := by
  rw [method, h]
  rfl

theorem answer_writeFile (settings : Settings) (path : Path) (content : Text) (store : Store) :
    (writeFile settings path content store).answer =
      (store.writeBytes settings.method path settings.fileMode (Text.encode content)).1.mapError
        fun (failure, about) => .io failure (some about) := rfl

theorem store_writeFile (settings : Settings) (path : Path) (content : Text) (store : Store) :
    (writeFile settings path content store).store =
      (store.writeBytes settings.method path settings.fileMode (Text.encode content)).2 := rfl

/-- An edit of what cannot be read answers why, and leaves the store alone. -/
theorem perform_splice_of_unreadable (settings : Settings) (edit : Edit) {failure : Failure}
    (hread : store.readText path = .error failure) :
    ((Step.splice settings path edit).perform store).answer = .error (.io failure (some path)) ∧
      ((Step.splice settings path edit).perform store).store = store := by
  simp only [Step.perform, spliceFile, hread, Outcome.map, and_true]
  rfl

/-- What cannot be read is not written. -/
theorem events_splice_of_unreadable (settings : Settings) (edit : Edit) {failure : Failure}
    (hread : store.readText path = .error failure) :
    ((Step.splice settings path edit).perform store).events =
      edit.opening path ++ [.reading path] := by
  simp only [Step.perform, spliceFile, hread, Outcome.map]

/-- An edit that decides for a text writes it, and answers as the write does. -/
theorem perform_splice_of_write (settings : Settings)
    (hread : store.readText path = .ok content) (hdecide : edit.decide content = .write new) :
    ((Step.splice settings path edit).perform store).answer =
        (writeFile settings path new store).answer.map (fun _ => .done) ∧
      ((Step.splice settings path edit).perform store).store =
        (writeFile settings path new store).store := by
  simp only [Step.perform, spliceFile, hread, hdecide, Outcome.map, and_self]

/-- An edit that decides for a text says so before it writes, and no more after
a write that fails. -/
theorem events_splice_of_write (settings : Settings)
    (hread : store.readText path = .ok content) (hdecide : edit.decide content = .write new) :
    ((Step.splice settings path edit).perform store).events =
      edit.opening path ++ [.reading path] ++ edit.notice path (.write new) ++
          [.writing settings.method path (Text.byteLength new)] ++
        if (writeFile settings path new store).answer.isOk then edit.closing path else [] := by
  simp only [Step.perform, spliceFile, hread, hdecide, Outcome.map]
  cases (writeFile settings path new store).answer <;> rfl

/-- An edit with nothing to do goes well and leaves the store alone. -/
theorem perform_splice_of_keep (settings : Settings)
    (hread : store.readText path = .ok content) (hdecide : edit.decide content = .keep) :
    ((Step.splice settings path edit).perform store).answer = .ok .done ∧
      ((Step.splice settings path edit).perform store).store = store := by
  simp only [Step.perform, spliceFile, hread, hdecide, Outcome.map, and_true]
  rfl

/-- An edit with nothing to do reads the file and does not write it. -/
theorem events_splice_of_keep (settings : Settings)
    (hread : store.readText path = .ok content) (hdecide : edit.decide content = .keep) :
    ((Step.splice settings path edit).perform store).events =
      edit.opening path ++ [.reading path] ++ edit.notice path .keep := by
  simp only [Step.perform, spliceFile, hread, hdecide, Outcome.map]

/-- An edit that is refused answers why and in which file, and leaves the
store alone. -/
theorem perform_splice_of_refuse (settings : Settings) {error : Error}
    (hread : store.readText path = .ok content) (hdecide : edit.decide content = .refuse error) :
    ((Step.splice settings path edit).perform store).answer = .error (error.inFile path) ∧
      ((Step.splice settings path edit).perform store).store = store := by
  simp only [Step.perform, spliceFile, hread, hdecide, Outcome.map, and_true]
  rfl

/-- An edit that is refused reads the file and does not write it. -/
theorem events_splice_of_refuse (settings : Settings) {error : Error}
    (hread : store.readText path = .ok content) (hdecide : edit.decide content = .refuse error) :
    ((Step.splice settings path edit).perform store).events =
      edit.opening path ++ [.reading path] ++ edit.notice path (.refuse error) := by
  simp only [Step.perform, spliceFile, hread, hdecide, Outcome.map]

/-- **An edit asks of the store no more than how the path reads.** Where it
reads alike in two stores, an edit gives both one answer and leaves them alone,
or writes one text to both. -/
theorem perform_splice_of_readText_eq {store' : Store}
    (hreads : store.readText path = store'.readText path) (settings settings' : Settings)
    (edit : Edit) :
    let outcome := (Step.splice settings path edit).perform store
    let outcome' := (Step.splice settings' path edit).perform store'
    (∃ answer, (outcome.answer = answer ∧ outcome.store = store) ∧
      outcome'.answer = answer ∧ outcome'.store = store') ∨
    ∃ content new, store.readText path = .ok content ∧
      (outcome.answer = (writeFile settings path new store).answer.map (fun _ => .done) ∧
        outcome.store = (writeFile settings path new store).store) ∧
      outcome'.answer = (writeFile settings' path new store').answer.map (fun _ => .done) ∧
        outcome'.store = (writeFile settings' path new store').store := by
  cases hread : store.readText path with
  | error failure =>
    exact .inl ⟨_, perform_splice_of_unreadable settings edit hread,
      perform_splice_of_unreadable settings' edit (hreads ▸ hread)⟩
  | ok content =>
    cases hdecide : edit.decide content with
    | keep =>
      exact .inl ⟨_, perform_splice_of_keep settings hread hdecide,
        perform_splice_of_keep settings' (hreads ▸ hread) hdecide⟩
    | refuse error =>
      exact .inl ⟨_, perform_splice_of_refuse settings hread hdecide,
        perform_splice_of_refuse settings' (hreads ▸ hread) hdecide⟩
    | write new =>
      exact .inr ⟨content, new, rfl, perform_splice_of_write settings hread hdecide,
        perform_splice_of_write settings' (hreads ▸ hread) hdecide⟩

end Graft
