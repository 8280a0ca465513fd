import Graft.Proofs.Parent
import Graft.Proofs.Plain

/-!
# Two ways of writing, one result

In a plain store it does not show in which way a file is written, but for its
permission bits. Two sessions that take the same steps, each step by settings
of its own, answer alike step by step and keep the same contents
(`run_counterparts_agree`).

What has to be said for this is where the ways of writing could part. The one
opens the file at the end of the path; the other makes a temporary file in the
path's directory and takes the place of the entry its last name stands for.
That these are the same directory is `Store.Reaches.enter_directory`; that the
entry is the file's is `Store.Plain.place_eq`. Bits that forbid the owner to
read or to write would show, so the files are to be open to the owner
throughout.
-/

namespace Graft

namespace Store

variable {store store' : Store} {path : Path} {place : Location} {id id' : FileId}

/-! ## Files that their owner may use -/

/-- The owner may read and write every file. -/
def isOpen (store : Store) : Bool :=
  store.entries.all fun
    | (_, .file id) => (store.fileAt id).mode.isOpen
    | (_, .directory) | (_, .link _) => true

theorem isOpen_of_entryAt (hopen : store.isOpen = true)
    (h : store.entryAt place = some (.file id)) : (store.fileAt id).mode.isOpen = true :=
  List.all_eq_true.1 hopen _ (mem_entries_of_entryAt h (by simp))

/-- A temporary file can be made in the directory of the path, if there is that
directory. -/
def AllowsTemporary (store : Store) (path : Path) : Prop :=
  ∀ dir, store.enter (store.startOf path.directory) path.directory.names = .ok dir →
    ∃ tmp, store.temporaryPlace path.directory = .ok tmp

theorem AllowsTemporary.of_sameShape (hshape : SameShape store store')
    (h : store.AllowsTemporary path) : store'.AllowsTemporary path := by
  unfold AllowsTemporary at h ⊢
  rwa [startOf_congr hshape.home_eq, ← hshape.enter_eq, ← hshape.temporaryPlace_eq]

/-! ## One write -/

/-- **Either way of writing goes well in a plain store**, and changes what is
seen of the one file. -/
theorem Plain.writeFile_rewritten (hplain : store.Plain)
    (hwalk : store.walk .reading path = .ok (.file place id)) (hopen : store.isOpen = true)
    (htemp : store.AllowsTemporary path) (settings : Settings) (content : Text) :
    (writeFile settings path content store).answer = .ok () ∧
      ∃ mode, Rewritten store (writeFile settings path content store).store place mode
        (Text.encode content) := by
  obtain ⟨dir, name, hreaches⟩ := exists_reaches hwalk
  have hwritable : (store.fileAt id).mode.isWritable = true :=
    (Bool.and_eq_true_iff.1 (isOpen_of_entryAt hopen (hplain.entryAt_of_walk hwalk))).2
  obtain ⟨tmp, htmp⟩ := htemp dir hreaches.enter_directory
  obtain ⟨mode, hmode⟩ : ∃ mode, store.newMode settings.method path settings.fileMode
      (store.fileAt id).mode = .ok mode := by
    unfold newMode
    cases settings.method with
    | inPlace => exact ⟨_, if_pos hwritable⟩
    | atomic => exact ⟨_, by rw [htmp]⟩
  have hwritten := hplain.written hreaches settings.method settings.fileMode (Text.encode content)
  rw [hmode] at hwritten
  rw [answer_writeFile, store_writeFile]
  generalize store.writeBytes settings.method path settings.fileMode (Text.encode content) =
    result at hwritten ⊢
  cases hwritten with
  | done h => exact ⟨rfl, mode, h⟩

/-- The same bytes at the same location keep contents the same. -/
theorem SameContents.rewritten {after after' : Store} {mode mode' : Mode} {bytes : Bytes}
    (hsame : SameContents store store') (h : Rewritten store after place mode bytes)
    (h' : Rewritten store' after' place mode' bytes) : SameContents after after' := by
  refine ⟨?_, fun p => ?_⟩
  · rw [h.shape.home_eq, h'.shape.home_eq, hsame.home_eq]
  · rw [h.look_eq, h'.look_eq]
    split
    · rfl
    · exact hsame.look_eq p

/-- Stores with the same contents, all open to the owner, read alike. -/
theorem SameContents.readText_eq (hsame : SameContents store store') (hplain : store.Plain)
    (hplain' : store'.Plain) (hopen : store.isOpen = true) (hopen' : store'.isOpen = true)
    (path : Path) : store.readText path = store'.readText path := by
  refine hsame.sameShape.readText_eq fun place id id' hwalk hwalk' => ?_
  have hentry := hplain.entryAt_of_walk hwalk
  have hentry' := hplain'.entryAt_of_walk hwalk'
  have hmode := Bool.and_eq_true_iff.1 (isOpen_of_entryAt hopen hentry)
  have hmode' := Bool.and_eq_true_iff.1 (isOpen_of_entryAt hopen' hentry')
  have hlook := hsame.look_eq place
  rw [look_of_file hentry, look_of_file hentry'] at hlook
  exact ⟨hmode.1.trans hmode'.1.symm, by simpa [Sight.withoutMode] using hlook⟩

end Store

open Store

variable {store store' : Store} {step step' : Step} {steps steps' : List Step}

/-! ## One step -/

/-- Two steps that differ in their settings only: an edit, a write to a path
that leads to a file, or reading. A temporary file can be made in the directory
of the path that is written. -/
inductive Counterpart (store : Store) : Step → Step → Prop
  | splice {path : Path} (settings settings' : Settings) (edit : Edit)
      (temporary : store.AllowsTemporary path) :
      Counterpart store (.splice settings path edit) (.splice settings' path edit)
  | write {path : Path} {place : Location} {id : FileId} (settings settings' : Settings)
      (content : Text) (temporary : store.AllowsTemporary path)
      (walk : store.walk .reading path = .ok (.file place id)) :
      Counterpart store (.write settings path content) (.write settings' path content)
  | read (path : Path) : Counterpart store (.read path) (.read path)

/-- Counterparts are so in every store of the shape. -/
theorem Counterpart.of_sameShape (hshape : SameShape store store')
    (h : Counterpart store step step') : Counterpart store' step step' := by
  cases h with
  | splice settings settings' edit temporary =>
    exact .splice settings settings' edit (temporary.of_sameShape hshape)
  | write settings settings' content temporary walk =>
    obtain ⟨_, walk'⟩ := hshape.exists_walk_eq walk
    exact .write settings settings' content (temporary.of_sameShape hshape) walk'
  | read path => exact .read path

/-- Two outcomes that cannot be told apart but by permission bits. -/
structure Agree (outcome outcome' : Outcome Answer) : Prop where
  answer_eq : outcome.answer = outcome'.answer
  contents : SameContents outcome.store outcome'.store

/-- Two plain stores with the same contents, in which the owner may use every
file. -/
structure Alike (store store' : Store) : Prop where
  plain : store.Plain
  plain' : store'.Plain
  contents : SameContents store store'
  isOpen : store.isOpen = true
  isOpen' : store'.isOpen = true

/-- What one step keeps: the outcomes agree, both stores are plain, and their
shape is what it was. -/
structure Kept (store : Store) (outcome outcome' : Outcome Answer) : Prop where
  agree : Agree outcome outcome'
  plain : outcome.store.Plain
  plain' : outcome'.store.Plain
  shape : SameShape store outcome.store

namespace Alike

variable {path : Path} {place : Location} {id : FileId}

/-- Outcomes with one answer that leave the stores alone keep everything. -/
theorem kept_of_eq {outcome outcome' : Outcome Answer} (h : Alike store store')
    (hanswer : outcome.answer = outcome'.answer) (hstore : outcome.store = store)
    (hstore' : outcome'.store = store') : Kept store outcome outcome' := by
  have hshape : SameShape store store := (SameContents.refl store).sameShape
  refine ⟨⟨hanswer, ?_⟩, ?_, ?_, ?_⟩
  · rw [hstore, hstore']
    exact h.contents
  · rw [hstore]
    exact h.plain
  · rw [hstore']
    exact h.plain'
  · rw [hstore]
    exact hshape

/-- Either way of writing does the same to both stores. -/
theorem kept_of_write {outcome outcome' : Outcome Answer} (h : Alike store store')
    (hwalk : store.walk .reading path = .ok (.file place id)) (htemp : store.AllowsTemporary path)
    (settings settings' : Settings) (content : Text)
    (hanswer : outcome.answer = (writeFile settings path content store).answer.map fun _ => .done)
    (hstore : outcome.store = (writeFile settings path content store).store)
    (hanswer' : outcome'.answer =
      (writeFile settings' path content store').answer.map fun _ => .done)
    (hstore' : outcome'.store = (writeFile settings' path content store').store) :
    Kept store outcome outcome' := by
  have hshape := h.contents.sameShape
  obtain ⟨id', hwalk'⟩ := hshape.exists_walk_eq hwalk
  obtain ⟨hok, mode, hrewritten⟩ :=
    h.plain.writeFile_rewritten hwalk h.isOpen htemp settings content
  obtain ⟨hok', mode', hrewritten'⟩ :=
    h.plain'.writeFile_rewritten hwalk' h.isOpen' (htemp.of_sameShape hshape) settings' content
  rw [← hstore] at hrewritten
  rw [← hstore'] at hrewritten'
  refine ⟨⟨?_, h.contents.rewritten hrewritten hrewritten'⟩, hrewritten.plain, hrewritten'.plain,
    hrewritten.shape⟩
  rw [hanswer, hanswer', hok, hok']

/-- **One step by either settings** answers alike and keeps the contents of the
stores the same. -/
theorem perform (h : Alike store store') (hpair : Counterpart store step step') :
    Kept store (step.perform store) (step'.perform store') := by
  cases hpair with
  | @splice path settings settings' edit temporary =>
    have hreads := h.contents.readText_eq h.plain h.plain' h.isOpen h.isOpen' path
    rcases perform_splice_of_readText_eq hreads settings settings' edit with
      ⟨answer, ⟨hanswer, hstore⟩, hanswer', hstore'⟩ |
      ⟨content, new, hread, ⟨hanswer, hstore⟩, hanswer', hstore'⟩
    · exact h.kept_of_eq (hanswer.trans hanswer'.symm) hstore hstore'
    · obtain ⟨place, id, hwalk⟩ := exists_walk_of_readText hread
      exact h.kept_of_write hwalk temporary settings settings' new hanswer hstore hanswer' hstore'
  | write settings settings' content temporary walk =>
    exact h.kept_of_write walk temporary settings settings' content rfl rfl rfl rfl
  | read path =>
    have hreads := h.contents.readText_eq h.plain h.plain' h.isOpen h.isOpen' path
    refine h.kept_of_eq ?_ rfl rfl
    simp only [Step.perform, readFile, Outcome.map, hreads]

end Alike

/-! ## Sessions -/

/-- Sessions of counterparts agree from any two stores that are alike. -/
theorem Alike.run (h : Alike store store') (hpairs : List.Forall₂ (Counterpart store) steps steps')
    (hafter : ∀ outcome ∈ run steps store, outcome.store.isOpen = true)
    (hafter' : ∀ outcome ∈ run steps' store', outcome.store.isOpen = true) :
    List.Forall₂ Agree (run steps store) (run steps' store') := by
  induction steps generalizing steps' store store' with
  | nil =>
    cases hpairs
    exact .nil
  | cons step steps ih =>
    cases hpairs with
    | cons hpair hpairs =>
      obtain ⟨hopen, hafter⟩ := List.forall_mem_cons.1 hafter
      obtain ⟨hopen', hafter'⟩ := List.forall_mem_cons.1 hafter'
      have hkept := h.perform hpair
      have hnext : Alike _ _ := ⟨hkept.plain, hkept.plain', hkept.agree.contents, hopen, hopen'⟩
      -- the shape of the store is what it was, so the steps to come are counterparts still
      have hpairs' := hpairs.imp fun _ _ hpair => Counterpart.of_sameShape hkept.shape hpair
      exact .cons hkept.agree (ih hnext hpairs' hafter hafter')

/-- **The way of writing does not show.** In a plain store two sessions take the
same steps, each step by settings of its own. Where the owner may use every file
throughout, they answer alike at every step, and after every step the two stores
have the same entries with the same contents. -/
theorem run_counterparts_agree (hplain : store.Plain)
    (hpairs : List.Forall₂ (Counterpart store) steps steps') (hopen : store.isOpen = true)
    (hafter : ∀ outcome ∈ run steps store, outcome.store.isOpen = true)
    (hafter' : ∀ outcome ∈ run steps' store, outcome.store.isOpen = true) :
    List.Forall₂ Agree (run steps store) (run steps' store) := by
  have h : Alike store store := ⟨hplain, hplain, .refl store, hopen, hopen⟩
  exact h.run hpairs hafter hafter'

/-- Two files, one of them in a directory, on paths with two dots and without:
inserted into through a new file and in place, written over, edited in vain, read,
and asked for where there is none. -/
theorem run_counterparts_agree_of_two_files :
    let store : Store := ⟨[[0x77]], [([[0x64]], .directory), ([[0x64], [0x67]], .file 0),
      ([[0x77], [0x66]], .file 1)], [(0, ⟨0o644, [0x61]⟩), (1, ⟨0o2755, [0x62]⟩)]⟩
    let path : Path := .ofText "..//d/./g".toList
    let other : Path := .ofText "../d/../w/f".toList
    let absent : Path := .ofText "/d/m".toList
    let atomic : Settings := { atomicWrites := true, fileMode := 0o600 }
    let steps : List Step := [.splice atomic path (.insert "a".toList "b".toList),
      .write {} other "x".toList, .splice {} other (.replace [⟨"q".toList, []⟩]), .read path,
      .splice atomic absent (.uncomment "b".toList "#".toList)]
    let steps' : List Step := [.splice {} path (.insert "a".toList "b".toList),
      .write atomic other "x".toList, .splice atomic other (.replace [⟨"q".toList, []⟩]),
      .read path, .splice {} absent (.uncomment "b".toList "#".toList)]
    store.Plain ∧ List.Forall₂ (Counterpart store) steps steps' ∧
      (∀ outcome ∈ run steps store, outcome.store.isOpen = true) ∧
      (∀ outcome ∈ run steps' store, outcome.store.isOpen = true) ∧
      List.Forall₂ Agree (run steps store) (run steps' store) := by
  intro store path other absent atomic steps steps'
  have hplain : store.Plain := .of_entries (by simp [store]) (by simp [store])
  have hpath : store.AllowsTemporary path := fun _ _ => ⟨[[0x64]], by decide +kernel⟩
  have hother : store.AllowsTemporary other := fun _ _ => ⟨[[0x77]], by decide +kernel⟩
  have habsent : store.AllowsTemporary absent := fun _ _ => ⟨[[0x64]], by decide +kernel⟩
  have hwalk : store.walk .reading other = .ok (.file [[0x77], [0x66]] 1) := by
    decide +kernel
  have hpairs : List.Forall₂ (Counterpart store) steps steps' :=
    .cons (.splice _ _ _ hpath) <| .cons (.write _ _ _ hother hwalk) <|
      .cons (.splice _ _ _ hother) <| .cons (.read _) <| .cons (.splice _ _ _ habsent) .nil
  have hafter : ∀ outcome ∈ run steps store, outcome.store.isOpen = true := by decide +kernel
  have hafter' : ∀ outcome ∈ run steps' store, outcome.store.isOpen = true := by decide +kernel
  exact ⟨hplain, hpairs, hafter, hafter',
    run_counterparts_agree hplain hpairs (by decide) hafter hafter'⟩

end Graft
