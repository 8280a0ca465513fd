import Graft.Proofs.Reach
import Graft.Proofs.Reordering

/-!
# Editing a file is editing its text

An edit does to the text of a file what the function behind it does to a text
held in memory, and fails where that fails, of the same missing marker. Over a
whole session of edits on one path the file follows the text, whichever way
each edit writes (`run_splices_matches`). What carries this is `Ready`: that
the path reaches a file with the text, beside which a temporary file can be
made. The entries a walk meets on the way may change from one edit to the
next, as an atomic write replaces the link through which the file was reached.

Nothing here can make up for permission bits: a file that its owner may not
read cannot be read back. The bits of the files are left to a hypothesis, which
settings that give the owner access always fulfil (`permits_of_run`).
-/

namespace Graft

variable {store : Store} {path : Path} {content new : Text} {settings : Settings} {edit : Edit}
variable {steps : List (Settings × Edit)}

/-! ## Edits in memory -/

/-- Only a missing target stops a list of replacements. -/
theorem exists_marker_of_applyReplacements {rs : List Replacement} {error : Error}
    (h : applyReplacements content rs = .error error) :
    ∃ marker, error = .markerNotFound marker none := by
  induction rs generalizing content with
  | nil => cases h
  | cons r rs ih =>
    by_cases hmem : r.target <:+: content
    · rw [applyReplacements_cons_of_present hmem] at h
      exact ih h
    · rw [applyReplacements_cons_of_missing hmem] at h
      exact ⟨r.target, (Except.error.inj h).symm⟩

/-- Only a missing marker stops an insertion. -/
theorem exists_marker_of_insertAfter {marker payload : Text} {error : Error}
    (h : insertAfter content marker payload = .error error) :
    ∃ marker, error = .markerNotFound marker none := by
  unfold insertAfter at h
  split at h
  · cases h
  · exact ⟨marker, (Except.error.inj h).symm⟩

namespace Edit

/-- What the function behind an edit makes of a text in memory: another text,
or none where there is nothing to do. -/
def inMemory (edit : Edit) (content : Text) : Except Error (Option Text) :=
  match edit with
  | insert marker payload => (insertAfter content marker payload).map some
  | uncomment block sign => .ok (Graft.uncomment content block sign)
  | replace replacements => (applyReplacements content replacements).map some
  | fillWebhook => (applyReplacements content Webhook.replacements).map some

/-- The text in memory once the edit has been tried. -/
def leaves (edit : Edit) (content : Text) : Text :=
  match edit.inMemory content with
  | .ok (some new) => new
  | .ok none | .error _ => content

/-- Edits of a text in memory one after another: what each comes to, and the
text it leaves to the next. -/
def runInMemory : List Edit → Text → List (Except Error (Option Text) × Text)
  | [], _ => []
  | edit :: rest, content =>
    (edit.inMemory content, edit.leaves content) :: runInMemory rest (edit.leaves content)

/-- A function that fails only of missing markers decides for its result or
for the refusal. -/
theorem ofExcept_cases {result : Except Error Text}
    (hmarker : ∀ error, result = .error error → ∃ marker, error = .markerNotFound marker none) :
    (∃ new, result.map some = .ok (some new) ∧ Decision.ofExcept result = .write new) ∨
      ∃ marker, result.map some = .error (.markerNotFound marker none) ∧
        Decision.ofExcept result = .refuse (.markerNotFound marker none) := by
  cases result with
  | ok new => exact .inl ⟨new, rfl, rfl⟩
  | error error =>
    obtain ⟨marker, rfl⟩ := hmarker error rfl
    exact .inr ⟨marker, rfl, rfl⟩

/-- **An edit decides as the function behind it does**: for its text, for none,
or for the refusal of a missing marker. -/
theorem decide_cases (edit : Edit) (content : Text) :
    (∃ new, edit.inMemory content = .ok (some new) ∧ edit.decide content = .write new) ∨
      (edit.inMemory content = .ok none ∧ edit.decide content = .keep) ∨
      ∃ marker, edit.inMemory content = .error (.markerNotFound marker none) ∧
        edit.decide content = .refuse (.markerNotFound marker none) := by
  cases edit with
  | insert marker payload =>
    exact (ofExcept_cases fun _ => exists_marker_of_insertAfter).imp_right .inr
  | uncomment block sign =>
    have hmemory : (uncomment block sign).inMemory content =
        .ok (Graft.uncomment content block sign) := rfl
    rw [hmemory, decide_uncomment]
    cases Graft.uncomment content block sign with
    | some new => exact .inl ⟨new, rfl, rfl⟩
    | none => exact .inr (.inl ⟨rfl, rfl⟩)
  | replace rs =>
    exact (ofExcept_cases fun _ => exists_marker_of_applyReplacements).imp_right .inr
  | fillWebhook =>
    exact (ofExcept_cases fun _ => exists_marker_of_applyReplacements).imp_right .inr

end Edit

/-! ## Reading back -/

namespace Store

/-- The owner may read and write the file to which the path leads, if it leads
to one. -/
def permits (store : Store) (path : Path) : Bool :=
  match store.walk .reading path with
  | .ok (.file _ id) => (store.fileAt id).mode.isOpen
  | .ok (.directory _) | .ok (.vacant _) | .error _ => true

/-- The owner may read the file to which the path leads, if it leads to one. -/
def permitsReading (store : Store) (path : Path) : Bool :=
  match store.walk .reading path with
  | .ok (.file _ id) => (store.fileAt id).mode.isReadable
  | .ok (.directory _) | .ok (.vacant _) | .error _ => true

theorem Resolves.permits_eq {place : Location} {id : FileId}
    (h : store.Resolves path (.file place id)) :
    store.permits path = (store.fileAt id).mode.isOpen := by
  unfold permits
  rw [resolves_iff.1 h]

theorem Resolves.permitsReading_eq {place : Location} {id : FileId}
    (h : store.Resolves path (.file place id)) :
    store.permitsReading path = (store.fileAt id).mode.isReadable := by
  unfold permitsReading
  rw [resolves_iff.1 h]

/-- **A path to a file that may be read** reads as the text whose bytes the file
holds, and is refused where it holds those of none. -/
theorem Resolves.readText_eq {place : Location} {id : FileId}
    (h : store.Resolves path (.file place id))
    (hreadable : (store.fileAt id).mode.isReadable = true) :
    store.readText path =
      match Text.decode? (store.fileAt id).bytes with
      | some content => .ok content
      | none => .error .notText := by
  have hread : store.readBytes path = .ok (store.fileAt id).bytes := by
    unfold readBytes
    rw [bind_eq_ok_iff]
    refine ⟨_, resolves_iff.1 h, ?_⟩
    simp only [if_pos hreadable]
  unfold readText
  rw [hread]
  rfl

theorem Reaches.permits_eq {dir place : Location} {name : Name} {id : FileId}
    (h : store.Reaches path dir name place id) :
    store.permits path = (store.fileAt id).mode.isOpen :=
  (resolves_iff.2 (h.walk_eq .reading)).permits_eq

/-- A path reads as a text where it reaches a file that may be read and holds
the bytes of the text. -/
theorem Reaches.readText_eq {dir place : Location} {name : Name} {id : FileId}
    (h : store.Reaches path dir name place id)
    (hreadable : (store.fileAt id).mode.isReadable = true)
    (hbytes : (store.fileAt id).bytes = Text.encode content) :
    store.readText path = .ok content := by
  rw [(resolves_iff.2 (h.walk_eq .reading)).readText_eq hreadable, hbytes, Text.decode?_encode]

end Store

/-! ## One edit -/

/-- What a step on the file at a path answers, beside the result of the
function behind it: the missing marker is the same, and the path as it was
given goes with it. -/
inductive Answers (path : Path) : Except Error (Option Text) → Except Error Answer → Prop
  | done (result : Option Text) : Answers path (.ok result) (.ok .done)
  | missing (marker : Text) : Answers path (.error (.markerNotFound marker none))
      (.error (.markerNotFound marker (some path)))

/-- An outcome on the file at a path matches what came of the text in memory:
it answers so, and the file reads as the text. -/
structure Matches (path : Path) (outcome : Outcome Answer)
    (inMemory : Except Error (Option Text) × Text) : Prop where
  answers : Answers path inMemory.1 outcome.answer
  reads : (readFile path outcome.store).answer = .ok inMemory.2

/-- The path reads as the text, and its file can be written in both ways. -/
structure Ready (store : Store) (path : Path) (content : Text) : Prop where
  reads : store.readText path = .ok content
  permits : store.permits path = true
  temporary : ∃ tmp, store.temporaryPlace path.directory = .ok tmp

/-- **A write goes well where the path is ready**, and the path is ready after
it, if the owner still has access to the file; it has where the settings give
it to a new file. -/
theorem Ready.write (h : Ready store path content) (settings : Settings) (new : Text) :
    (writeFile settings path new store).answer = .ok () ∧
      ((writeFile settings path new store).store.permits path = true →
        Ready (writeFile settings path new store).store path new) ∧
      ((settings.method = .atomic → Mode.isOpen settings.fileMode = true) →
        (writeFile settings path new store).store.permits path = true) := by
  obtain ⟨place, id, hwalk⟩ := Store.exists_walk_of_readText h.reads
  obtain ⟨dir, name, hreaches⟩ := Store.exists_reaches hwalk
  obtain ⟨tmp, htemp⟩ := h.temporary
  have hopen : (store.fileAt id).mode.isOpen = true := hreaches.permits_eq ▸ h.permits
  have hwritable : (store.fileAt id).mode.isWritable = true := (Bool.and_eq_true_iff.1 hopen).2
  obtain ⟨after, place', id', hwrite, hafter, hbytes, htemp', hkeeps⟩ :=
    hreaches.writeBytes hwritable htemp settings.method settings.fileMode (Text.encode new)
  unfold writeFile
  rw [hwrite]
  refine ⟨rfl, fun hpermits => ?_, fun hmode => ?_⟩
  · have hopen' : (after.fileAt id').mode.isOpen = true := hafter.permits_eq ▸ hpermits
    have hreadable : (after.fileAt id').mode.isReadable = true :=
      (Bool.and_eq_true_iff.1 hopen').1
    exact ⟨hafter.readText_eq hreadable hbytes, hpermits, tmp, htemp'⟩
  · exact hafter.permits_eq.trans (hkeeps hmode hopen)

/-- What an edit comes to on a path that is ready: it answers as the function
behind it does, and leaves the store alone or writes the text that the
function gives. -/
theorem Ready.splice_cases (h : Ready store path content) (settings : Settings) (edit : Edit) :
    let outcome := (Step.splice settings path edit).perform store
    Answers path (edit.inMemory content) outcome.answer ∧
      (outcome.store = store ∧ edit.leaves content = content ∨
        outcome.store = (writeFile settings path (edit.leaves content) store).store) := by
  intro outcome
  unfold Edit.leaves
  rcases edit.decide_cases content with ⟨new, hmemory, hdecide⟩ | ⟨hmemory, hdecide⟩ |
    ⟨marker, hmemory, hdecide⟩
  · obtain ⟨hanswer, hstore⟩ := perform_splice_of_write settings h.reads hdecide
    rw [(h.write settings new).1] at hanswer
    rw [hmemory]
    exact ⟨hanswer ▸ .done _, .inr hstore⟩
  · obtain ⟨hanswer, hstore⟩ := perform_splice_of_keep settings h.reads hdecide
    rw [hmemory]
    exact ⟨hanswer ▸ .done _, .inl ⟨hstore, rfl⟩⟩
  · obtain ⟨hanswer, hstore⟩ := perform_splice_of_refuse settings h.reads hdecide
    rw [hmemory]
    exact ⟨hanswer ▸ .missing marker, .inl ⟨hstore, rfl⟩⟩

/-- A path that is ready stays so over an edit that leaves the owner access,
and reads as the text in memory. -/
theorem Ready.splice (h : Ready store path content)
    (hpermits : ((Step.splice settings path edit).perform store).store.permits path = true) :
    Ready ((Step.splice settings path edit).perform store).store path (edit.leaves content) := by
  obtain ⟨-, ⟨hstore, hleaves⟩ | hstore⟩ := h.splice_cases settings edit
  · rw [hstore, hleaves]
    exact h
  · rw [hstore] at hpermits ⊢
    exact (h.write settings (edit.leaves content)).2.1 hpermits

/-- The owner keeps access over an edit whose settings give it to a new file. -/
theorem Ready.permits_splice (h : Ready store path content) (edit : Edit)
    (hmode : settings.method = .atomic → Mode.isOpen settings.fileMode = true) :
    ((Step.splice settings path edit).perform store).store.permits path = true := by
  obtain ⟨-, ⟨hstore, -⟩ | hstore⟩ := h.splice_cases settings edit
  · rw [hstore, h.permits]
  · rw [hstore]
    exact (h.write settings (edit.leaves content)).2.2 hmode

/-! ## Sessions of edits -/

/-- The steps that make these edits in the file at a path, each as its settings
say. -/
def splices (path : Path) (steps : List (Settings × Edit)) : List Step :=
  steps.map fun step => .splice step.1 path step.2

/-- Where every setting gives the owner access to a new file, the owner has
access throughout the session. -/
theorem permits_of_run (h : Ready store path content)
    (hmodes : ∀ step ∈ steps, step.1.method = .atomic → Mode.isOpen step.1.fileMode = true) :
    ∀ outcome ∈ run (splices path steps) store, outcome.store.permits path = true := by
  induction steps generalizing store content with
  | nil =>
    intro outcome hmem
    cases hmem
  | cons step steps ih =>
    obtain ⟨settings, edit⟩ := step
    obtain ⟨hmode, hmodes⟩ := List.forall_mem_cons.1 hmodes
    have hpermits := h.permits_splice edit hmode
    exact List.forall_mem_cons.2 ⟨hpermits, ih (h.splice hpermits) hmodes⟩

/-- **Editing a file is editing its text.** A path reads as a text, a temporary
file can be made beside it, and the owner may read and write what the path
leads to, now and after every step. Then any session of edits there, each
written in its own way, answers step by step as the same edits of the text in
memory, and after every step the path reads as the text in memory. -/
theorem run_splices_matches (hread : store.readText path = .ok content)
    (htemp : ∃ tmp, store.temporaryPlace path.directory = .ok tmp)
    (hpermits : store.permits path = true)
    (hafter : ∀ outcome ∈ run (splices path steps) store, outcome.store.permits path = true) :
    List.Forall₂ (Matches path) (run (splices path steps) store)
      (Edit.runInMemory (steps.map (·.2)) content) := by
  -- what each edit keeps is that the path is ready, not the entries or the file
  have h : Ready store path content := ⟨hread, hpermits, htemp⟩
  clear hread hpermits htemp
  induction steps generalizing store content with
  | nil => exact .nil
  | cons step steps ih =>
    obtain ⟨settings, edit⟩ := step
    obtain ⟨hpermits, hafter⟩ := List.forall_mem_cons.1 hafter
    have hnext := h.splice hpermits
    refine .cons ⟨(h.splice_cases settings edit).1, ?_⟩ (ih hafter hnext)
    unfold readFile
    rw [hnext.reads]
    rfl

/-- A link with an absolute target to a file with two names, on a path with two
dots: written through, replaced, and written again, with an edit that fails and
one that finds nothing to do. -/
theorem run_splices_matches_of_link :
    let store : Store := ⟨[[0x77]], [([[0x64]], .directory), ([[0x64], [0x67]], .file 0),
      ([[0x77], [0x66]], .link (.ofText "/d/g".toList)), ([[0x77], [0x68]], .file 0)],
      [(0, ⟨0o644, [0x61]⟩)]⟩
    let path : Path := .ofText "../d/../w/f".toList
    let atomic : Settings := { atomicWrites := true, fileMode := 0o600 }
    let steps : List (Settings × Edit) :=
      [({}, .insert "a".toList "b".toList), (atomic, .replace [⟨"x".toList, []⟩]),
        (atomic, .replace [⟨"a".toList, "#c".toList⟩]), ({}, .uncomment "y".toList "#".toList),
        ({}, .uncomment "#cb".toList "#".toList)]
    store.readText path = .ok "a".toList ∧
      (∃ tmp, store.temporaryPlace path.directory = .ok tmp) ∧ store.permits path = true ∧
      (∀ outcome ∈ run (splices path steps) store, outcome.store.permits path = true) ∧
      List.Forall₂ (Matches path) (run (splices path steps) store)
        (Edit.runInMemory (steps.map (·.2)) "a".toList) := by
  intro store path atomic steps
  have hread : store.readText path = .ok "a".toList := by decide +kernel
  have htemp : ∃ tmp, store.temporaryPlace path.directory = .ok tmp :=
    ⟨[[0x77]], by decide +kernel⟩
  have hpermits : store.permits path = true := by decide +kernel
  have hafter : ∀ outcome ∈ run (splices path steps) store,
      outcome.store.permits path = true := by decide +kernel
  exact ⟨hread, htemp, hpermits, hafter, run_splices_matches hread htemp hpermits hafter⟩

end Graft
