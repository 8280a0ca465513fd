import Graft.Proofs.Buffer
import Graft.Proofs.Counting
import Graft.Proofs.OnePass

/-!
# The filled webhook

The replacements of the sample webhook keep clear of each other, whatever
stands around them. So whether the sample can be filled in is decided by the
text one began with, and what comes of it is one pass over that text
(`applyReplacements_webhook_eq`).

Of the notes none is left (`not_note_infix_of_fill`), while the mark of the
imports stands as often as before (`occurrences_importMarker_of_fill`). So the
sample is filled in once: a second time the note in the defaulting function is
missing, and the file stays as the first time left it
(`fillWebhook_only_once`).
-/

namespace Graft

namespace Webhook

open Replacement

variable {content out : Text}

/-! ## Replacements that keep clear of each other -/

theorem independent_replacements : replacements.Pairwise Independent := by
  decide +kernel

theorem target_ne_nil : ∀ r ∈ replacements, r.target ≠ [] := by
  decide

/-- The sample is filled in where the mark of the imports and all notes stand. -/
theorem exists_fill_iff :
    (∃ out, applyReplacements content replacements = .ok out) ↔
      importMarker <:+: content ∧ defaultingNote <:+: content ∧ creationNote <:+: content ∧
        updateNote <:+: content := by
  rw [exists_applyReplacements_eq_ok_iff independent_replacements]
  simp [replacements]

/-- **The sample is filled in or refused on the strength of the text one began
with.** It is filled in if and only if the mark of the imports and all three
notes stand there, and then the four are exchanged in one pass; otherwise the
first of them that is missing there is blamed. -/
theorem applyReplacements_webhook_eq (content : Text) :
    ((∃ out, applyReplacements content replacements = .ok out) ↔
      importMarker <:+: content ∧ defaultingNote <:+: content ∧ creationNote <:+: content ∧
        updateNote <:+: content) ∧
    applyReplacements content replacements =
      match replacements.find? fun r => ¬ r.target <:+: content with
      | none => .ok (replaceAtOnce replacements content)
      | some r => .error (.markerNotFound r.target none) :=
  ⟨exists_fill_iff, applyReplacements_eq_match independent_replacements target_ne_nil⟩

/-! ## What is left after filling in -/

/-- The code that takes the place of a note keeps clear of it. -/
theorem not_overlaps_of_note : ∀ r ∈ replacements, r.target ≠ importMarker →
    ¬ Text.Overlaps r.replacement r.target := by
  decide +kernel

/-- None of the notes is left. -/
theorem not_note_infix_of_fill (h : applyReplacements content replacements = .ok out) :
    ¬ defaultingNote <:+: out ∧ ¬ creationNote <:+: out ∧ ¬ updateNote <:+: out := by
  have hnone (r : Replacement) (hr : r ∈ replacements) (hnote : r.target ≠ importMarker) :
      ¬ r.target <:+: out :=
    not_infix_of_applyReplacements independent_replacements hr (not_overlaps_of_note r hr hnote) h
  exact ⟨hnone ⟨defaultingNote, defaultingCode⟩ (by simp [replacements]) (by decide),
    hnone ⟨creationNote, validationCode⟩ (by simp [replacements]) (by decide),
    hnone ⟨updateNote, validationCode⟩ (by simp [replacements]) (by decide)⟩

/-- The mark of the imports stands as often as before. -/
theorem occurrences_importMarker_of_fill (h : applyReplacements content replacements = .ok out) :
    Text.occurrences importMarker out = Text.occurrences importMarker content := by
  obtain ⟨hclear, -⟩ := List.pairwise_cons.1 independent_replacements
  -- what is put behind the mark keeps clear of it
  have hmark : Text.Unbordered importMarker := by decide +kernel
  have hadded : ¬ Text.Overlaps "\n\t\"errors\"".toList importMarker := by decide +kernel
  have hrest := (applyReplacements_cons_eq_ok_iff.1 h).2
  rw [occurrences_applyReplacements hclear hrest]
  exact Text.occurrences_replaceAll_extend hmark hadded

/-- Where the sample is filled in it cannot be filled in again. -/
theorem applyReplacements_of_fill (h : applyReplacements content replacements = .ok out) :
    applyReplacements out replacements = .error (.markerNotFound defaultingNote none) := by
  obtain ⟨himport, -⟩ := exists_fill_iff.1 ⟨out, h⟩
  have himport' : importMarker <:+: out := by
    by_contra hno
    rw [← Text.occurrences_eq_zero_iff, occurrences_importMarker_of_fill h,
      Text.occurrences_eq_zero_iff] at hno
    exact hno himport
  have hdefaulting : ¬ defaultingNote <:+: out := (not_note_infix_of_fill h).1
  have hfirst : (replacements.find? fun r => ¬ r.target <:+: out) =
      some ⟨defaultingNote, defaultingCode⟩ := by
    simp [replacements, himport', hdefaulting]
  rw [applyReplacements_eq_match independent_replacements target_ne_nil, hfirst]

/-! ## Filling in a file -/

variable {store : Store} {path : Path}

/-- An edit that is done has found a text. -/
theorem exists_readText_of_done {settings : Settings} {edit : Edit}
    (hdone : ((Step.splice settings path edit).perform store).answer = .ok .done) :
    ∃ content, store.readText path = .ok content := by
  cases hread : store.readText path with
  | ok content => exact ⟨content, rfl⟩
  | error failure =>
    rw [(perform_splice_of_unreadable settings edit hread).1] at hdone
    cases hdone

/-- Where the replacements do not go through the sample is refused. -/
theorem decide_fillWebhook_of_error {error : Error}
    (h : applyReplacements content replacements = .error error) :
    Edit.fillWebhook.decide content = .refuse error := by
  simp only [Edit.decide, h, Decision.ofExcept]

/-- Where the sample has been filled in in a file the replacements have gone
through. -/
theorem exists_fill_of_done {settings : Settings} (hread : store.readText path = .ok content)
    (hdone : ((Step.splice settings path .fillWebhook).perform store).answer = .ok .done) :
    ∃ out, applyReplacements content replacements = .ok out := by
  cases hfill : applyReplacements content replacements with
  | ok out => exact ⟨out, rfl⟩
  | error error =>
    rw [(perform_splice_of_refuse settings hread (decide_fillWebhook_of_error hfill)).1] at hdone
    cases hdone

/-- Where the replacements go through the sample is filled in in the file. -/
theorem done_of_fill (hready : Ready store path content) (settings : Settings)
    (hfill : applyReplacements content replacements = .ok out) :
    ((Step.splice settings path .fillWebhook).perform store).answer = .ok .done := by
  have hmemory : Edit.fillWebhook.inMemory content = .ok (some out) := by
    simp only [Edit.inMemory, hfill, Except.map]
  have hanswers := (hready.splice_cases settings .fillWebhook).1
  rw [hmemory] at hanswers
  generalize ((Step.splice settings path .fillWebhook).perform store).answer = answer at hanswers
  cases hanswers
  rfl

/-- To fill in the sample in a file again fails, and leaves the store alone. -/
theorem perform_of_filled {settings settings' : Settings} (hpermits : store.permits path = true)
    (htemp : ∃ tmp, store.temporaryPlace path.directory = .ok tmp)
    (hdone : ((Step.splice settings path .fillWebhook).perform store).answer = .ok .done)
    (hafter : ((Step.splice settings path .fillWebhook).perform store).store.permits path = true) :
    let filled := ((Step.splice settings path .fillWebhook).perform store).store
    let again := (Step.splice settings' path .fillWebhook).perform filled
    again.answer = .error (.markerNotFound defaultingNote (some path)) ∧ again.store = filled := by
  intro filled again
  obtain ⟨content, hread⟩ := exists_readText_of_done hdone
  obtain ⟨out, hfill⟩ := exists_fill_of_done hread hdone
  have hready : Ready store path content := ⟨hread, hpermits, htemp⟩
  have hleaves : Edit.fillWebhook.leaves content = out := by
    simp only [Edit.leaves, Edit.inMemory, hfill, Except.map]
  have hread' : filled.readText path = .ok out := hleaves ▸ (hready.splice hafter).reads
  exact perform_splice_of_refuse settings' hread'
    (decide_fillWebhook_of_error (applyReplacements_of_fill hfill))

/-- **The sample is filled in only once.** Where the replacements go through
they leave none of the notes and the mark of the imports as often as before, so
that they do not go through again. And where the sample has been filled in in a
file, to fill it in again fails of the note in the defaulting function, with
the path as it was given, and leaves the store as it is. -/
theorem fillWebhook_only_once :
    (∀ content out, applyReplacements content replacements = .ok out →
      (¬ defaultingNote <:+: out ∧ ¬ creationNote <:+: out ∧ ¬ updateNote <:+: out) ∧
      Text.occurrences importMarker out = Text.occurrences importMarker content ∧
      applyReplacements out replacements = .error (.markerNotFound defaultingNote none)) ∧
    ∀ (store : Store) (path : Path) (settings settings' : Settings),
      store.permits path = true → (∃ tmp, store.temporaryPlace path.directory = .ok tmp) →
      let first := (Step.splice settings path .fillWebhook).perform store
      first.answer = .ok .done → first.store.permits path = true →
      let second := (Step.splice settings' path .fillWebhook).perform first.store
      second.answer = .error (.markerNotFound defaultingNote (some path)) ∧
        second.store = first.store := by
  constructor
  · intro content out h
    exact ⟨not_note_infix_of_fill h, occurrences_importMarker_of_fill h,
      applyReplacements_of_fill h⟩
  · intro store path settings settings' hpermits htemp first hdone hafter
    exact perform_of_filled hpermits htemp hdone hafter

/-- Two marks of imports and the notes behind them: filled in through a new
file, and tried again in place. -/
theorem fillWebhook_only_once_of_scaffold :
    let content : Text :=
      "import (import (\n".toList ++ updateNote ++ creationNote ++ defaultingNote
    let store : Store := ⟨[], [([[0x66]], .file 0)], [(0, ⟨0o644, Text.encode content⟩)]⟩
    let path : Path := .ofText "../f".toList
    let atomic : Settings := { atomicWrites := true, fileMode := 0o600 }
    let first := (Step.splice atomic path .fillWebhook).perform store
    let second := (Step.splice {} path .fillWebhook).perform first.store
    (∃ out, applyReplacements content replacements = .ok out ∧
      Text.occurrences importMarker out = 2 ∧ ¬ creationNote <:+: out) ∧
      first.answer = .ok .done ∧
      second.answer = .error (.markerNotFound defaultingNote (some path)) ∧
      second.store = first.store := by
  intro content store path atomic first second
  have hmarks : Text.occurrences importMarker content = 2 := by decide +kernel
  obtain ⟨out, hfill⟩ : ∃ out, applyReplacements content replacements = .ok out :=
    exists_fill_iff.2 (by decide +kernel)
  obtain ⟨⟨-, hcreation, -⟩, hsame, -⟩ := fillWebhook_only_once.1 content out hfill
  have hwalk : store.walk .reading path = .ok (.file [[0x66]] 0) := by decide +kernel
  obtain ⟨dir, name, hreaches⟩ := Store.exists_reaches hwalk
  have hready : Ready store path content :=
    ⟨hreaches.readText_eq (by decide) rfl, by decide +kernel, [], by decide +kernel⟩
  have hdone : first.answer = .ok .done := done_of_fill hready atomic hfill
  have hafter : first.store.permits path = true :=
    hready.permits_splice .fillWebhook fun _ => by decide
  exact ⟨⟨out, hfill, hsame.trans hmarks, hcreation⟩, hdone,
    fillWebhook_only_once.2 store path atomic {} hready.permits hready.temporary hdone hafter⟩

end Webhook

end Graft
