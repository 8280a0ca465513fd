import Graft.Settings.Document
import Mathlib.Data.List.Nodup

/-!
# What a document gives

A document defines no key twice (`distinct_of_parse?`), so it gives at most one
value for each setting: the one that stands under the setting's key
(`modeIn`, `switchIn`, `binIn`). Reading the fields of a document one after
another comes to taking these three up, and the order of the fields does not
matter as long as all of them suit (`exists_parse?_of_ofDocument`).

Two things add a field to a table, and both look first whether its key is
there; everything else exchanges what a key stands for, or drops a key and puts
it at the end.
-/

namespace Graft

namespace Toml

namespace Fields

variable {fields fields' : Fields} {key : Key} {label : Label} {span : Span} {node : Node}
variable {lead : List Key} {change : Fields → Option Fields}

/-! ## Keys -/

/-- The keys of a table, in order. -/
def keys (fields : Fields) : List Text :=
  fields.map fun field => field.1.key

/-- No key stands twice. -/
def Distinct (fields : Fields) : Prop :=
  fields.keys.Nodup

theorem find?_eq_none_iff {key : Text} : fields.find? key = none ↔ key ∉ fields.keys := by
  simp [find?, keys]

theorem keys_add (key : Key) (span : Span) (node : Node) (fields : Fields) :
    (fields.add key span node).keys = fields.keys ++ [key.text] := by
  simp [add, keys]

/-- What a key stands for is exchanged, and the key stays. -/
theorem keys_set (label : Label) (node : Node) (fields : Fields) :
    (fields.set label node).keys = fields.keys := by
  unfold set keys
  rw [List.map_map]
  refine List.map_congr_left fun field _ => ?_
  simp only [Function.comp_apply]
  split
  · rename_i hkey
    exact hkey.symm
  · rfl

theorem keys_remove (key : Text) (fields : Fields) :
    (fields.remove key).keys = fields.keys.filter fun other => other ≠ key := by
  simp [remove, keys, List.filter_map, Function.comp_def]

namespace Distinct

theorem nil : Distinct [] := List.nodup_nil

theorem add (h : fields.Distinct) (hnew : key.text ∉ fields.keys) (span : Span) (node : Node) :
    (fields.add key span node).Distinct := by
  unfold Distinct
  rw [keys_add, List.nodup_append]
  refine ⟨h, List.nodup_singleton _, fun a ha b hb => ?_⟩
  rintro rfl
  exact hnew (List.mem_singleton.1 hb ▸ ha)

theorem set (h : fields.Distinct) (label : Label) (node : Node) :
    (fields.set label node).Distinct := by
  unfold Distinct
  rwa [keys_set]

/-- A key that is dropped can be added again. -/
theorem add_remove (h : fields.Distinct) (key : Key) (span : Span) (node : Node) :
    ((fields.remove key.text).add key span node).Distinct := by
  refine Distinct.add ?_ ?_ span node
  · unfold Distinct
    rw [keys_remove]
    exact List.Nodup.filter _ h
  · rw [keys_remove]
    simp

/-- A value under a dotted key defines no key twice. -/
theorem define (h : fields.Distinct) {last : Key}
    (hdefine : fields.define last span node lead = some fields') : fields'.Distinct := by
  cases lead with
  | nil =>
    rw [Fields.define] at hdefine
    split at hdefine
    · rename_i hnone
      cases hdefine
      exact h.add (find?_eq_none_iff.1 (Option.isNone_iff_eq_none.1 hnone)) span node
    · cases hdefine
  | cons key lead =>
    rw [Fields.define] at hdefine
    split at hdefine
    · rename_i hnone
      obtain ⟨inner, -, rfl⟩ := Option.map_eq_some_iff.1 hdefine
      exact h.add (find?_eq_none_iff.1 hnone) _ _
    · split at hdefine
      · obtain ⟨inner, -, rfl⟩ := Option.map_eq_some_iff.1 hdefine
        exact h.set _ _
      · cases hdefine
    · split at hdefine
      · obtain ⟨inner, -, rfl⟩ := Option.map_eq_some_iff.1 hdefine
        exact h.set _ _
      · cases hdefine
    · cases hdefine

/-- A change of the table to which a header leads defines no key twice, if it
does not where the header has no other parts. -/
theorem within (h : fields.Distinct)
    (hchange : ∀ fields', change fields = some fields' → fields'.Distinct)
    (hwithin : fields.within change lead = some fields') : fields'.Distinct := by
  cases lead with
  | nil => exact hchange fields' hwithin
  | cons key lead =>
    rw [Fields.within] at hwithin
    split at hwithin
    · rename_i hnone
      obtain ⟨inner, -, rfl⟩ := Option.map_eq_some_iff.1 hwithin
      exact h.add (find?_eq_none_iff.1 hnone) _ _
    · obtain ⟨inner, -, rfl⟩ := Option.map_eq_some_iff.1 hwithin
      exact h.set _ _
    · obtain ⟨inner, -, rfl⟩ := Option.map_eq_some_iff.1 hwithin
      exact h.set _ _
    · cases hwithin

end Distinct

end Fields

/-! ## Documents -/

/-- What every step of a fold keeps holds in the end, if the fold gets there. -/
theorem foldlM_keeps {α β : Type} {p : β → Prop} {f : β → α → Option β}
    (hstep : ∀ b a b', p b → f b a = some b' → p b') {items : List α} {b b' : β} (hb : p b)
    (hfold : items.foldlM f b = some b') : p b' := by
  induction items generalizing b with
  | nil =>
    cases hfold
    exact hb
  | cons a rest ih =>
    rw [List.foldlM_cons] at hfold
    obtain ⟨next, hnext, hrest⟩ := Option.bind_eq_some_iff.1 hfold
    exact ih (hstep b a next hb hnext) hrest

theorem Fields.Distinct.fill {fields fields' : Fields} {values : List Assignment}
    (h : fields.Distinct) (hfill : Toml.fill values fields = some fields') : fields'.Distinct :=
  foldlM_keeps (fun _ _ _ hfields hdefine => hfields.define hdefine) h hfill

theorem Section.distinct_addTable {part : Section} {fields fields' : Fields}
    (h : fields.Distinct) (hadd : part.addTable fields = some fields') : fields'.Distinct := by
  unfold addTable at hadd
  -- what the table goes on with, if it goes on with anything, is no matter here
  split at hadd <;>
  · obtain ⟨former, -, hadd⟩ := Option.bind_eq_some_iff.1 hadd
    obtain ⟨inner, -, hadd⟩ := Option.bind_eq_some_iff.1 hadd
    cases hadd
    exact h.add_remove _ _ _

theorem Section.distinct_addElement {part : Section} {fields fields' : Fields}
    (h : fields.Distinct) (hadd : part.addElement fields = some fields') : fields'.Distinct := by
  unfold addElement at hadd
  obtain ⟨inner, -, hadd⟩ := Option.bind_eq_some_iff.1 hadd
  split at hadd
  · rename_i hnone
    cases hadd
    exact h.add (Fields.find?_eq_none_iff.1 hnone) _ _
  · cases hadd
    exact h.set _ _
  · cases hadd

theorem Section.distinct_addTo {part : Section} {fields fields' : Fields}
    (h : fields.Distinct) (hadd : part.addTo fields = some fields') : fields'.Distinct := by
  refine h.within (fun fields' hchange => ?_) hadd
  split at hchange
  · exact part.distinct_addElement h hchange
  · exact part.distinct_addTable h hchange

/-- **A document defines no key twice.** -/
theorem distinct_of_parse? {document : Text} {fields : Fields}
    (h : parse? document = some fields) : fields.Distinct := by
  obtain ⟨statements, -, hbuild⟩ := Option.bind_eq_some_iff.1 h
  unfold build at hbuild
  obtain ⟨front, hfill, hparts⟩ := Option.bind_eq_some_iff.1 hbuild
  have hfront : front.Distinct := Fields.Distinct.nil.fill hfill
  exact foldlM_keeps (fun _ part _ hfields hadd => part.distinct_addTo hfields hadd) hfront hparts

end Toml

namespace Settings

open Toml

variable {α : Type} {settings settings' : Settings} {fields : Fields} {key : Text} {node : Node}

/-! ## Settings in a document -/

/-- What stands under a key, as a value of the setting, or the default where
nothing of its type stands there. -/
def valueIn (fields : Fields) (key : Text) (value? : Node → Option α) (default : α) : α :=
  ((fields.find? key).bind fun field => value? field.2).getD default

/-- The number of a node that is a mode. -/
def mode? : Node → Option Nat
  | .integer value => if 0 ≤ value ∧ value < modeBound then some value.toNat else none
  | _ => none

/-- The truth value of a node that is one. -/
def switch? : Node → Option Bool
  | .boolean value => some value
  | _ => none

/-- The text of a node that is one. -/
def text? : Node → Option Text
  | .string content => some content
  | _ => none

/-- The permission bits that a document gives, or else the default. -/
def modeIn (fields : Fields) : Nat :=
  valueIn fields "file_mode".toList mode? default.fileMode

/-- The way of writing that a document gives, or else the default. -/
def switchIn (fields : Fields) : Bool :=
  valueIn fields "atomic_writes".toList switch? default.atomicWrites

/-- The program that a document gives, or else the default. -/
def binIn (fields : Fields) : Text :=
  valueIn fields "scaffold_bin".toList text? default.scaffoldBin

/-- A field that suits has a value of its setting's type, and changes no other
setting. -/
theorem readField_cases (h : settings.readField key node = .ok settings') :
    (key = "file_mode".toList ∧ ∃ mode, mode? node = some mode ∧
        settings' = { settings with fileMode := mode }) ∨
      (key = "atomic_writes".toList ∧ ∃ switch, switch? node = some switch ∧
        settings' = { settings with atomicWrites := switch }) ∨
      (key = "scaffold_bin".toList ∧ ∃ bin, text? node = some bin ∧
        settings' = { settings with scaffoldBin := bin }) ∨
      (key ≠ "file_mode".toList ∧ key ≠ "atomic_writes".toList ∧ key ≠ "scaffold_bin".toList ∧
        settings' = settings) := by
  unfold readField at h
  split at h
  · rename_i hkey
    split at h
    · rename_i value
      split at h
      · rename_i hrange
        cases h
        exact .inl ⟨hkey, _, if_pos hrange, rfl⟩
      · cases h
    · cases h
  split at h
  · rename_i hkey
    split at h
    · rename_i value
      cases h
      exact .inr (.inl ⟨hkey, value, rfl, rfl⟩)
    · cases h
  split at h
  · rename_i hkey
    split at h
    · rename_i content
      cases h
      exact .inr (.inr (.inl ⟨hkey, content, rfl, rfl⟩))
    · cases h
  · rename_i hmode hswitch hbin
    cases h
    exact .inr (.inr (.inr ⟨hmode, hswitch, hbin, rfl⟩))

/-- A setting follows a field: the one with its key gives it its value, and
every other leaves it as it is. -/
def FollowsField (get : Settings → α) (key : Text) (value? : Node → Option α) : Prop :=
  ∀ settings field node settings', readField settings field node = .ok settings' →
    if field = key then value? node = some (get settings') else get settings' = get settings

theorem followsField_fileMode : FollowsField fileMode "file_mode".toList mode? := by
  intro settings field node settings' h
  rcases readField_cases h with ⟨rfl, _, hvalue, rfl⟩ | ⟨rfl, _, -, rfl⟩ | ⟨rfl, _, -, rfl⟩ |
    ⟨hmode, -, -, rfl⟩
  · rwa [if_pos rfl]
  · rw [if_neg (by decide)]
  · rw [if_neg (by decide)]
  · rw [if_neg hmode]

theorem followsField_atomicWrites : FollowsField atomicWrites "atomic_writes".toList switch? := by
  intro settings field node settings' h
  rcases readField_cases h with ⟨rfl, _, -, rfl⟩ | ⟨rfl, _, hvalue, rfl⟩ | ⟨rfl, _, -, rfl⟩ |
    ⟨-, hswitch, -, rfl⟩
  · rw [if_neg (by decide)]
  · rwa [if_pos rfl]
  · rw [if_neg (by decide)]
  · rw [if_neg hswitch]

theorem followsField_scaffoldBin : FollowsField scaffoldBin "scaffold_bin".toList text? := by
  intro settings field node settings' h
  rcases readField_cases h with ⟨rfl, _, -, rfl⟩ | ⟨rfl, _, -, rfl⟩ | ⟨rfl, _, hvalue, rfl⟩ |
    ⟨-, -, hbin, rfl⟩
  · rw [if_neg (by decide)]
  · rw [if_neg (by decide)]
  · rwa [if_pos rfl]
  · rw [if_neg hbin]

/-- **What follows its field is read off the document**, where no key stands
twice and all fields suit. -/
theorem FollowsField.eq_valueIn {get : Settings → α} {value? : Node → Option α}
    (hfollows : FollowsField get key value?) (hdistinct : fields.Distinct)
    (h : readFields settings fields = .ok settings') :
    get settings' = valueIn fields key value? (get settings) := by
  induction fields generalizing settings with
  | nil =>
    cases h
    rfl
  | cons field rest ih =>
    obtain ⟨label, node⟩ := field
    obtain ⟨hlabel, hrest⟩ := List.nodup_cons.1 hdistinct
    rw [readFields] at h
    split at h
    · rename_i next hfield
      have hnext := hfollows settings label.key node next hfield
      rw [ih hrest h]
      by_cases hkey : label.key = key
      · -- the key does not stand in the fields still to come
        subst hkey
        rw [if_pos rfl] at hnext
        have hnone : Fields.find? label.key rest = none := Fields.find?_eq_none_iff.2 hlabel
        have hfound : Fields.find? label.key ((label, node) :: rest) = some (label, node) :=
          List.find?_cons_of_pos (by simp)
        rw [valueIn, valueIn, hnone, hfound, Option.bind_some, hnext]
        rfl
      · rw [if_neg hkey] at hnext
        have hskip : Fields.find? key ((label, node) :: rest) = Fields.find? key rest :=
          List.find?_cons_of_neg (by simp [hkey])
        rw [valueIn, valueIn, hskip, hnext]
    · cases h

/-- The settings that fields give. -/
theorem eq_of_readFields (hdistinct : fields.Distinct)
    (h : readFields default fields = .ok settings) :
    settings = ⟨modeIn fields, switchIn fields, binIn fields⟩ := by
  have hmode : settings.fileMode = modeIn fields := followsField_fileMode.eq_valueIn hdistinct h
  have hswitch : settings.atomicWrites = switchIn fields :=
    followsField_atomicWrites.eq_valueIn hdistinct h
  have hbin : settings.scaffoldBin = binIn fields :=
    followsField_scaffoldBin.eq_valueIn hdistinct h
  cases settings
  cases hmode
  cases hswitch
  cases hbin
  rfl

/-- **The settings of a document are those it gives**, and they can be used. -/
theorem exists_parse?_of_ofDocument {document : Text} (h : ofDocument document = .ok settings) :
    ∃ fields, parse? document = some fields ∧
      settings = ⟨modeIn fields, switchIn fields, binIn fields⟩ ∧ settings.check = .ok () := by
  unfold ofDocument at h
  split at h
  · cases h
  rename_i fields hparse
  split at h
  · cases h
  rename_i read hread
  refine ⟨fields, hparse, ?_⟩
  cases hcheck : read.check with
  | error problem =>
    rw [hcheck] at h
    cases h
  | ok _ =>
    rw [hcheck] at h
    cases h
    exact ⟨eq_of_readFields (distinct_of_parse? hparse) hread, hcheck⟩

end Settings

end Graft
