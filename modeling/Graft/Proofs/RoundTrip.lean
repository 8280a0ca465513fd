import Graft.Proofs.Agreement
import Graft.Proofs.Buffer
import Graft.Proofs.Effect

/-!
# Writing and reading back

What has been written to a path is what the path reads as. In place that is so
because reading goes the way that writing went: to the file, or to the vacant
name at which a file stands now. An atomic write does not go to the end of the
path, but takes the place of the entry of its last name; all names but the last
lead where they did, unless they led through that very entry. So much a path can
do: where `l` is a link to the directory that holds it, `l/l` names the link, and
goes through it, and so does `l/../l` where `l` is a link to a directory beside
it. After an atomic write to such a path there is no directory to go through, and
the path leads nowhere (`Store.CrossesItself`).

The other way round, a text that is written back to where it was read from changes
nothing but the set-id bits that any write clears.
-/

namespace Graft

namespace Store

variable {store after : Store} {path : Path} {place target dir : Location} {name : Name}
variable {id : FileId} {written : Mode} {bytes : Bytes} {budget links : Nat}
variable {names front : List Name} {slash : Bool}

/-! ## A file at a vacant name -/

/-- A walk for writing that ends at a vacant name leads to the file that is put
there. -/
theorem walkFrom_of_filled (hsame : ∀ p, p ≠ target → after.entryAt p = store.entryAt p)
    (hvacant : store.entryAt target = none) (hnew : after.entryAt target = some (.file id))
    (h : store.walkFrom .writing budget place names slash = .ok (.vacant target)) :
    after.walkFrom .reading budget place names slash = .ok (.file target id) := by
  obtain ⟨links, -, hwalks⟩ := exists_walks_of_walkFrom h
  have hoff {p : Location} {entry : Entry} (hentry : store.entryAt p = some entry) :
      after.entryAt p = some entry := by
    refine (hsame p ?_).trans hentry
    rintro rfl
    rw [hvacant] at hentry
    cases hentry
  generalize hspot : Spot.vacant target = spot at hwalks
  induction hwalks generalizing budget with
  | done => cases hspot
  | here _ ih =>
    rw [walkFrom_here] at h ⊢
    exact ih h hspot
  | up _ ih =>
    rw [walkFrom_up] at h ⊢
    exact ih h hspot
  | enter proper entry _ ih =>
    obtain ⟨-, hslash⟩ := proper_of_walkFrom_cons proper.ne_here proper.ne_up h
    rw [walkFrom_cons proper hslash, entry] at h
    rw [walkFrom_cons proper (by simp), hoff entry]
    exact ih h hspot
  | follow proper entry _ ih =>
    obtain ⟨-, hslash⟩ := proper_of_walkFrom_cons proper.ne_here proper.ne_up h
    rw [walkFrom_cons proper hslash, entry] at h
    rw [walkFrom_cons proper (by simp), hoff entry]
    cases budget with
    | zero => cases h
    | succ budget => exact ih h hspot
  | file _ _ => cases hspot
  | @vacant place name slash proper entry =>
    obtain rfl := Spot.vacant.inj hspot
    -- a slash behind the name would have stopped the walk for writing
    obtain ⟨-, hslash⟩ := proper_of_walkFrom_cons proper.ne_here proper.ne_up h
    have hbare : slash = false := by simpa using hslash
    rw [walkFrom_cons proper (by simp), hnew, hbare]
    rfl

/-- The path leads to a file that holds these bytes. -/
def Holds (store : Store) (path : Path) (bytes : Bytes) : Prop :=
  ∃ place id, store.Resolves path (.file place id) ∧ (store.fileAt id).bytes = bytes

/-- So a path to a vacant name leads to the file that is put there. -/
theorem Placed.holds_of_vacant (hplaced : Placed store after target written bytes)
    (h : store.walk .writing path = .ok (.vacant target)) : after.Holds path bytes := by
  obtain ⟨id, hnew, hfile⟩ := look_eq_file_iff.1 hplaced.look_place
  have hvacant : store.entryAt target = none := by
    cases (resolves_of_walk h).found with
    | vacant _ entry => exact entry
  unfold walk at h
  obtain ⟨_, hcheck, hwalk⟩ := bind_eq_ok_iff.1 h
  refine ⟨target, id, resolves_iff.2 ?_, by rw [hfile]⟩
  unfold walk
  rw [bind_eq_ok_iff, startOf_congr hplaced.home_eq]
  exact ⟨(), hcheck, walkFrom_of_filled hplaced.entryAt_eq hvacant hnew hwalk⟩

/-! ## A file in place of an entry -/

/-- The path goes through the entry for which its last name stands, on the way to
the directory that holds it. -/
def CrossesItself (store : Store) (path : Path) : Prop :=
  ∃ place, store.lastPlace path = .ok (some place) ∧
    Meets store place (store.startOf path) path.names.dropLast

/-- **A way through an entry is closed by a file** that takes its place. -/
theorem Walks.walkFrom_of_meets (hsame : ∀ p, p ≠ target → after.entryAt p = store.entryAt p)
    (hnew : after.entryAt target = some (.file id))
    (h : Walks store links place front slash (.directory dir)) (hle : links ≤ budget)
    (hmeets : Meets store target place front) (hnames : names ≠ []) (slash' : Bool) :
    after.walkFrom .reading budget place (front ++ names) slash' = .error .notDirectory := by
  -- until the entry is met both stores are walked alike
  generalize hdir : Spot.directory dir = spot at h
  induction h generalizing budget with
  | done => cases hmeets
  | here _ ih =>
    rw [List.cons_append, walkFrom_here]
    exact ih hle (meets_here_iff.1 hmeets) hdir
  | up _ ih =>
    rw [List.cons_append, walkFrom_up]
    exact ih hle (meets_up_iff.1 hmeets) hdir
  | @enter links place name rest slash spot proper entry _ ih =>
    rw [List.cons_append, walkFrom_cons proper (by simp)]
    by_cases hhere : place ++ [name] = target
    · rw [hhere, hnew]
      simp [hnames]
    · have hmeets := ((meets_cons_iff_of_directory proper entry).1 hmeets).resolve_left hhere
      rw [hsame _ hhere, entry]
      exact ih hle hmeets hdir
  | @follow links place name rest slash spot link proper entry _ ih =>
    rw [List.cons_append, walkFrom_cons proper (by simp)]
    by_cases hhere : place ++ [name] = target
    · rw [hhere, hnew]
      simp [hnames]
    · have hmeets := ((meets_cons_iff_of_link proper entry).1 hmeets).resolve_left hhere
      rw [hsame _ hhere, entry]
      cases budget with
      | zero => cases hle
      | succ budget =>
        have hrest := ih (Nat.le_of_succ_le_succ hle) hmeets hdir
        rw [List.append_assoc] at hrest
        simp only [slashAfter_append_of_ne_nil slash' rest link hnames, hrest]
  | file _ _ => cases hdir
  | vacant _ _ => cases hdir

/-- A path that leads to a file or to a vacant name does not cross itself. -/
theorem Resolves.not_crossesItself {spot : Spot} (h : store.Resolves path spot)
    (hspot : ∀ dir, spot ≠ .directory dir) : ¬ store.CrossesItself path := by
  rintro ⟨place, hlast, hmeets⟩
  obtain ⟨-, front, dir, name, hnames, -, rfl, _, -, hfront⟩ := exists_walks_of_lastPlace hlast
  obtain ⟨_, -, hwalks⟩ := h.walks
  rw [hnames] at hwalks
  rw [hnames, List.dropLast_concat] at hmeets
  obtain ⟨_, _, dir', -, hfront', hlast'⟩ := hwalks.split (by simp)
  obtain rfl : dir = dir' := Spot.directory.inj (hfront.spot_unique (hfront'.any_slash _))
  exact hfront.not_meets_of_blind (hlast'.blind hspot) hmeets

/-- A file at the last name of a path is found there, if the path did not cross
itself. -/
theorem Placed.holds (hplaced : Placed store after target written bytes)
    (htarget : store.renameTarget path = .ok target) (hcross : ¬ store.CrossesItself path) :
    after.Holds path bytes := by
  obtain ⟨id, hnew, hfile⟩ := look_eq_file_iff.1 hplaced.look_place
  obtain ⟨hlast, hbare, -⟩ := renameTarget_eq_ok_iff.1 htarget
  obtain ⟨hcheck, front, dir, name, hnames, proper, rfl, links, hle, hwalks⟩ :=
    exists_walks_of_lastPlace hlast
  have hoff : ¬ Meets store (dir ++ [name]) (store.startOf path) front := fun hmeets =>
    hcross ⟨_, hlast, by rwa [hnames, List.dropLast_concat]⟩
  have hall := (hwalks.of_not_meets hplaced.entryAt_eq hoff).append (by simp) (.file proper hnew)
  rw [← hnames, ← hbare, ← startOf_congr hplaced.home_eq] at hall
  exact ⟨_, id, ⟨hcheck, _, by omega, hall⟩, by rw [hfile]⟩

/-- **Past a file at its own last name a path leads nowhere**, where it crossed
itself. -/
theorem Placed.walk_of_crossesItself (hplaced : Placed store after target written bytes)
    (htarget : store.renameTarget path = .ok target) (hcross : store.CrossesItself path) :
    after.walk .reading path = .error .notDirectory := by
  obtain ⟨id, hnew, -⟩ := look_eq_file_iff.1 hplaced.look_place
  obtain ⟨hlast, -, -⟩ := renameTarget_eq_ok_iff.1 htarget
  obtain ⟨place, hlast', hmeets⟩ := hcross
  obtain rfl : place = target := by simpa using hlast'.symm.trans hlast
  obtain ⟨hcheck, front, dir, name, hnames, -, -, links, hle, hwalks⟩ :=
    exists_walks_of_lastPlace hlast
  rw [hnames, List.dropLast_concat] at hmeets
  unfold walk
  rw [hcheck, hnames, startOf_congr hplaced.home_eq]
  exact hwalks.walkFrom_of_meets hplaced.entryAt_eq hnew hle hmeets (by simp) _

/-! ## Writing and reading -/

theorem holds_of_writeInPlace {mode : Nat}
    (h : (store.writeInPlace path mode bytes).1 = .ok ()) :
    (store.writeInPlace path mode bytes).2.Holds path bytes := by
  rcases writeInPlace_cases h with ⟨place, id, hwalk, hstore⟩ | ⟨place, hwalk, hvacant, hstore⟩
  · have hresolves := resolves_of_walk hwalk
    rw [hstore]
    refine ⟨place, id, hresolves.of_agree (home_setFile ..) fun _ => entryAt_setFile .., ?_⟩
    rw [fileAt_setFile_self]
  · rw [hstore]
    exact (placed_addFile hvacant _ bytes).holds_of_vacant hwalk

theorem holds_of_writeAtomically {mode : Nat}
    (h : (store.writeAtomically path mode bytes).1 = .ok ()) (hcross : ¬ store.CrossesItself path) :
    (store.writeAtomically path mode bytes).2.Holds path bytes := by
  obtain ⟨dir, name, -, htarget, -, hplaced⟩ := writeAtomically_cases h
  exact hplaced.holds htarget hcross

end Store

open Store

variable {settings : Settings} {path : Path} {content : Text} {store : Store} {bytes : Bytes}

theorem answer_readFile (path : Path) (store : Store) :
    (readFile path store).answer =
      (store.readText path).mapError fun failure => .io failure (some path) := rfl

theorem answer_readFile_eq_ok_iff :
    (readFile path store).answer = .ok content ↔ store.readText path = .ok content := by
  rw [answer_readFile]
  cases store.readText path <;> simp [Except.mapError]

/-- **A file that the owner may read is read as the text of its bytes.** -/
theorem Store.Holds.answer_readFile (h : store.Holds path bytes)
    (hpermits : store.permitsReading path = true) :
    (readFile path store).answer =
      match Text.decode? bytes with
      | some content => .ok content
      | none => .error (.io .notText (some path)) := by
  obtain ⟨place, id, hresolves, rfl⟩ := h
  rw [Graft.answer_readFile, hresolves.readText_eq (hresolves.permitsReading_eq ▸ hpermits)]
  cases Text.decode? (store.fileAt id).bytes <;> rfl

/-- What is written is where the path leads, unless an atomic write has closed
the way. -/
theorem holds_writeFile (hok : (writeFile settings path content store).answer = .ok ())
    (hcross : settings.atomicWrites = true → ¬ store.CrossesItself path) :
    (writeFile settings path content store).store.Holds path (Text.encode content) := by
  rw [answer_writeFile_eq_ok_iff] at hok
  rw [store_writeFile]
  cases hmethod : settings.method with
  | inPlace =>
    rw [hmethod] at hok
    exact holds_of_writeInPlace hok
  | atomic =>
    rw [hmethod] at hok
    exact holds_of_writeAtomically hok (hcross (Settings.method_eq_atomic_iff.1 hmethod))

/-- What is written to a path that reads as a text is read there again, where the
owner may read the file. -/
theorem readText_writeFile {old : Text} (hread : store.readText path = .ok old)
    (hok : (writeFile settings path content store).answer = .ok ())
    (hpermits : (writeFile settings path content store).store.permitsReading path = true) :
    (writeFile settings path content store).store.readText path = .ok content := by
  obtain ⟨place, id, hwalk⟩ := exists_walk_of_readText hread
  have hcross : ¬ store.CrossesItself path := (resolves_of_walk hwalk).not_crossesItself nofun
  rw [← answer_readFile_eq_ok_iff, (holds_writeFile hok fun _ => hcross).answer_readFile hpermits,
    Text.decode?_encode]

/-- After an atomic write to a path that crosses itself there is nothing to read. -/
theorem answer_readFile_of_crossesItself (hatomic : settings.atomicWrites = true)
    (hok : (writeFile settings path content store).answer = .ok ())
    (hcross : store.CrossesItself path) :
    (readFile path (writeFile settings path content store).store).answer =
      .error (.io .notDirectory (some path)) := by
  rw [answer_writeFile_eq_ok_iff, Settings.method_eq_atomic_iff.2 hatomic] at hok
  obtain ⟨dir, name, -, htarget, -, hplaced⟩ := writeAtomically_cases hok
  rw [answer_readFile, store_writeFile, Settings.method_eq_atomic_iff.2 hatomic, writeBytes,
    readText, readBytes, hplaced.walk_of_crossesItself htarget hcross]
  rfl

/-! ## Writing back -/

/-- To give a file what it has changes nothing, if it is one that can be read. -/
theorem Store.setFile_eq_self {id : FileId} (h : (store.fileAt id).mode.isReadable = true) :
    store.setFile id (store.fileAt id) = store := by
  have hfile : Table.get? id store.files = some (store.fileAt id) := by
    unfold fileAt at h ⊢
    cases hget : Table.get? id store.files with
    | none =>
      rw [hget] at h
      cases h
    | some file => rfl
  rw [setFile, Table.put_eq_self_of_get?_eq_some hfile]

/-- **A text written back in place** goes to the file it came from, and clears
set-id bits there if it changes anything. -/
theorem writeFile_back (hread : (readFile path store).answer = .ok content)
    (hpermits : store.permits path = true) (hplace : settings.atomicWrites = false) :
    let written := writeFile settings path content store
    written.answer = .ok () ∧
      ∃ place id mode, store.Resolves path (.file place id) ∧
        store.look place = some (.file mode (Text.encode content)) ∧
        Overwritten store written.store place mode.afterWrite (Text.encode content) ∧
        (mode.afterWrite = mode → written.store = store) := by
  intro written
  rw [answer_readFile_eq_ok_iff] at hread
  obtain ⟨place, id, hwalk⟩ := exists_walk_of_readText hread
  obtain ⟨dir, name, hreaches⟩ := exists_reaches hwalk
  have hresolves := resolves_iff.2 hwalk
  have hopen : (store.fileAt id).mode.isOpen = true := hresolves.permits_eq ▸ hpermits
  obtain ⟨hreadable, hwritable⟩ := Bool.and_eq_true_iff.1 hopen
  have hbytes : (store.fileAt id).bytes = Text.encode content := by
    rw [hresolves.readText_eq hreadable] at hread
    cases hdecode : Text.decode? (store.fileAt id).bytes with
    | none => simp [hdecode] at hread
    | some other =>
      obtain rfl : other = content := by simpa [hdecode] using hread
      exact Text.decode?_eq_some_iff.1 hdecode
  have hwrite := hreaches.writeInPlace_eq hwritable settings.fileMode (Text.encode content)
  have hstore : written.store =
      store.setFile id ⟨(store.fileAt id).mode.afterWrite, Text.encode content⟩ := by
    rw [store_writeFile, Settings.method_eq_inPlace hplace, writeBytes, hwrite]
  have hentry : store.entryAt place = some (.file id) := by
    cases hresolves.found with
    | file _ entry => exact entry
  refine ⟨?_, place, id, (store.fileAt id).mode, hresolves, ?_, ?_, fun hmode => ?_⟩
  · rw [answer_writeFile_eq_ok_iff, Settings.method_eq_inPlace hplace, writeBytes, hwrite]
  · rw [look_of_file hentry, hbytes]
  · rw [hstore]
    exact overwritten_setFile hentry _ _
  · rw [hstore, hmode, ← hbytes]
    exact setFile_eq_self hreadable

/-- **Writing and reading go together**, on every store and for every path, where
the owner may read the file, and may write it where it is written back. What has
been written is read again, unless it was written atomically to a path that
crosses itself, which leads nowhere then. What has been read can be written back
in place, and so it is by an edit that replaces nothing; that changes no entry,
no other file and no byte, and nothing at all where the file has no set-id bit
for a write to clear. And a file is read as a text exactly if its bytes are those
of the text. -/
theorem readFile_writeFile (settings : Settings) (path : Path) (content : Text) (store : Store) :
    let written := writeFile settings path content store
    (written.answer = .ok () →
      ((settings.atomicWrites = true → ¬ store.CrossesItself path) →
        written.store.permitsReading path = true →
          (readFile path written.store).answer = .ok content) ∧
      (settings.atomicWrites = true → store.CrossesItself path →
        (readFile path written.store).answer = .error (.io .notDirectory (some path)))) ∧
    ((readFile path store).answer = .ok content → store.permits path = true →
      settings.atomicWrites = false →
        written.answer = .ok () ∧
        ((Step.splice settings path (.replace [])).perform store).answer = .ok .done ∧
        ((Step.splice settings path (.replace [])).perform store).store = written.store ∧
        ∃ place id mode, store.Resolves path (.file place id) ∧
          store.look place = some (.file mode (Text.encode content)) ∧
          Overwritten store written.store place mode.afterWrite (Text.encode content) ∧
          (mode.afterWrite = mode → written.store = store)) ∧
    ∀ place id, store.Resolves path (.file place id) → store.permitsReading path = true →
      ((readFile path store).answer = .ok content ↔
        (store.fileAt id).bytes = Text.encode content) ∧
      ((∀ other, (store.fileAt id).bytes ≠ Text.encode other) →
        ∃ failure, (readFile path store).answer = .error (.io failure (some path)) ∧
          failure.kind = .invalidData) := by
  intro written
  refine ⟨fun hok => ⟨fun hcross hpermits => ?_, fun hatomic hcross => ?_⟩,
    fun hread hpermits hplace => ?_, fun place id hresolves hpermits => ?_⟩
  · rw [(holds_writeFile hok hcross).answer_readFile hpermits, Text.decode?_encode]
  · exact answer_readFile_of_crossesItself hatomic hok hcross
  · obtain ⟨hok, heffect⟩ := writeFile_back hread hpermits hplace
    obtain ⟨hanswer, hstore⟩ := perform_splice_of_write settings
      (answer_readFile_eq_ok_iff.1 hread) (show (Edit.replace []).decide content = .write content
        from rfl)
    rw [hok] at hanswer
    exact ⟨hok, hanswer, hstore, heffect⟩
  · have hholds : store.Holds path (store.fileAt id).bytes := ⟨place, id, hresolves, rfl⟩
    rw [hholds.answer_readFile hpermits, ← Text.decode?_eq_some_iff]
    cases hdecode : Text.decode? (store.fileAt id).bytes with
    | none => exact ⟨by simp, fun _ => ⟨.notText, rfl, rfl⟩⟩
    | some other =>
      refine ⟨by simp, fun hno => ?_⟩
      exact absurd (Text.decode?_eq_some_iff.1 hdecode) (hno other)

/-- A file behind a link, read, written back and replaced; a link that leads to the
directory beside it, replaced by way of that directory; and a file that holds no
text. -/
theorem readFile_writeFile_of_links :
    let store : Store := ⟨[[0x77]], [([[0x64]], .directory), ([[0x64], [0x66]], .file 0),
      ([[0x77], [0x6b]], .link (.ofText "/./d".toList)),
      ([[0x6c]], .link (.ofText "d".toList)), ([[0x77], [0x62]], .file 1)],
      [(0, ⟨0o644, [0x61]⟩), (1, ⟨0o444, [0xff]⟩)]⟩
    let atomic : Settings := { atomicWrites := true }
    let file : Path := .ofText "k/f".toList
    let crossing : Path := .ofText "/l/../l".toList
    let binary : Path := .ofText "k/../w/b".toList
    (readFile file (writeFile atomic file "x".toList store).store).answer = .ok "x".toList ∧
      (readFile crossing (writeFile atomic crossing "x".toList store).store).answer =
        .error (.io .notDirectory (some crossing)) ∧
      (writeFile {} file "a".toList store).answer = .ok () ∧
      ∃ failure, (readFile binary store).answer = .error (.io failure (some binary)) ∧
        failure.kind = .invalidData := by
  intro store atomic file crossing binary
  have hfile : store.Resolves file (.file [[0x64], [0x66]] 0) :=
    resolves_iff.2 (by decide +kernel)
  have hbinary : store.Resolves binary (.file [[0x77], [0x62]] 1) :=
    resolves_iff.2 (by decide +kernel)
  have hcross : store.CrossesItself crossing :=
    ⟨[[0x6c]], by decide +kernel, .now ⟨by decide, by decide, by decide⟩ rfl⟩
  refine ⟨?_, ?_, ?_, ?_⟩
  · have hok : (writeFile atomic file "x".toList store).answer = .ok () := by decide +kernel
    have hpermits : (writeFile atomic file "x".toList store).store.permitsReading file = true := by
      decide +kernel
    exact ((readFile_writeFile atomic file "x".toList store).1 hok).1
      (fun _ => hfile.not_crossesItself nofun) hpermits
  · have hok : (writeFile atomic crossing "x".toList store).answer = .ok () := by decide +kernel
    exact ((readFile_writeFile atomic crossing "x".toList store).1 hok).2 rfl hcross
  · have hread : (readFile file store).answer = .ok "a".toList := by decide +kernel
    have hpermits : store.permits file = true := by decide +kernel
    exact ((readFile_writeFile {} file "a".toList store).2.1 hread hpermits rfl).1
  · have hpermits : store.permitsReading binary = true := by decide +kernel
    have hbytes : Text.decode? (store.fileAt 1).bytes = none := by decide +kernel
    refine ((readFile_writeFile {} binary [] store).2.2 _ _ hbinary hpermits).2 fun other h => ?_
    rw [Text.decode?_eq_some_iff.2 h] at hbytes
    cases hbytes

/-- **Writing and reading do not always go together.** An atomic write can close
the way to what it has written, though the owner may use every file before and
after. And a text that is written back in place can change what is seen of its
file. -/
theorem not_readFile_writeFile :
    (¬ ∀ (settings : Settings) (path : Path) (content : Text) (store : Store),
      store.isOpen = true → (writeFile settings path content store).store.isOpen = true →
      (writeFile settings path content store).answer = .ok () →
        (readFile path (writeFile settings path content store).store).answer = .ok content) ∧
    ¬ ∀ (settings : Settings) (path : Path) (content : Text) (store : Store),
      store.isOpen = true → settings.atomicWrites = false →
      (readFile path store).answer = .ok content →
        ∀ place, (writeFile settings path content store).store.look place = store.look place := by
  constructor
  · intro h
    let store : Store := ⟨[], [([[0x6c]], .link (.ofText ".".toList))], []⟩
    have hread := h { atomicWrites := true } (.ofText "l/l".toList) "x".toList store
      (by decide +kernel) (by decide +kernel) (by decide +kernel)
    revert hread
    decide +kernel
  · intro h
    let store : Store := ⟨[], [([[0x66]], .file 0)], [(0, ⟨0o4755, [0x61]⟩)]⟩
    have hlook := h {} (.ofText "f".toList) "a".toList store (by decide +kernel) rfl
      (by decide +kernel) [[0x66]]
    revert hlook
    decide +kernel

end Graft
