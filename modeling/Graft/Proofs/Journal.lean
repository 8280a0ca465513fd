import Graft.Proofs.AllOrNothing
import Graft.Proofs.Buffer

/-!
# The journal tells the truth

`Truthful` sets the events of a step against its answer and the store it
leaves. `truthful_perform` gives it for every kind of step, and from that
`run_tells_truth` for every step of a run.

Most events are remarks that only go along. Those that are not, the marks of a
step, come in seven ways (`Account`), and how many there are of a kind and in
which order is read off these ways alone. For each kind of step there is then
left to say which way its marks come, and that what they say is so.

Readings and writings are told by their messages (`saysReading`,
`saysWriting`), so that no other event can pass for one.
-/

namespace Graft

variable {path : Path} {settings : Settings} {edit : Edit} {content new : Text}
variable {step : Step} {before : Store} {outcome : Outcome Answer}

/-! ## Kinds of events -/

namespace Event

/-- The message begins as that of a reading. -/
def saysReading (event : Event) : Bool :=
  "Reading file".toList.isPrefixOf event.message

/-- The message begins as that of a writing. -/
def saysWriting (event : Event) : Bool :=
  "Writing file".toList.isPrefixOf event.message

/-- The event is a warning. -/
def warns (event : Event) : Bool := event.level = .warn

/-- The event is for information. -/
def informs (event : Event) : Bool := event.level = .info

/-- The event goes along with a step, without saying how it goes. -/
def isRemark (event : Event) : Bool :=
  !(event.warns || event.informs || event.saysReading || event.saysWriting)

/-- No other message begins as that of a reading. -/
theorem saysReading_eq (event : Event) :
    event.saysReading = match event with
      | reading _ => true
      | _ => false := by
  cases event with
  | writing method => cases method <;> rfl
  | _ => rfl

/-- No other message begins as that of a writing. -/
theorem saysWriting_eq (event : Event) :
    event.saysWriting = match event with
      | writing _ _ _ => true
      | _ => false := by
  cases event with
  | writing method => cases method <;> rfl
  | _ => rfl

/-- What is no remark is one of the four kinds. -/
theorem isRemark_eq_false_iff {event : Event} :
    event.isRemark = false ↔ event.warns = true ∨ event.informs = true ∨
      event.saysReading = true ∨ event.saysWriting = true := by
  rw [isRemark, Bool.not_eq_false']
  simp only [Bool.or_eq_true, or_assoc]

/-- The events that say how a step goes. -/
def marks (events : List Event) : List Event :=
  events.filter fun event => !event.isRemark

theorem marks_append (a b : List Event) : marks (a ++ b) = marks a ++ marks b :=
  List.filter_append a b

/-- Events that are no remarks are counted among the marks as among all. -/
theorem countP_marks {p : Event → Bool} (hp : ∀ event, p event = true → event.isRemark = false)
    (events : List Event) : (marks events).countP p = events.countP p := by
  rw [marks, List.countP_filter]
  refine List.countP_congr fun event _ => ?_
  constructor
  · exact fun h => (Bool.and_eq_true_iff.1 h).1
  · exact fun h => Bool.and_eq_true_iff.2 ⟨h, by rw [hp event h]; rfl⟩

end Event

namespace Edit

open Event

/-! ## What an edit reports -/

theorem marks_opening (edit : Edit) (path : Path) : marks (edit.opening path) = [] := by
  cases edit <;> rfl

theorem marks_notice_write (edit : Edit) (path : Path) (new : Text) :
    marks (edit.notice path (.write new)) = [] := by
  cases edit <;> rfl

theorem marks_notice_keep (edit : Edit) (path : Path) :
    marks (edit.notice path .keep) = [] := by
  cases edit <;> rfl

theorem marks_closing (edit : Edit) (path : Path) :
    marks (edit.closing path) = edit.closing path := by
  cases edit <;> rfl

end Edit

/-! ## Accounts -/

/-- What can be reported of a step, remarks left out, and what it says: that a marker
is missing, that the webhook has been filled in, that a file is about to be written. -/
inductive Account : List Event → (missing filled writing : Bool) → Prop
  | nothing : Account [] false false false
  | reading (path : Path) : Account [.reading path] false false false
  | insertMissing (path : Path) :
      Account [.reading path, .insertMarkerMissing path] true false false
  | targetMissing (path : Path) (error : Error) :
      Account [.reading path, .targetMissing path error] true false false
  | writing (method : Method) (path : Path) (bytes : Nat) :
      Account [.writing method path bytes] false false true
  | splicing (method : Method) (path : Path) (bytes : Nat) :
      Account [.reading path, .writing method path bytes] false false true
  | filling (method : Method) (path : Path) (bytes : Nat) :
      Account [.reading path, .writing method path bytes, .webhookFilled path] false true true

namespace Account

open Event

variable {events : List Event} {missing filled writing : Bool}

theorem countP_warns (h : Account events missing filled writing) :
    events.countP warns = if missing then 1 else 0 := by
  cases h <;> rfl

theorem countP_informs (h : Account events missing filled writing) :
    events.countP informs = if filled then 1 else 0 := by
  cases h <;> rfl

theorem countP_saysReading_le (h : Account events missing filled writing) :
    events.countP saysReading ≤ 1 := by
  cases h <;> simp [saysReading_eq]

theorem countP_saysWriting (h : Account events missing filled writing) :
    events.countP saysWriting = if writing then 1 else 0 := by
  cases h <;> simp [saysWriting_eq]

/-- No reading follows a writing. -/
theorem pairwise (h : Account events missing filled writing) :
    events.Pairwise fun earlier later =>
      ¬ (earlier.saysWriting = true ∧ later.saysReading = true) := by
  cases h <;> simp [saysReading_eq, saysWriting_eq]

end Account

/-! ## What the journal tells of a step -/

/-- The step fills in the sample webhook. -/
def Step.fillsWebhook : Step → Bool
  | splice _ _ .fillWebhook => true
  | _ => false

/-- The answer is that a marker is missing. -/
def Outcome.misses (outcome : Outcome Answer) : Bool :=
  match outcome.answer with
  | .error error => error.isMarkerNotFound
  | .ok _ => false

theorem Outcome.misses_eq_false
    (h : ∀ error, outcome.answer = .error error → error.isMarkerNotFound = false) :
    outcome.misses = false := by
  unfold misses
  split
  · exact h _ ‹_›
  · rfl

/-- What the events of a step say is so, and they leave none of it out. -/
structure Truthful (step : Step) (before : Store) (outcome : Outcome Answer) : Prop where
  /-- A warning for a missing marker, and only for that. -/
  warnings : outcome.events.countP Event.warns = if outcome.misses then 1 else 0
  /-- An information for the webhook filled in, and only for that. -/
  infos : outcome.events.countP Event.informs =
    if step.fillsWebhook && outcome.answer.isOk then 1 else 0
  /-- The information is the last event. -/
  info_last : (∃ event ∈ outcome.events, event.informs = true) →
    ∃ others path, outcome.events = others ++ [.webhookFilled path]
  reading_le : outcome.events.countP Event.saysReading ≤ 1
  writing_le : outcome.events.countP Event.saysWriting ≤ 1
  /-- No reading follows a writing. -/
  reading_first : outcome.events.Pairwise fun earlier later =>
    ¬ (earlier.saysWriting = true ∧ later.saysReading = true)
  /-- An edit sets about writing where the file can be read and the function behind it
  makes a text of what it holds. -/
  writing_iff : ∀ settings path edit, step = .splice settings path edit →
    ((∃ event ∈ outcome.events, event.saysWriting = true) ↔
      ∃ content new, before.readText path = .ok content ∧
        edit.inMemory content = .ok (some new))
  /-- What changes the store says so and goes well. -/
  writing_of_changed : outcome.store ≠ before →
    (∃ event ∈ outcome.events, event.saysWriting = true) ∧ outcome.answer.isOk = true

namespace Truthful

open Event

variable {missing filled writing : Bool}

/-- A step is told of truthfully if its account is true, remarks left out. -/
theorem of_account (h : Account (marks outcome.events) missing filled writing)
    (hmissing : outcome.misses = missing)
    (hfilled : (step.fillsWebhook && outcome.answer.isOk) = filled)
    (hlast : filled = true → ∃ others path, outcome.events = others ++ [.webhookFilled path])
    (hwriting : ∀ settings path edit, step = .splice settings path edit →
      (writing = true ↔ ∃ content new, before.readText path = .ok content ∧
        edit.inMemory content = .ok (some new)))
    (hchanged : outcome.store ≠ before → writing = true ∧ outcome.answer.isOk = true) :
    Truthful step before outcome := by
  -- the events of each kind are all among the marks
  have hwarns : outcome.events.countP warns = if outcome.misses then 1 else 0 := by
    rw [← countP_marks fun _ h => isRemark_eq_false_iff.2 (.inl h), h.countP_warns, hmissing]
  have hinforms : outcome.events.countP informs =
      if step.fillsWebhook && outcome.answer.isOk then 1 else 0 := by
    rw [← countP_marks fun _ h => isRemark_eq_false_iff.2 (.inr (.inl h)), h.countP_informs,
      hfilled]
  have hreads : outcome.events.countP saysReading ≤ 1 := by
    rw [← countP_marks fun _ h => isRemark_eq_false_iff.2 (.inr (.inr (.inl h)))]
    exact h.countP_saysReading_le
  have hwrites : outcome.events.countP saysWriting = if writing then 1 else 0 := by
    rw [← countP_marks fun _ h => isRemark_eq_false_iff.2 (.inr (.inr (.inr h))),
      h.countP_saysWriting]
  have hexists : (∃ event ∈ outcome.events, event.saysWriting = true) ↔ writing = true := by
    rw [← List.countP_pos_iff, hwrites]
    cases writing <;> decide
  refine
    { warnings := hwarns
      infos := hinforms
      info_last := fun hinfo => ?_
      reading_le := hreads
      writing_le := ?_
      reading_first := ?_
      writing_iff := fun _ _ _ hstep => hexists.trans (hwriting _ _ _ hstep)
      writing_of_changed := fun hstore => (hchanged hstore).imp_left hexists.2 }
  · rw [← List.countP_pos_iff, hinforms, hfilled] at hinfo
    refine hlast (Decidable.byContradiction fun hnot => ?_)
    rw [if_neg hnot] at hinfo
    exact Nat.lt_irrefl 0 hinfo
  · rw [hwrites]
    cases writing <;> decide
  · have hmarks := h.pairwise
    rw [marks, List.pairwise_filter] at hmarks
    refine hmarks.imp fun {earlier later} hpair => ?_
    rintro ⟨hearlier, hlater⟩
    have hearlier' := isRemark_eq_false_iff.2 (.inr (.inr (.inr hearlier)))
    have hlater' := isRemark_eq_false_iff.2 (.inr (.inr (.inl hlater)))
    exact hpair (by rw [hearlier']; rfl) (by rw [hlater']; rfl) ⟨hearlier, hlater⟩

/-- A step that sets about no writing changes nothing and fills in nothing. -/
theorem of_unwritten (h : Account (marks outcome.events) missing false false)
    (hmissing : outcome.misses = missing)
    (hfilled : (step.fillsWebhook && outcome.answer.isOk) = false)
    (hstore : outcome.store = before)
    (hnone : ∀ settings path edit, step = .splice settings path edit →
      ¬ ∃ content new, before.readText path = .ok content ∧
        edit.inMemory content = .ok (some new)) :
    Truthful step before outcome :=
  .of_account h hmissing hfilled (fun hfills => absurd hfills Bool.false_ne_true)
    (fun settings path edit hstep => by simpa using hnone settings path edit hstep)
    fun hchanged => absurd hstore hchanged

end Truthful

/-! ## Every step -/

theorem marks_writing (method : Method) (path : Path) (bytes : Nat) :
    Event.marks [.writing method path bytes] = [.writing method path bytes] := by
  cases method <;> rfl

/-- An edit that cannot be made is warned of. -/
theorem account_of_refuse {error : Error} (h : edit.inMemory content = .error error)
    (path : Path) :
    Account (.reading path :: Event.marks (edit.notice path (.refuse error))) true false false := by
  cases edit with
  | insert marker payload => exact .insertMissing path
  | uncomment block sign => cases h
  | replace replacements => exact .targetMissing path error
  | fillWebhook => exact .targetMissing path error

/-- An edit that is written informs only if it fills in the webhook. -/
theorem account_of_closing (settings : Settings) (edit : Edit) (path : Path) (bytes : Nat) :
    Account (.reading path :: .writing settings.method path bytes :: edit.closing path) false
      (Step.splice settings path edit).fillsWebhook true := by
  cases edit with
  | fillWebhook => exact .filling settings.method path bytes
  | _ => exact .splicing settings.method path bytes

/-- Filling in the webhook is never left undone. -/
theorem fillsWebhook_of_none (h : edit.inMemory content = .ok none) :
    (Step.splice settings path edit).fillsWebhook = false := by
  cases edit with
  | fillWebhook =>
    unfold Edit.inMemory at h
    cases hfilled : applyReplacements content Webhook.replacements with
    | ok new => simp [hfilled, Except.map] at h
    | error error => simp [hfilled, Except.map] at h
  | _ => rfl

/-- An error that is put differently comes of an error. -/
theorem exists_of_mapError_eq_error {α ε ε' : Type} {result : Except ε α} {f : ε → ε'} {error : ε'}
    (h : result.mapError f = .error error) : ∃ cause, f cause = error := by
  cases result with
  | error cause => exact ⟨cause, Except.error.inj h⟩
  | ok value => cases h

/-- No write fails of a missing marker. -/
theorem not_missing_of_writeFile {error : Error}
    (h : (writeFile settings path new before).answer = .error error) :
    error.isMarkerNotFound = false := by
  rw [answer_writeFile] at h
  obtain ⟨cause, rfl⟩ := exists_of_mapError_eq_error h
  rfl

/-- A file that cannot be read is not said to be written. -/
theorem truthful_splice_of_unreadable (settings : Settings) (edit : Edit) {failure : Failure}
    (hread : before.readText path = .error failure) :
    Truthful (.splice settings path edit) before
      ((Step.splice settings path edit).perform before) := by
  obtain ⟨hanswer, hstore⟩ := perform_splice_of_unreadable settings edit hread
  have haccount : Account (Event.marks ((Step.splice settings path edit).perform before).events)
      false false false := by
    rw [events_splice_of_unreadable settings edit hread, Event.marks_append, Edit.marks_opening]
    exact .reading path
  refine .of_unwritten haccount ?_ ?_ hstore ?_
  · rw [Outcome.misses, hanswer]
    rfl
  · rw [hanswer]
    exact Bool.and_false _
  · rintro _ _ _ ⟨⟩
    simp [hread]

/-- A text with nothing to do in it is not said to be written. -/
theorem truthful_splice_of_keep (settings : Settings) (hread : before.readText path = .ok content)
    (hmemory : edit.inMemory content = .ok none) (hdecide : edit.decide content = .keep) :
    Truthful (.splice settings path edit) before
      ((Step.splice settings path edit).perform before) := by
  obtain ⟨hanswer, hstore⟩ := perform_splice_of_keep settings hread hdecide
  have haccount : Account (Event.marks ((Step.splice settings path edit).perform before).events)
      false false false := by
    rw [events_splice_of_keep settings hread hdecide, Event.marks_append, Event.marks_append,
      Edit.marks_opening, Edit.marks_notice_keep]
    exact .reading path
  refine .of_unwritten haccount ?_ ?_ hstore ?_
  · rw [Outcome.misses, hanswer]
  · rw [fillsWebhook_of_none hmemory]
    exact Bool.false_and _
  · rintro _ _ _ ⟨⟩
    simp [hread, hmemory]

/-- An edit that is refused is warned of, and not said to be written. -/
theorem truthful_splice_of_refuse (settings : Settings) {marker : Text}
    (hread : before.readText path = .ok content)
    (hmemory : edit.inMemory content = .error (.markerNotFound marker none))
    (hdecide : edit.decide content = .refuse (.markerNotFound marker none)) :
    Truthful (.splice settings path edit) before
      ((Step.splice settings path edit).perform before) := by
  obtain ⟨hanswer, hstore⟩ := perform_splice_of_refuse settings hread hdecide
  have haccount : Account (Event.marks ((Step.splice settings path edit).perform before).events)
      true false false := by
    rw [events_splice_of_refuse settings hread hdecide, Event.marks_append, Event.marks_append,
      Edit.marks_opening]
    exact account_of_refuse hmemory path
  refine .of_unwritten haccount ?_ ?_ hstore ?_
  · rw [Outcome.misses, hanswer]
    rfl
  · rw [hanswer]
    exact Bool.and_false _
  · rintro _ _ _ ⟨⟩
    simp [hread, hmemory]

/-- An edit that writes says so, whether or not the write goes well, and tells of the
webhook only after it went well. -/
theorem truthful_splice_of_write (settings : Settings) (hread : before.readText path = .ok content)
    (hmemory : edit.inMemory content = .ok (some new))
    (hdecide : edit.decide content = .write new) :
    Truthful (.splice settings path edit) before
      ((Step.splice settings path edit).perform before) := by
  obtain ⟨hanswer, hstore⟩ := perform_splice_of_write settings hread hdecide
  have hevents := events_splice_of_write settings hread hdecide
  have hmakes : ∀ settings' path' edit',
      Step.splice settings path edit = .splice settings' path' edit' →
        (true = true ↔ ∃ content new, before.readText path' = .ok content ∧
          edit'.inMemory content = .ok (some new)) := by
    rintro _ _ _ ⟨⟩
    exact iff_of_true rfl ⟨content, new, hread, hmemory⟩
  cases hwrite : (writeFile settings path new before).answer with
  | error error =>
    rw [hwrite] at hanswer hevents
    have haccount : Account
        (Event.marks ((Step.splice settings path edit).perform before).events)
        false false true := by
      rw [hevents]
      simp only [Event.marks_append, Edit.marks_opening, Edit.marks_notice_write, marks_writing]
      exact .splicing settings.method path (Text.byteLength new)
    refine .of_account haccount ?_ ?_ (fun hfills => absurd hfills Bool.false_ne_true) hmakes
      fun hchanged => ?_
    · rw [Outcome.misses, hanswer]
      exact not_missing_of_writeFile hwrite
    · rw [hanswer]
      exact Bool.and_false _
    · exact absurd (Step.perform_of_error hanswer) hchanged
  | ok _ =>
    rw [hwrite] at hanswer hevents
    have haccount : Account
        (Event.marks ((Step.splice settings path edit).perform before).events)
        false (Step.splice settings path edit).fillsWebhook true := by
      rw [hevents]
      simp only [Event.marks_append, Edit.marks_opening, Edit.marks_notice_write, marks_writing]
      rw [Except.isOk, Except.toBool, if_pos rfl, Edit.marks_closing]
      exact account_of_closing settings edit path (Text.byteLength new)
    refine .of_account haccount ?_ ?_ (fun hfills => ?_) hmakes fun _ => ⟨rfl, ?_⟩
    · rw [Outcome.misses, hanswer]
      rfl
    · rw [hanswer]
      exact Bool.and_true _
    · obtain rfl : edit = .fillWebhook := by
        cases edit with
        | fillWebhook => rfl
        | _ => cases hfills
      exact ⟨_, path, hevents⟩
    · rw [hanswer]
      rfl

/-- The events of an edit tell the truth. -/
theorem truthful_splice (settings : Settings) (path : Path) (edit : Edit) (before : Store) :
    Truthful (.splice settings path edit) before
      ((Step.splice settings path edit).perform before) := by
  cases hread : before.readText path with
  | error failure => exact truthful_splice_of_unreadable settings edit hread
  | ok content =>
    rcases edit.decide_cases content with ⟨new, hmemory, hdecide⟩ | ⟨hmemory, hdecide⟩ |
      ⟨marker, hmemory, hdecide⟩
    · exact truthful_splice_of_write settings hread hmemory hdecide
    · exact truthful_splice_of_keep settings hread hmemory hdecide
    · exact truthful_splice_of_refuse settings hread hmemory hdecide

theorem truthful_write (settings : Settings) (path : Path) (content : Text) (before : Store) :
    Truthful (.write settings path content) before
      ((Step.write settings path content).perform before) := by
  have haccount : Account (Event.marks ((Step.write settings path content).perform before).events)
      false false true := by
    rw [Step.perform, Outcome.map, writeFile, marks_writing]
    exact .writing settings.method path (Text.byteLength content)
  refine .of_account haccount ?_ rfl (fun hfills => absurd hfills Bool.false_ne_true) ?_
    fun hchanged => ⟨rfl, ?_⟩
  · exact Outcome.misses_eq_false fun error hanswer =>
      not_missing_of_writeFile (Outcome.exists_of_map_error hanswer)
  · rintro _ _ _ ⟨⟩
  · cases hanswer : ((Step.write settings path content).perform before).answer with
    | error error => exact absurd (Step.perform_of_error hanswer) hchanged
    | ok _ => rfl

theorem truthful_read (path : Path) (before : Store) :
    Truthful (.read path) before ((Step.read path).perform before) := by
  refine .of_unwritten (.reading path) (Outcome.misses_eq_false fun error hanswer => ?_) rfl rfl
    (by rintro _ _ _ ⟨⟩)
  obtain ⟨failure, rfl⟩ := exists_of_mapError_eq_error (Outcome.exists_of_map_error hanswer)
  rfl

/-- To load settings is to read them and to answer with settings or with what is wrong
with them. -/
theorem exists_load_eq (loader : Settings.Loader) (environment : Environment) (store : Store) :
    ∃ answer : Except Settings.Problem Settings, loader.load environment store =
      ⟨answer.mapError .config, store, (loader.readSettings store).2⟩ := by
  unfold Settings.Loader.load
  rcases loader.readSettings store with ⟨problem | settings, events⟩
  · exact ⟨.error problem, rfl⟩
  · simp only
    rcases settings.override (.ofEnvironment environment) with ⟨problem | _, settings⟩
    · exact ⟨.error problem, rfl⟩
    · exact ⟨.ok settings, rfl⟩

/-- Reading settings goes without a mark, whatever it finds. -/
theorem marks_readSettings (loader : Settings.Loader) (store : Store) :
    Event.marks (loader.readSettings store).2 = [] := by
  unfold Settings.Loader.readSettings
  repeat' split
  all_goals rfl

theorem truthful_load (loader : Settings.Loader) (environment : Environment) (before : Store) :
    Truthful (.load loader environment) before ((Step.load loader environment).perform before) := by
  obtain ⟨answer, hload⟩ := exists_load_eq loader environment before
  have haccount : Account
      (Event.marks ((Step.load loader environment).perform before).events) false false false := by
    rw [Step.perform, Outcome.map, hload, marks_readSettings]
    exact .nothing
  refine .of_unwritten haccount (Outcome.misses_eq_false fun error hanswer => ?_) rfl
    (loader.store_load environment before) (by rintro _ _ _ ⟨⟩)
  have hproblem : (loader.load environment before).answer = .error error :=
    Outcome.exists_of_map_error hanswer
  rw [hload] at hproblem
  obtain ⟨problem, rfl⟩ := exists_of_mapError_eq_error hproblem
  rfl

/-- **The events of a step tell the truth.** -/
theorem truthful_perform (step : Step) (before : Store) :
    Truthful step before (step.perform before) := by
  cases step with
  | splice settings path edit => exact truthful_splice settings path edit before
  | write settings path content => exact truthful_write settings path content before
  | read path => exact truthful_read path before
  | load loader environment => exact truthful_load loader environment before

/-! ## Every run -/

/-- The store that a run leaves, told by its outcomes. -/
def leftBy (store : Store) (outcomes : List (Outcome Answer)) : Store :=
  outcomes.foldl (fun _ outcome => outcome.store) store

/-- What comes later in a run goes on from the store that the earlier steps left. -/
theorem run_append (earlier later : List Step) (store : Store) :
    run (earlier ++ later) store =
      run earlier store ++ run later (leftBy store (run earlier store)) := by
  induction earlier generalizing store with
  | nil => rfl
  | cons step earlier ih => exact congrArg (_ :: ·) (ih _)

/-- **The journal tells the truth.** Whatever steps a run is made of, and on whatever
store, each of them is told of truthfully: what it reports goes with its answer and with
the change from the store it found to the store it left. -/
theorem run_tells_truth (earlier later : List Step) (step : Step) (store : Store) :
    ∃ outcome, run (earlier ++ step :: later) store =
        run earlier store ++ outcome :: run later outcome.store ∧
      Truthful step (leftBy store (run earlier store)) outcome :=
  ⟨step.perform (leftBy store (run earlier store)), run_append earlier (step :: later) store,
    truthful_perform step _⟩

end Graft
