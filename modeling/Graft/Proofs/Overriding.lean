import Graft.Proofs.Spelling
import Mathlib.Data.List.Induction

/-!
# Overrides one after another

Overriding can stop half-way, and what was taken up before stays. So later
overrides build on what failed ones have left, and a mode that cannot be used
spoils every later answer until another takes its place. What holds over any
number of overrides is a law for each setting: it is what the latest of them
has given that gave it anything, whatever became of that one otherwise
(`override_history`). An override gives a mode if its value writes one, a truth
value if besides its mode, if set, writes one, and a program if besides its
truth value, if set, writes one.

`Overridden` says what one call comes to, in three cases. For each setting that
is a step from its former value (`Follows`), and the law of a whole history
follows from its steps (`latest_of_follows`).
-/

namespace Graft

namespace Settings

variable {α : Type} {settings : Settings} {value : Text} {result : Except Problem Unit × Settings}

/-- A look-up of variables by their names. -/
abbrev Lookup := Text → Option Text

variable {call : Lookup} {calls : List Lookup}

/-! ## What a call gives -/

namespace Lookup

/-- The variable of the mode writes one, if it is set. -/
def ModeSuits (call : Lookup) : Prop :=
  ∀ value, call modeVariable = some value → ∃ mode, parseMode value = .ok mode

/-- The variable of the way of writing writes a truth value, if it is set. -/
def SwitchSuits (call : Lookup) : Prop :=
  ∀ value, call atomicVariable = some value → ∃ switch, WritesSwitch value switch

/-- The call gives a mode: its variable is set and writes it. -/
def GivesMode (call : Lookup) (mode : Nat) : Prop :=
  ∃ value, call modeVariable = some value ∧ parseMode value = .ok mode

/-- The call gives a way of writing: its variable is set and writes it, and
nothing is wrong with the mode. -/
def GivesSwitch (call : Lookup) (switch : Bool) : Prop :=
  call.ModeSuits ∧ ∃ value, call atomicVariable = some value ∧ WritesSwitch value switch

/-- The call gives a program: its variable is set to it, and nothing is wrong
with the mode and the way of writing. -/
def GivesBin (call : Lookup) (bin : Text) : Prop :=
  call.ModeSuits ∧ call.SwitchSuits ∧ call binVariable = some bin

end Lookup

/-- What is taken for a setting whose variable has been looked up: what the
variable writes, or the former value where it is not set. -/
inductive Taken (writes : Text → α → Prop) : Option Text → α → α → Prop
  | unset (former : α) : Taken writes none former former
  | set {value : Text} {new : α} (former : α) (h : writes value new) :
      Taken writes (some value) former new

namespace Taken

variable {writes : Text → α → Prop} {held : Option Text} {former new : α}

theorem of_writes (h : Taken writes held former new) (hset : held = some value) :
    writes value new := by
  cases h with
  | unset => cases hset
  | set _ h =>
    cases hset
    exact h

/-- Of a reader that may fail one text is read, or none. -/
theorem cases_mapM (parse : Text → Except Problem α) (held : Option Text) (former : α) :
    (∃ value problem, held = some value ∧ parse value = .error problem ∧
        held.mapM parse = .error problem) ∨
      ∃ new, held.mapM parse = .ok new ∧
        Taken (fun value new => parse value = .ok new) held former (new.getD former) := by
  cases held with
  | none => exact .inr ⟨none, rfl, .unset former⟩
  | some value =>
    cases hparse : parse value with
    | error problem =>
      refine .inl ⟨value, problem, rfl, hparse, ?_⟩
      rw [Option.mapM_some, hparse]
      rfl
    | ok new =>
      refine .inr ⟨some new, ?_, .set former hparse⟩
      rw [Option.mapM_some, hparse]
      rfl

end Taken

/-! ## What one call comes to -/

/-- What overriding comes to: it stops at a mode or at a truth value that is
none, or takes all up and checks the result. -/
inductive Overridden (settings : Settings) (call : Lookup) : Except Problem Unit × Settings → Prop
  | badMode {value : Text} {problem : Problem} (set : call modeVariable = some value)
      (bad : parseMode value = .error problem) :
      Overridden settings call (.error problem, settings)
  | badSwitch {value : Text} {problem : Problem} {mode : Nat}
      (takenMode : Taken (fun value mode => parseMode value = .ok mode) (call modeVariable)
        settings.fileMode mode)
      (set : call atomicVariable = some value) (bad : parseSwitch value = .error problem) :
      Overridden settings call (.error problem, { settings with fileMode := mode })
  | checked {after : Settings}
      (takenMode : Taken (fun value mode => parseMode value = .ok mode) (call modeVariable)
        settings.fileMode after.fileMode)
      (takenSwitch : Taken WritesSwitch (call atomicVariable) settings.atomicWrites
        after.atomicWrites)
      (takenBin : Taken (fun value bin => value = bin) (call binVariable) settings.scaffoldBin
        after.scaffoldBin) :
      Overridden settings call (after.check, after)

/-- **Overriding comes to one of the three.** -/
theorem overridden (settings : Settings) (call : Lookup) :
    Overridden settings call (settings.override (.ofLookup call)) := by
  unfold override
  rcases Taken.cases_mapM parseMode (call modeVariable) settings.fileMode with
    ⟨value, problem, hset, hbad, hmode⟩ | ⟨mode, hmode, htaken⟩
  · simp only [Overrides.ofLookup, hmode]
    exact .badMode hset hbad
  rcases Taken.cases_mapM parseSwitch (call atomicVariable) settings.atomicWrites with
    ⟨value, problem, hset, hbad, hswitch⟩ | ⟨switch, hswitch, htaken'⟩
  · simp only [Overrides.ofLookup, hmode, hswitch]
    exact .badSwitch htaken hset hbad
  · simp only [Overrides.ofLookup, hmode, hswitch]
    simp only [parseSwitch_eq_ok_iff] at htaken'
    refine .checked htaken htaken' ?_
    cases call binVariable with
    | none => exact .unset _
    | some bin => exact .set _ rfl

namespace Overridden

/-- Where all is taken up, nothing is wrong with what is set. -/
theorem modeSuits_of_taken {mode : Nat}
    (h : Taken (fun value mode => parseMode value = .ok mode) (call modeVariable)
      settings.fileMode mode) : call.ModeSuits :=
  fun _ hset => ⟨mode, h.of_writes hset⟩

theorem switchSuits_of_taken {switch : Bool}
    (h : Taken WritesSwitch (call atomicVariable) settings.atomicWrites switch) :
    call.SwitchSuits :=
  fun _ hset => ⟨switch, h.of_writes hset⟩

theorem not_modeSuits {problem : Problem} (hset : call modeVariable = some value)
    (hbad : parseMode value = .error problem) : ¬ call.ModeSuits := by
  intro hsuits
  obtain ⟨mode, hmode⟩ := hsuits value hset
  rw [hbad] at hmode
  cases hmode

theorem not_switchSuits {problem : Problem} (hset : call atomicVariable = some value)
    (hbad : parseSwitch value = .error problem) : ¬ call.SwitchSuits := by
  intro hsuits
  obtain ⟨switch, hswitch⟩ := hsuits value hset
  rw [← parseSwitch_eq_ok_iff, hbad] at hswitch
  cases hswitch

end Overridden

/-! ## One setting over one call -/

/-- The value of a setting after a call: what the call gives, or what it was
before where the call gives none. -/
def Follows (gives : α → Prop) (before after : α) : Prop :=
  gives after ∨ after = before ∧ ∀ value, ¬ gives value

theorem Taken.follows {writes : Text → α → Prop} {held : Option Text} {former new : α}
    (h : Taken writes held former new) :
    Follows (fun new => ∃ value, held = some value ∧ writes value new) former new := by
  cases h with
  | unset => exact .inr ⟨rfl, fun _ ⟨_, hset, _⟩ => nomatch hset⟩
  | @set value _ _ h => exact .inl ⟨value, rfl, h⟩

/-- A further condition of giving anything, which holds, changes nothing. -/
theorem Follows.and_left {gives : α → Prop} {before after : α} {p : Prop} (hp : p)
    (h : Follows gives before after) : Follows (fun value => p ∧ gives value) before after := by
  rcases h with h | ⟨rfl, h⟩
  · exact .inl ⟨hp, h⟩
  · exact .inr ⟨rfl, fun value hgives => h value hgives.2⟩

namespace Overridden

theorem follows_fileMode (h : Overridden settings call result) :
    Follows call.GivesMode settings.fileMode result.2.fileMode := by
  cases h with
  | badMode set bad =>
    refine .inr ⟨rfl, ?_⟩
    rintro mode ⟨value, hset, hmode⟩
    exact not_modeSuits set bad fun value' hset' => by
      rw [hset] at hset'
      cases hset'
      exact ⟨mode, hmode⟩
  | badSwitch takenMode _ _ => exact takenMode.follows
  | checked takenMode _ _ => exact takenMode.follows

theorem follows_atomicWrites (h : Overridden settings call result) :
    Follows call.GivesSwitch settings.atomicWrites result.2.atomicWrites := by
  cases h with
  | badMode set bad =>
    exact .inr ⟨rfl, fun _ hgives => not_modeSuits set bad hgives.1⟩
  | badSwitch takenMode set bad =>
    refine .inr ⟨rfl, ?_⟩
    rintro switch ⟨-, value, hset, hswitch⟩
    exact not_switchSuits set bad fun value' hset' => by
      rw [hset] at hset'
      cases hset'
      exact ⟨switch, hswitch⟩
  | checked takenMode takenSwitch _ =>
    exact takenSwitch.follows.and_left (modeSuits_of_taken takenMode)

theorem follows_scaffoldBin (h : Overridden settings call result) :
    Follows call.GivesBin settings.scaffoldBin result.2.scaffoldBin := by
  cases h with
  | badMode set bad =>
    exact .inr ⟨rfl, fun _ hgives => not_modeSuits set bad hgives.1⟩
  | badSwitch takenMode set bad =>
    exact .inr ⟨rfl, fun _ hgives => not_switchSuits set bad hgives.2.1⟩
  | checked takenMode takenSwitch takenBin =>
    have hbin := (takenBin.follows.and_left (switchSuits_of_taken takenSwitch)).and_left
      (modeSuits_of_taken takenMode)
    simpa [Follows, Lookup.GivesBin] using hbin

end Overridden

/-! ## The answer -/

theorem check_eq_ok_iff :
    settings.check = .ok () ↔
      settings.fileMode ≤ maxMode ∧ Text.trim settings.scaffoldBin ≠ [] := by
  rw [Ne, Text.trim_eq_nil_iff]
  unfold check
  by_cases hmode : maxMode < settings.fileMode
  · simp [hmode, Nat.not_le.2 hmode]
  · by_cases hbin : Text.isAllBlank settings.scaffoldBin = true
    · simp [hmode, hbin]
    · simp [hmode, hbin, Nat.not_lt.1 hmode]

/-- **Overriding goes well where nothing is wrong with what is set** and the
settings can be used afterwards. -/
theorem Overridden.answer_eq_ok_iff (h : Overridden settings call result) :
    result.1 = .ok () ↔ call.ModeSuits ∧ call.SwitchSuits ∧ result.2.fileMode ≤ maxMode ∧
      Text.trim result.2.scaffoldBin ≠ [] := by
  cases h with
  | badMode set bad => simp [not_modeSuits set bad]
  | badSwitch takenMode set bad => simp [not_switchSuits set bad]
  | checked takenMode takenSwitch takenBin =>
    rw [check_eq_ok_iff]
    simp only [modeSuits_of_taken takenMode, switchSuits_of_taken takenSwitch, true_and]

/-- **Overriding twice is overriding once**: the same answer and the same
settings. -/
theorem override_override (settings : Settings) (overrides : Overrides) :
    (settings.override overrides).2.override overrides = settings.override overrides := by
  unfold override
  cases overrides.mode.mapM parseMode with
  | error problem => rfl
  | ok mode =>
    cases overrides.atomic.mapM parseSwitch with
    | error problem => cases mode <;> rfl
    | ok switch => cases mode <;> cases switch <;> cases overrides.bin <;> rfl

/-! ## Histories -/

/-- The value that the latest call gives of those that give one, or the initial
one where no call does. -/
def Latest (gives : Lookup → α → Prop) (initial : α) (calls : List Lookup) (value : α) : Prop :=
  (∃ earlier call later, calls = earlier ++ call :: later ∧ gives call value ∧
      ∀ call ∈ later, ∀ value, ¬ gives call value) ∨
    value = initial ∧ ∀ call ∈ calls, ∀ value, ¬ gives call value

/-- One more call makes its own value the latest, or leaves the latest as it
was. -/
theorem Latest.append {gives : Lookup → α → Prop} {initial before after : α}
    (h : Latest gives initial calls before) (hstep : Follows (gives call) before after) :
    Latest gives initial (calls ++ [call]) after := by
  rcases hstep with hgives | ⟨rfl, hnone⟩
  · exact .inl ⟨calls, call, [], rfl, hgives, by simp⟩
  rcases h with ⟨earlier, former, later, rfl, hgives, hlater⟩ | ⟨rfl, hcalls⟩
  · refine .inl ⟨earlier, former, later ++ [call], by simp, hgives, ?_⟩
    exact List.forall_mem_append.2 ⟨hlater, List.forall_mem_singleton.2 hnone⟩
  · exact .inr ⟨rfl, List.forall_mem_append.2 ⟨hcalls, List.forall_mem_singleton.2 hnone⟩⟩

/-- The settings after calls one after another, whether they went well or not. -/
def overrideAll (settings : Settings) (calls : List Lookup) : Settings :=
  calls.foldl (fun settings call => (settings.override (.ofLookup call)).2) settings

theorem overrideAll_append (settings : Settings) (calls : List Lookup) (call : Lookup) :
    settings.overrideAll (calls ++ [call]) =
      ((settings.overrideAll calls).override (.ofLookup call)).2 := by
  rw [overrideAll, List.foldl_append]
  rfl

/-- What follows its former value at every call is in the end the latest that
was given. -/
theorem latest_of_follows {field : Settings → α} {gives : Lookup → α → Prop}
    (hstep : ∀ settings call, Follows (gives call) (field settings)
      (field (settings.override (.ofLookup call)).2)) (settings : Settings) (calls : List Lookup) :
    Latest gives (field settings) calls (field (settings.overrideAll calls)) := by
  induction calls using List.reverseRecOn with
  | nil => exact .inr ⟨rfl, by simp⟩
  | append_singleton calls call ih =>
    rw [overrideAll_append]
    exact ih.append (hstep _ call)

/-- **Every setting is the latest that was given.** After any call, whatever
calls came before it and whichever of them failed, each setting is what the
latest of them all has given, or its initial value where none gave any. The
call goes well exactly if nothing is wrong with what it sets and the settings
after it can be used; and made again at once it answers the same and changes
nothing. -/
theorem override_history (initial : Settings) (earlier : List Lookup) (call : Lookup) :
    let result := (initial.overrideAll earlier).override (.ofLookup call)
    Latest Lookup.GivesMode initial.fileMode (earlier ++ [call]) result.2.fileMode ∧
      Latest Lookup.GivesSwitch initial.atomicWrites (earlier ++ [call]) result.2.atomicWrites ∧
      Latest Lookup.GivesBin initial.scaffoldBin (earlier ++ [call]) result.2.scaffoldBin ∧
      (result.1 = .ok () ↔ call.ModeSuits ∧ call.SwitchSuits ∧ result.2.fileMode ≤ maxMode ∧
        Text.trim result.2.scaffoldBin ≠ []) ∧
      result.2.override (.ofLookup call) = result := by
  intro result
  have hresult : result.2 = initial.overrideAll (earlier ++ [call]) :=
    (overrideAll_append initial earlier call).symm
  refine ⟨?_, ?_, ?_, (overridden _ call).answer_eq_ok_iff, override_override _ _⟩
  · rw [hresult]
    exact latest_of_follows (fun _ _ => (overridden _ _).follows_fileMode) initial _
  · rw [hresult]
    exact latest_of_follows (fun _ _ => (overridden _ _).follows_atomicWrites) initial _
  · rw [hresult]
    exact latest_of_follows (fun _ _ => (overridden _ _).follows_scaffoldBin) initial _

end Settings

end Graft
