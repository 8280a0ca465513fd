import Graft.Settings.Basic

/-!
# Overrides

Variables of the environment may override each setting. They are taken up
one after another, and what was taken up before a faulty one stays: a
faulty mode leaves all as it was, a faulty truth value leaves the mode
changed. The result is checked at the end, and stays also when the check
refuses it. So `override` gives the settings together with its answer.
-/

namespace Graft

namespace Settings

/-- One more than the greatest number with 32 bits. -/
def wordBound : Nat := 0x100000000

/-- The number that octal digits write, going on from `value`. The first
character that is no digit or makes the number too large decides. -/
def octalFrom (value : Nat) : Text → Except DigitFault Nat
  | [] => .ok value
  | c :: rest =>
    if '0' ≤ c ∧ c ≤ '7' then
      let next := 8 * value + (c.toNat - 0x30)
      if wordBound ≤ next then .error .tooLarge else octalFrom next rest
    else .error .notADigit

/-- The number that a text writes in octal, after one plus sign if there is
one. -/
def octal (digits : Text) : Except DigitFault Nat :=
  match digits with
  | [] => .error .empty
  | ['+'] => .error .notADigit
  | '+' :: rest => octalFrom 0 rest
  | _ => octalFrom 0 digits

/-- Reads a mode: octal digits after `0o` or without it, between blanks. -/
def parseMode (value : Text) : Except Problem Nat :=
  let digits := match Text.trim value with
    | '0' :: 'o' :: rest => rest
    | trimmed => trimmed
  (octal digits).mapError (.badMode value)

/-- The words for yes. -/
def yesWords : List Text := ["1", "true", "yes", "on"].map String.toList

/-- The words for no. A blank value is one. -/
def noWords : List Text := ["0", "false", "no", "off", ""].map String.toList

/-- Reads a truth value, between blanks and in any mix of capitals. -/
def parseSwitch (value : Text) : Except Problem Bool :=
  let word := Text.toLowerAscii (Text.trim value)
  if word ∈ yesWords then .ok true
  else if word ∈ noWords then .ok false
  else .error (.badSwitch word)

/-- The values of the three variables that override settings, as far as
they are set. -/
structure Overrides where
  mode : Option Text := none
  atomic : Option Text := none
  bin : Option Text := none
deriving DecidableEq, Repr

/-- The overrides that a look-up by name finds. -/
def Overrides.ofLookup (value? : Text → Option Text) : Overrides :=
  { mode := value? modeVariable, atomic := value? atomicVariable, bin := value? binVariable }

/-- Takes up the overrides, and gives the settings as they are then with the
answer. -/
def override (settings : Settings) (overrides : Overrides) : Except Problem Unit × Settings :=
  match overrides.mode.mapM parseMode with
  | .error problem => (.error problem, settings)
  | .ok mode =>
    let settings := { settings with fileMode := mode.getD settings.fileMode }
    match overrides.atomic.mapM parseSwitch with
    | .error problem => (.error problem, settings)
    | .ok atomic =>
      let settings := { settings with
        atomicWrites := atomic.getD settings.atomicWrites
        scaffoldBin := overrides.bin.getD settings.scaffoldBin }
      (settings.check, settings)

end Settings

end Graft
