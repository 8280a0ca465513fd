import Graft.Text.Extending
import Graft.Text.Unshown

/-!
# Quoted text

The form in which messages show a text: between double quotes, with a
backslash before a quote or a backslash, the short forms for NUL, tab,
carriage return and line feed, and the hexadecimal number of every other
character that shows nothing or attaches to the one before it.
-/

namespace Graft

namespace Text

/-- A character's number in braces, as `\u` forms show it. -/
def hexForm (c : Char) : Text :=
  ['\\', 'u', '\x7b'] ++ Nat.toDigits 16 c.toNat ++ ['\x7d']

/-- One character as it stands between the quotes. -/
def quoteChar (c : Char) : Text :=
  if c = '\x00' then ['\\', '0']
  else if c = '\t' then ['\\', 't']
  else if c = '\r' then ['\\', 'r']
  else if c = '\n' then ['\\', 'n']
  else if c = '\\' then ['\\', '\\']
  else if c = '"' then ['\\', '"']
  else if isExtending c || isUnshown c then hexForm c
  else [c]

/-- The text between double quotes, each character in its quoted form. -/
def quote (content : Text) : Text :=
  '"' :: content.flatMap quoteChar ++ ['"']

/-! ## The digits of a number -/

/-- A digit of a number is one of its base. -/
theorem exists_digitChar_of_mem_toDigits {base n : Nat} {c : Char} (hbase : 1 < base)
    (h : c ∈ Nat.toDigits base n) : ∃ d < base, c = Nat.digitChar d := by
  induction n using Nat.strongRecOn with
  | ind n ih =>
    rw [Nat.toDigits_eq_if hbase] at h
    split at h
    · rename_i hn
      exact ⟨n, hn, List.mem_singleton.1 h⟩
    · rename_i hn
      rcases List.mem_append.1 h with h | h
      · exact ih (n / base) (Nat.div_lt_self (by omega) hbase) h
      · exact ⟨n % base, Nat.mod_lt n (by omega), List.mem_singleton.1 h⟩

theorem digitChar_injOn_hex :
    ∀ d < 16, ∀ e < 16, Nat.digitChar d = Nat.digitChar e → d = e := by decide

/-- The last digit, and those before it if there are any. -/
theorem toDigits_eq_append {base : Nat} (hbase : 1 < base) (n : Nat) :
    Nat.toDigits base n =
      (if n < base then [] else Nat.toDigits base (n / base)) ++ [Nat.digitChar (n % base)] := by
  rw [Nat.toDigits_eq_if hbase]
  split
  · rename_i hn
    rw [Nat.mod_eq_of_lt hn]
    rfl
  · rfl

/-- Different numbers have different hexadecimal digits. -/
theorem toDigits_hex_injective {m n : Nat} (h : Nat.toDigits 16 m = Nat.toDigits 16 n) :
    m = n := by
  induction m using Nat.strongRecOn generalizing n with
  | ind m ih =>
    rw [toDigits_eq_append (by decide) m, toDigits_eq_append (by decide) n] at h
    obtain ⟨hfront, hlast⟩ := List.append_inj' h rfl
    have hmod : m % 16 = n % 16 := digitChar_injOn_hex _ (Nat.mod_lt m (by decide)) _
      (Nat.mod_lt n (by decide)) (List.cons.inj hlast).1
    by_cases hm : m < 16 <;> by_cases hn : n < 16 <;>
      simp only [hm, hn, if_true, if_false] at hfront
    · omega
    · exact absurd hfront.symm Nat.toDigits_ne_nil
    · exact absurd hfront Nat.toDigits_ne_nil
    · have hdiv := ih (m / 16) (by omega) hfront
      omega

example : quote ['a', '"', '\n', 'é', '\u0301', '\x7f'] =
    "\"a\\\"\\né\\u\x7b301\x7d\\u\x7b7f\x7d\"".toList := by decide +kernel

end Text

end Graft
