import Graft.Toml.Character

/-!
# Quoted text in TOML

Text stands between double quotes, where a backslash begins an escape, or
between single quotes, where every character means itself. Three quotes
open a long form that may run over lines; a line end right after them does
not count, and one or two quotes before the closing three belong to the
text. A line end inside the long forms is a line feed, however it is
written.
-/

namespace Graft

namespace Toml

/-- The double quote. -/
def doubleQuote : Char := '\x22'

/-- The single quote. -/
def singleQuote : Char := '\x27'

/-- The value of a hexadecimal digit. -/
def hexValue? (c : Char) : Option Nat :=
  if '0' ≤ c ∧ c ≤ '9' then some (c.toNat - 0x30)
  else if 'a' ≤ c ∧ c ≤ 'f' then some (c.toNat - 0x57)
  else if 'A' ≤ c ∧ c ≤ 'F' then some (c.toNat - 0x37)
  else none

/-- The number that hexadecimal digits write. -/
def hexNumber? (digits : Text) : Option Nat :=
  digits.foldlM (fun value c => (hexValue? c).map fun d => 16 * value + d) 0

/-- The character whose number the digits write. The numbers of surrogates
and those past the last code point write none. -/
def numbered? (digits : Text) : Option Char := do
  let n ← hexNumber? digits
  if n.isValidChar then some (Char.ofNat n) else none

/-- The character that a backslash and this letter stand for. -/
def escaped? (letter : Char) : Option Char :=
  match letter with
  | 'b' => some '\x08'
  | 't' => some '\t'
  | 'n' => some '\n'
  | 'f' => some '\x0c'
  | 'r' => some '\r'
  | '\x22' => some '\x22'
  | '\\' => some '\\'
  | _ => none

/-- Puts a character in front of what was read. -/
def push (c : Option Char) (more : Option (Text × Text)) : Option (Text × Text) := do
  let c ← c
  let (content, rest) ← more
  some (c :: content, rest)

/-- Reads on after an opening double quote. -/
def basicBody : Reader Text
  | [] => none
  | '\x22' :: rest => some ([], rest)
  | '\\' :: 'u' :: a :: b :: c :: d :: rest => push (numbered? [a, b, c, d]) (basicBody rest)
  | '\\' :: 'U' :: a :: b :: c :: d :: e :: f :: g :: h :: rest =>
    push (numbered? [a, b, c, d, e, f, g, h]) (basicBody rest)
  | '\\' :: letter :: rest => push (escaped? letter) (basicBody rest)
  | c :: rest => if isPlain c && c != '\\' then push (some c) (basicBody rest) else none

/-- Reads on after an opening single quote. -/
def literalBody : Reader Text
  | [] => none
  | c :: rest =>
    if c == singleQuote then some ([], rest)
    else if isPlain c then push (some c) (literalBody rest)
    else none

/-- What three closing quotes leave: up to two more quotes are text. -/
def closeLong (quote : Char) : Text → Text × Text
  | a :: b :: rest =>
    if a == quote && b == quote then ([a, b], rest)
    else if a == quote then ([a], b :: rest)
    else ([], a :: b :: rest)
  | [a] => if a == quote then ([a], []) else ([], [a])
  | [] => ([], [])

/-- Reads on after three opening double quotes. A backslash before a line
end takes that line end and all spaces and line ends after it out of the
text; `joining` says that it has done so up to here. -/
def longBasicBody (joining : Bool) : Reader Text
  | [] => none
  | c :: rest =>
    if joining && (isSpace c || c == '\n') then longBasicBody true rest
    else match c, rest with
      | '\x22', '\x22' :: '\x22' :: rest => some (closeLong doubleQuote rest)
      | '\\', 'u' :: a :: b :: c :: d :: rest =>
        push (numbered? [a, b, c, d]) (longBasicBody false rest)
      | '\\', 'U' :: a :: b :: c :: d :: e :: f :: g :: h :: rest =>
        push (numbered? [a, b, c, d, e, f, g, h]) (longBasicBody false rest)
      | '\\', letter :: rest =>
        if startsWithLineEnd (skipSpaces (letter :: rest)) then longBasicBody true (letter :: rest)
        else push (escaped? letter) (longBasicBody false rest)
      | '\n', rest => push (some '\n') (longBasicBody false rest)
      | '\r', '\n' :: rest =>
        if joining then longBasicBody true rest
        else push (some '\n') (longBasicBody false rest)
      | c, rest =>
        if isPlain c && c != '\\' then push (some c) (longBasicBody false rest) else none

/-- Reads on after three opening single quotes. -/
def longLiteralBody : Reader Text
  | [] => none
  | '\r' :: '\n' :: rest => push (some '\n') (longLiteralBody rest)
  | '\x27' :: '\x27' :: '\x27' :: rest => some (closeLong singleQuote rest)
  | c :: rest => if c == '\n' || isPlain c then push (some c) (longLiteralBody rest) else none

/-- Reads text between quotes on one line, as keys may be written. -/
def shortString? : Reader Text
  | '\x22' :: rest => basicBody rest
  | '\x27' :: rest => literalBody rest
  | _ => none

/-- Reads text between quotes of any form. -/
def string? : Reader Text
  | '\x22' :: '\x22' :: '\x22' :: rest => longBasicBody false (skipLineEnd rest)
  | '\x27' :: '\x27' :: '\x27' :: rest => longLiteralBody (skipLineEnd rest)
  | rest => shortString? rest

example : string? "\"a\\u0041\\t\" x".toList = some ("aA\t".toList, " x".toList) := by
  decide +kernel

example : string? "\"\"\"\r\na\\  \r\n  b\r\n\"\"\"\"\"".toList =
    some ("ab\n\"\"".toList, []) := by decide +kernel

example : string? "\"\\ud800\"".toList = none := by decide +kernel

end Toml

end Graft
