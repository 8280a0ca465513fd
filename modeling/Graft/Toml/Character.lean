import Graft.Toml.Node

/-!
# Characters and line ends of TOML

Which characters may stand where, and the readers that pass over what has
no meaning: spaces, comments and line ends. A carriage return ends a line
only together with the line feed after it.
-/

namespace Graft

namespace Toml

/-- Parts words on a line. -/
def isSpace (c : Char) : Bool :=
  c == ' ' || c == '\t'

/-- May stand in a comment, and between quotes unless it ends them. Control
characters may not, the tab excepted. -/
def isPlain (c : Char) : Bool :=
  c == '\t' || (0x20 ≤ c.toNat && c.toNat != 0x7f)

/-- May stand in a key without quotes. -/
def isBareKeyChar (c : Char) : Bool :=
  c.isAlphanum || c == '-' || c == '_'

/-- The text from its first character that is no space. -/
def skipSpaces (content : Text) : Text :=
  content.dropWhile isSpace

/-- What follows a line end or the end of the document. -/
def lineEnd? : Text → Option Text
  | [] => some []
  | '\n' :: rest => some rest
  | '\r' :: '\n' :: rest => some rest
  | _ => none

/-- What follows a line with nothing on it but spaces and a comment. -/
def finishLine? (content : Text) : Option Text :=
  match skipSpaces content with
  | '#' :: rest => lineEnd? (rest.dropWhile isPlain)
  | rest => lineEnd? rest

/-- What follows spaces, line ends and comments. `inComment` says that a
comment is under way. -/
def skipGaps (inComment : Bool) : Text → Text
  | [] => []
  | c :: rest =>
    if inComment && isPlain c then skipGaps true rest
    else if isSpace c || c == '\n' then skipGaps false rest
    else if c == '#' then skipGaps true rest
    else match rest with
      | '\n' :: rest' => if c == '\r' then skipGaps false rest' else c :: rest
      | _ => c :: rest

/-- What follows a line end, or the whole text if it does not begin with
one. -/
def skipLineEnd : Text → Text
  | '\n' :: rest => rest
  | '\r' :: '\n' :: rest => rest
  | rest => rest

/-- Begins with a line end. -/
def startsWithLineEnd : Text → Bool
  | '\n' :: _ => true
  | '\r' :: '\n' :: _ => true
  | _ => false

end Toml

end Graft
