import Graft.Error
import Graft.Text.Lines

/-!
# Splicing text at a marker

`insertAfter` puts a text behind the first occurrence of a marker,
`uncomment` takes the comment sign from the lines of its first occurrence,
and `replaceEvery` exchanges all its occurrences. The first and the last
demand that the marker is there; to uncomment what is not there is no
error, so that it can be asked for twice.

`applyReplacements` runs a list of replacements, each on what the one
before left, and stops at the first whose target is missing.
-/

namespace Graft

/-- The text with `payload` behind the first occurrence of `marker`. -/
def insertAfter (content marker payload : Text) : Except Error Text :=
  match Text.cut? marker content with
  | some (before, after) => .ok (before ++ marker ++ payload ++ after)
  | none => .error (.markerNotFound marker none)

/-- A line without one `sign` at its beginning, if one stands there. -/
def stripSign (sign line : Text) : Text :=
  if sign.isPrefixOf line then line.drop sign.length else line

/-- The lines of a block without their comment signs, a line feed after
each. -/
def bare (sign block : Text) : Text :=
  (Text.lines block).flatMap fun line => stripSign sign line ++ ['\n']

/-- The text with the first occurrence of `marker` bared of its comment
signs, or `none` where there is no occurrence. -/
def uncomment (content marker sign : Text) : Option Text :=
  (Text.cut? marker content).map fun (before, after) => before ++ bare sign marker ++ after

/-- The text with every occurrence of `target` exchanged. -/
def replaceEvery (content target replacement : Text) : Except Error Text :=
  if Text.holds content target then .ok (Text.replaceAll target replacement content)
  else .error (.markerNotFound target none)

/-- A target and what takes its place. -/
structure Replacement where
  target : Text
  replacement : Text
deriving DecidableEq, Repr

/-- The text after a list of replacements, each on what the one before
left. The first missing target is the error. -/
def applyReplacements (content : Text) (replacements : List Replacement) : Except Error Text :=
  replacements.foldlM (fun content r => replaceEvery content r.target r.replacement) content

example : (insertAfter "import (\n)".toList "import (".toList "\n\t\"errors\"".toList).toOption =
    some "import (\n\t\"errors\"\n)".toList := by decide +kernel

example : uncomment "a\n#b\n##c\nd".toList "#b\n##c\n".toList "#".toList =
    some "a\nb\n#c\n\nd".toList := by decide +kernel

example : (replaceEvery "aXbX".toList "X".toList "XY".toList).toOption = some "aXYbXY".toList := by
  decide +kernel

example : (replaceEvery "ab".toList [] "-".toList).toOption = some "-a-b-".toList := by
  decide +kernel

end Graft
