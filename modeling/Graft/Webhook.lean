import Graft.Splice

/-!
# The sample webhook

A freshly scaffolded webhook has a note at each place that its author has
to fill in. These replacements fill in a sample: a default for the count,
a check of it on creation and on update, and the import that the check
needs.
-/

namespace Graft

namespace Webhook

/-- Where the imports begin. -/
def importMarker : Text := "import (".toList

/-- The note in the defaulting function. -/
def defaultingNote : Text := "// TODO(user): fill in your defaulting logic.".toList

/-- The note in the function that checks a new object. -/
def creationNote : Text :=
  "// TODO(user): fill in your validation logic upon object creation.".toList

/-- The note in the function that checks a changed object. -/
def updateNote : Text :=
  "// TODO(user): fill in your validation logic upon object update.".toList

/-- The beginning of the imports with one import more. -/
def importWithErrors : Text := "import (\n\t\"errors\"".toList

/-- Code that sets the count where it is missing. -/
def defaultingCode : Text :=
  "if r.Spec.Count == 0 \x7b\n\t\tr.Spec.Count = 5\n\t\x7d".toList

/-- Code that refuses a negative count. -/
def validationCode : Text :=
  "if r.Spec.Count < 0 \x7b\n\t\treturn errors.New(\".spec.count must >= 0\")\n\t\x7d".toList

/-- The replacements that fill in the sample. -/
def replacements : List Replacement :=
  [⟨importMarker, importWithErrors⟩, ⟨defaultingNote, defaultingCode⟩,
    ⟨creationNote, validationCode⟩, ⟨updateNote, validationCode⟩]

end Webhook

end Graft
