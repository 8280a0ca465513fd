import Graft.Text.Search

/-!
# The release

Which release of the library this is.
-/

namespace Graft

/-- The number of the release. -/
def version : Text := "0.1.0".toList

end Graft
