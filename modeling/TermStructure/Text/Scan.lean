/-!
# Scans

Readers of documents, settings and patterns are put together from scans, which take one thing each
from the front of a text.
-/

namespace TermStructure

/-- Takes something from the front of a text; gives it and the text after it. -/
abbrev Scan (α : Type) := List Char → Option (α × List Char)

end TermStructure
