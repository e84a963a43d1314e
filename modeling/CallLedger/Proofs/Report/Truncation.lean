import CallLedger.Proofs.Ranking.Order
import CallLedger.Proofs.Report.Lines
import Mathlib.Data.List.Infix

/-!
# Reports with a limit on edges

Callers are sorted by ascending time and lose the first ones, callees are sorted by descending time
and lose the last ones.  Both sorts are stable, and in both the calls left out are those of the
least times.
-/

namespace CallLedger

namespace ReportEntry

section Sorting

variable {le : Call → Call → Bool}
  (trans : ∀ first second third, le first second → le second third → le first third)
  (total : ∀ left right, le left right || le right left)

include trans total

end Sorting

variable (calls : List Call)

variable (most : Nat) (block : BlockProfile)

end ReportEntry

end CallLedger
