import CallLedger.Binary64.Printing
import CallLedger.Profile

/-!
# Shares and ranking

A share of a total is given in percent, as a 64-bit floating-point number: both counts are
converted, the part is multiplied by one hundred, and the product is divided, each step
with its own rounding.

Reports and listings show blocks by descending time, and by identifier among blocks of
equal time.  A listing takes the leading blocks of this order that ran and reach a share
of the total.
-/

namespace CallLedger

/-- The share of a total in percent, or zero when nothing was measured. -/
def percent (part total : Count) : Binary64 :=
  if total.value = 0 then
    .zero
  else
    .ofMagnitude false <|
      Binary64.quotient
        (Binary64.product (Binary64.magnitude 100) (Binary64.magnitude part.value))
        (Binary64.magnitude total.value)

def percentText (part total : Count) : String :=
  (percent part total).fixed 2

/-- A number rounded to two decimal places by scaling it up, rounding it to a whole
number and scaling it down again. -/
def roundToHundredths : Binary64 → Binary64
  | .finite negative quanta =>
      match (Binary64.ofMagnitude negative
        (Binary64.product quanta (Binary64.magnitude 100))).roundToWhole with
      | .finite negative whole =>
          .ofMagnitude negative (Binary64.quotient whole (Binary64.magnitude 100))
      | other => other
  | other => other

def BlockProfile.rankedBefore (left right : BlockProfile) : Bool :=
  if left.time = right.time then
    decide (left.id.index ≤ right.id.index)
  else
    decide (right.time < left.time)

namespace Profile

/-- All blocks in ranking order. -/
def byTime (profile : Profile) : List BlockProfile :=
  profile.blocks.mergeSort BlockProfile.rankedBefore

/-- Whether a block may be listed: it is not the root, it ran, and its share of the
total reaches the threshold. -/
def isListed (profile : Profile) (threshold : Binary64) (block : BlockProfile) : Bool :=
  !block.id.isRoot && decide (0 < block.count) &&
    threshold.le (percent block.time profile.totalTime)

/-- The leading blocks that may be listed, at most `limit` of them. -/
def top (profile : Profile) (limit : Nat) (threshold : Binary64) : List BlockProfile :=
  (profile.byTime.filter (profile.isListed threshold)).take limit

end Profile

end CallLedger
