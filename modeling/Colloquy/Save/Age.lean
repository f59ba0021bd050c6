import Colloquy.Number.Decimal

/-!
# Ages

How long ago something happened, in the largest unit that fits.
-/

namespace Colloquy.Save

def spanText (seconds : Nat) : String :=
  let minute := 60
  let hour := 60 * minute
  let day := 24 * hour
  let week := 7 * day
  let ago (count : Nat) (unit : String) := Number.showNat count ++ unit ++ " ago"
  if seconds < 30 then "just now"
  else if seconds < minute then ago seconds "s"
  else if seconds < hour then ago (seconds / minute) "m"
  else if seconds < day then ago (seconds / hour) "h"
  else if seconds < week then ago (seconds / day) "d"
  else ago (seconds / week) "w"

/-- The age of a time, both in milliseconds. -/
def ageText (now time : Int) : String :=
  if now < time then "in the future" else spanText ((now - time).toNat / 1000)

end Colloquy.Save
