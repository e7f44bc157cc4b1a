import PromptClient.Time.Duration

/-! # Clockwork

A clock for rehearsals that counts milliseconds and only moves when told to, and the
ticks of a ticker on it.
-/

namespace PromptClient.Clockwork

/-- Where the clock stops. -/
def lastTime : Nat := 18446744073709551613

/-- The wait that stands for any whose end the clock cannot name: thirty years. -/
def farAway : Nat := 946080000000

def wakeTime (now : Nat) (length : Duration) : Nat :=
  let wait :=
    if now / 1000 + length.seconds < 9223372036854775808 then length.ceilMilliseconds
    else farAway
  min (now + wait) lastTime

/-- Something that happens again and again. -/
structure Ticker where
  /-- Nanoseconds from one tick to the next; never zero. -/
  period : Nat
  due : Nat
deriving DecidableEq, Repr

namespace Ticker

/-- A ticker that begins after one period. There is none without a pause between its
ticks, nor with one that the clock cannot measure. -/
def start? (now : Nat) (period : Duration) : Option Ticker :=
  if period.nanoseconds = 0 then none
  else if now / 1000 + period.seconds < 9223372036854775808 then
    some ⟨period.nanoseconds, now * 1000000 + period.nanoseconds⟩
  else none

def nextTime (ticker : Ticker) : Nat :=
  (ticker.due + 999999) / 1000000

/-- The ticker after every tick up to a time. -/
def after (ticker : Ticker) (time : Nat) : Ticker :=
  if time < ticker.nextTime then ticker
  else
    let missed := (time * 1000000 - ticker.due) / ticker.period
    { ticker with due := ticker.due + (missed + 1) * ticker.period }

end Ticker

end PromptClient.Clockwork
