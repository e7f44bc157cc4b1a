import PromptClient.Text.Decimal

/-! # Durations

Spans of time with nanosecond precision and an upper limit. A sum beyond the limit
does not exist, which is why adding can fail.
-/

namespace PromptClient

structure Duration where
  nanoseconds : Nat
deriving DecidableEq, Repr, Inhabited

namespace Duration

def perSecond : Nat := 1000000000

/-- No span reaches this many nanoseconds: the seconds fit 64 bits. -/
def limit : Nat := 18446744073709551616 * perSecond

def zero : Duration := ⟨0⟩

def ofSeconds (seconds : Nat) : Duration :=
  ⟨seconds * perSecond⟩

def ofParts (seconds nanoseconds : Nat) : Duration :=
  ⟨seconds * perSecond + nanoseconds⟩

def seconds (span : Duration) : Nat :=
  span.nanoseconds / perSecond

def subsecond (span : Duration) : Nat :=
  span.nanoseconds % perSecond

/-- The sum, unless it reaches the limit. -/
def add? (first second : Duration) : Option Duration :=
  let sum := first.nanoseconds + second.nanoseconds
  if sum < limit then some ⟨sum⟩ else none

def exceeds (first second : Duration) : Bool :=
  decide (first.nanoseconds > second.nanoseconds)

/-- The span in milliseconds, a started millisecond counting in full. -/
def ceilMilliseconds (span : Duration) : Nat :=
  (span.nanoseconds + 999999) / 1000000

/-- `whole` and a fraction of `fraction / 10 ^ places`, without closing zeros. -/
private def decimalText (whole fraction places : Nat) (unit : String) : String :=
  let digits := (Text.Decimal.padded places fraction).reverse.dropWhile (· == '0')
  Text.Decimal.ofNat whole ++
    (if digits.isEmpty then "" else "." ++ String.ofList digits.reverse) ++ unit

/-- A span in the largest unit of which it has at least one. -/
def text (span : Duration) : String :=
  let nanoseconds := span.nanoseconds
  if nanoseconds ≥ perSecond then decimalText span.seconds span.subsecond 9 "s"
  else if nanoseconds ≥ 1000000 then
    decimalText (nanoseconds / 1000000) (nanoseconds % 1000000) 6 "ms"
  else if nanoseconds ≥ 1000 then
    decimalText (nanoseconds / 1000) (nanoseconds % 1000) 3 "µs"
  else Text.Decimal.ofNat nanoseconds ++ "ns"

example : (ofParts 1 500000000).text = "1.5s" := by cbv
example : (ofParts 0 2999999).text = "2.999999ms" := by cbv

end Duration

end PromptClient
