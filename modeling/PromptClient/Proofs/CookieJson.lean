import PromptClient.Proofs.CookieFile
import PromptClient.Proofs.JsonSkipping

/-! # The JSON of a cookie

The reader of cookies goes through a text by itself, in one pass with the values that it skips.
On a text that parses it finds what the parsed value says, and what it finds a cookie in is JSON
in any case. -/

namespace PromptClient.Cookie

open Json Text.Decimal

/-! ## What a value says of a cookie -/

def textOf? : Json → Option String
  | .text value => some value
  | _ => none

/-- An expiry, which may be none. -/
def expiryOf? : Json → Option (Option Int)
  | .null => some none
  | .number (.whole time) => if Number.fitsInt64 time then some (some time) else none
  | _ => none

variable {fuel depth : Nat} {input after : List Char} {value : Json}

/-- What one member adds to what has been found. -/
def Found.add (done : Found) (name : String) (value : Json) : Option Found :=
  if name = "value" then
    if done.value.isSome then none
    else (textOf? value).map fun text => { done with value := some text }
  else if name = "expires" then
    if done.expires.isSome then none
    else (expiryOf? value).map fun time => { done with expires := some time }
  else some done

def Found.addAll (done : Found) : List (String × Json) → Option Found
  | [] => some done
  | (name, value) :: rest => (done.add name value).bind fun next => next.addAll rest

/-- The cookie that a value is. -/
def ofJson? : Json → Option Cookie
  | .array [value, expires] =>
      (textOf? value).bind fun text => (expiryOf? expires).map fun time => ⟨text, time⟩
  | .object members =>
      (Found.addAll ⟨none, none⟩ members).bind fun found =>
        found.value.map fun text => ⟨text, found.expires.getD none⟩
  | _ => none

/-- A text is JSON in shape: one value, with blanks around it at the most. How large its numbers
are is left open, and whether its surrogates are in pairs. -/
def IsJson (text : String) : Prop :=
  ∃ rest, afterValue? text.toList = some rest ∧ skipSpace rest = []

theorem isJson_of_parse? {text : String} (parsed : parse? text = some value) : IsJson text := by
  rcases Option.bind_eq_some_iff.mp parsed with ⟨⟨found, after⟩, read, rest⟩
  dsimp only at rest
  split at rest
  · rename_i blank
    exact ⟨after, (afterValue?_iff _ _).mpr ((readers_pass _).value read),
      List.isEmpty_iff.mp blank⟩
  · cases rest

end PromptClient.Cookie
