import PromptClient.Session

/-! # The session cookie

The cookie as the backend set it: a text with its own expiry, which says nothing
about the session inside.
-/

namespace PromptClient

/-- A cookie's text and the time, in epoch seconds, from which on it is void. -/
structure Cookie where
  value : String
  expires : Option Int
deriving DecidableEq, Repr

namespace Cookie

def lasting (value : String) : Cookie :=
  ⟨value, none⟩

/-- The cookie that stands for none: no text, and expired since the epoch. -/
def cleared : Cookie :=
  ⟨"", some 0⟩

def isLiveAt (cookie : Cookie) (now : Int) : Bool :=
  cookie.value ≠ "" && Session.outlives cookie.expires now

end Cookie

end PromptClient
