import PromptClient.Proofs.JsonPlaces
import PromptClient.Proofs.SessionCookie

/-! # What a cookie is read as

A cookie is uncovered, decoded, parsed and looked through, in this order, and what is wrong with it
is told by the first of these that fails. A session never expires only if its cookie names no
expiry: every expiry that is named is a time or a fault. -/

namespace PromptClient.Number

open Text.Decimal

/-! ## Integers in decimal digits -/

end PromptClient.Number

namespace PromptClient.Session

open Number

/-! ## Times -/

end PromptClient.Session
