import PromptClient.Proofs.Judgement
import PromptClient.Proofs.Stores
import PromptClient.Terminal.Workplace

/-! # Importing a session

A cookie that is imported takes the place of the one before, and only then is it judged.
Therefore no session is left once an import has failed, whatever there was before. -/

namespace PromptClient

namespace Login

variable {σ : Type} [Storage σ] (login : Login σ) (value : String)

@[simp] theorem completeLogin_storage : (login.completeLogin value).storage =
    Storage.saveCookie (Cookie.lasting (Text.trim value)) login.storage :=
  moveTo_storage _ _

end Login

namespace FileStorage

end FileStorage

namespace Workplace

/-- Storage that has been started has its database, and the cookie apart from it. -/
theorem start_storage {config : Config} {environment : Environment} {files : FileTree}
    {tool : Tool} {presenter : Presenter} {clock : Int} {opens : Bool}
    {resultPath : Option String} {place : Workplace}
    (started : start config environment files tool presenter clock opens resultPath = .ok place) :
    place.desk.storage.AtWork ∧ place.desk.storage.KeepsApart := by
  unfold start at started
  dsimp only at started
  split at started
  · cases started
  · rename_i storage begun
    cases started
    have same : (Login.start tool (config.authorizeSettings tool.provider) storage clock
        opens).storage = storage := Login.moveTo_storage _ _
    rw [← same] at begun
    exact FileStorage.start_atWork begun

section Importing

variable {place : Workplace} {cookie : String}

variable (place cookie)

end Importing

end Workplace

end PromptClient
