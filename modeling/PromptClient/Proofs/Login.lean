import PromptClient.Login

/-! # What a change of state leaves alone

Going over to a login state changes that state and nothing else, and is announced if it is a
different one. -/

namespace PromptClient

namespace Storage

variable {σ : Type} [Storage σ]

/-- A cookie that is saved in the storage is found there afterwards. -/
def Keeps (cookie : Cookie) (storage : σ) : Prop :=
  Storage.cookie? (Storage.saveCookie cookie storage) = some cookie

theorem keeps_memory (cookie : Cookie) (storage : MemoryStorage) : Keeps cookie storage :=
  rfl

end Storage

namespace Login

variable {σ : Type}

@[simp] theorem moveTo_state (login : Login σ) (next : LoginState) :
    (login.moveTo next).state = next := by
  unfold moveTo
  split
  · assumption
  · rfl

@[simp] theorem moveTo_storage (login : Login σ) (next : LoginState) :
    (login.moveTo next).storage = login.storage := by
  unfold moveTo
  split <;> rfl

@[simp] theorem moveTo_clock (login : Login σ) (next : LoginState) :
    (login.moveTo next).clock = login.clock := by
  unfold moveTo
  split <;> rfl

@[simp] theorem moveTo_tool (login : Login σ) (next : LoginState) :
    (login.moveTo next).tool = login.tool := by
  unfold moveTo
  split <;> rfl

theorem moveTo_changes (login : Login σ) (next : LoginState) :
    (login.moveTo next).changes =
      if login.state = next then login.changes else login.changes + 1 := by
  unfold moveTo
  split <;> simp [*]

theorem moveTo_changes_iff (login : Login σ) (next : LoginState) :
    (login.moveTo next).changes = login.changes ↔ login.state = next := by
  rw [moveTo_changes]
  split <;> simp [*]

theorem moveTo_self (login : Login σ) : login.moveTo login.state = login := by
  simp [moveTo]

variable [Storage σ]

@[simp] theorem moveTo_sessionCookie? (login : Login σ) (next : LoginState) :
    (login.moveTo next).sessionCookie? = login.sessionCookie? := by
  simp [sessionCookie?]

@[simp] theorem moveTo_currentSession? (login : Login σ) (next : LoginState) :
    (login.moveTo next).currentSession? = login.currentSession? := by
  simp [currentSession?]

@[simp] theorem moveTo_hasSession (login : Login σ) (next : LoginState) :
    (login.moveTo next).hasSession = login.hasSession := by
  unfold moveTo
  split <;> rfl

@[simp] theorem refresh_hasSession (login : Login σ) :
    login.refresh.hasSession = login.hasSession :=
  login.moveTo_hasSession login.derivedState

@[simp] theorem refresh_state (login : Login σ) :
    login.refresh.state = login.derivedState :=
  login.moveTo_state login.derivedState

theorem refresh_changes (login : Login σ) :
    login.refresh.changes = login.changes ↔ login.state = login.derivedState :=
  login.moveTo_changes_iff login.derivedState

theorem sessionCookie?_of_cookie {login : Login σ} {cookie : Cookie}
    (found : Storage.cookie? login.storage = some cookie) :
    login.sessionCookie? = if cookie.isLiveAt login.clock then some cookie.value else none := by
  cases live : cookie.isLiveAt login.clock <;>
    simp [sessionCookie?, found, Option.filter, live]

@[simp] theorem resolveCredential_session (login : Login σ) (manual : ManualCredential) :
    login.resolveCredential .session manual = login.sessionCredential := rfl

@[simp] theorem resolveCredential_manual (login : Login σ) (manual : ManualCredential) :
    login.resolveCredential .manual manual = Login.manualCredential login.tool manual := rfl

/-- Without a session a look changes the state exactly when it was logged in. -/
theorem derivedState_of_expired {login : Login σ} (expired : login.hasSession = false) :
    login.state = login.derivedState ↔ login.state ≠ .loggedIn := by
  cases state : login.state <;> simp [derivedState, expired, state]

end Login

end PromptClient
