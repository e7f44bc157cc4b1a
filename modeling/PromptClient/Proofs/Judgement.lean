import PromptClient.Proofs.Secrets

/-! # Judging credentials

Whether there is a credential to use is judged in several places: where a submission is
prepared, where the session is looked at, and where the layout is derived. Each goes its own
way, and all of them come to the same verdict. It rests on the cookie, on the time and on the
secret given, and on nothing that is remembered. -/

namespace PromptClient

/-- The cookie is live at that time and holds a session of the provider that is valid then. -/
def Cookie.Carries (cookie : Cookie) (provider : Provider) (clock : Int) : Prop :=
  cookie.isLiveAt clock = true ∧ ∃ session,
    Session.decode provider cookie.value = .ok (some session) ∧ session.isValidAt clock = true

namespace Login

variable {σ : Type} [Storage σ]

/-- The credential to which a mode entitles, by what is stored, the time and the secret given. -/
inductive Entitles (login : Login σ) (manual : ManualCredential) :
    CredentialMode → Credential → Prop
  | session {cookie : Cookie} (stored : Storage.cookie? login.storage = some cookie)
      (carries : cookie.Carries login.tool.provider login.clock) :
      Entitles login manual .session (.session cookie.value)
  | token {text : String} (given : manual = .token text)
      (full : Text.isAllBlank text = false) :
      Entitles login manual .manual (.token (Text.trim text))
  | file {path : String} (given : manual = .file path) :
      Entitles login manual .manual (.file path)

/-! ## The session -/

theorem hasSession_of_carries {login : Login σ} {cookie : Cookie}
    (stored : Storage.cookie? login.storage = some cookie)
    (carries : cookie.Carries login.tool.provider login.clock) : login.hasSession = true := by
  obtain ⟨live, session, decoded, valid⟩ := carries
  have raw : login.sessionCookie? = some cookie.value := by
    rw [sessionCookie?_of_cookie stored, if_pos live]
  simp [hasSession, currentSession?, raw, decoded, isValid, valid]

theorem carries_of_hasSession {login : Login σ} (found : login.hasSession = true) :
    ∃ cookie, Storage.cookie? login.storage = some cookie ∧
      cookie.Carries login.tool.provider login.clock := by
  cases stored : Storage.cookie? login.storage with
  | none =>
      have raw : login.sessionCookie? = none := by simp [sessionCookie?, stored]
      simp [hasSession, currentSession?, raw, isValid] at found
  | some cookie =>
      have raw := sessionCookie?_of_cookie stored
      cases live : cookie.isLiveAt login.clock with
      | false => simp [hasSession, currentSession?, raw, live, isValid] at found
      | true =>
          simp only [live, if_true] at raw
          simp only [hasSession, currentSession?, raw] at found
          cases decoded : Session.decode login.tool.provider cookie.value with
          | error fault => simp [decoded, isValid] at found
          | ok session? =>
              cases session? with
              | none => simp [decoded, isValid] at found
              | some session =>
                  have valid : session.isValidAt login.clock = true := by
                    simpa [decoded, isValid] using found
                  exact ⟨cookie, rfl, live, session, decoded, valid⟩

theorem hasSession_iff (login : Login σ) :
    login.hasSession = true ↔ ∃ cookie, Storage.cookie? login.storage = some cookie ∧
      cookie.Carries login.tool.provider login.clock :=
  ⟨carries_of_hasSession, fun ⟨_, stored, carries⟩ => hasSession_of_carries stored carries⟩

/-- What is sent is decoded once more than what is looked at, with the same result. -/
theorem sessionCredential_iff (login : Login σ) (credential : Credential) :
    login.sessionCredential = .ok credential ↔
      ∃ cookie, Storage.cookie? login.storage = some cookie ∧
        cookie.Carries login.tool.provider login.clock ∧ credential = .session cookie.value := by
  constructor
  · intro resolved
    obtain ⟨cookie, session, stored, live, decoded, valid, same⟩ := sessionCredential_ok resolved
    exact ⟨cookie, stored, ⟨live, session, decoded, valid⟩, same⟩
  · rintro ⟨cookie, stored, ⟨live, session, decoded, valid⟩, rfl⟩
    have raw : login.sessionCookie? = some cookie.value := by
      rw [sessionCookie?_of_cookie stored, if_pos live]
    simp [sessionCredential, raw, decoded, isValid, valid]

theorem sessionCredential_refuses {login : Login σ} {fault : ValidationFault}
    (refused : login.sessionCredential = .error fault) : fault = .notLoggedIn := by
  unfold sessionCredential at refused
  split at refused
  · cases refused
    rfl
  · split at refused
    · split at refused <;> cases refused
      rfl
    · cases refused
      rfl

/-! ## Any credential -/

theorem manualCredential_iff (tool : Tool) (manual : ManualCredential) (credential : Credential) :
    manualCredential tool manual = .ok credential ↔
      (∃ text, manual = .token text ∧ Text.isAllBlank text = false ∧
        credential = .token (Text.trim text)) ∨
      ∃ path, manual = .file path ∧ credential = .file path := by
  constructor
  · exact manualCredential_ok
  · rintro (⟨text, rfl, full, rfl⟩ | ⟨path, rfl, rfl⟩)
    · simp [manualCredential, full]
    · rfl

/-- A credential is found exactly where there is a right to it. -/
theorem resolveCredential_iff (login : Login σ) (mode : CredentialMode)
    (manual : ManualCredential) (credential : Credential) :
    login.resolveCredential mode manual = .ok credential ↔
      login.Entitles manual mode credential := by
  cases mode with
  | session =>
      rw [resolveCredential_session, sessionCredential_iff]
      constructor
      · rintro ⟨cookie, stored, carries, rfl⟩
        exact .session stored carries
      · rintro ⟨stored, carries⟩
        exact ⟨_, stored, carries, rfl⟩
  | manual =>
      rw [resolveCredential_manual, manualCredential_iff]
      constructor
      · rintro (⟨text, given, full, rfl⟩ | ⟨path, given, rfl⟩)
        · exact .token given full
        · exact .file given
      · rintro (_ | ⟨given, full⟩ | ⟨given⟩)
        · exact .inl ⟨_, given, full, rfl⟩
        · exact .inr ⟨_, given, rfl⟩

theorem readiness_iff (login : Login σ) (mode : CredentialMode) (manual : ManualCredential) :
    login.readiness mode manual = true ↔ ∃ credential, login.Entitles manual mode credential := by
  cases mode with
  | session =>
      rw [show login.readiness .session manual = login.hasSession from rfl, hasSession_iff]
      constructor
      · rintro ⟨cookie, stored, carries⟩
        exact ⟨_, .session stored carries⟩
      · rintro ⟨_, stored, carries⟩
        exact ⟨_, stored, carries⟩
  | manual =>
      rw [show login.readiness .manual manual = manual.isPresent from rfl]
      constructor
      · intro present
        cases manual with
        | absent => cases present
        | token text => exact ⟨_, .token rfl (by simpa [ManualCredential.isPresent] using present)⟩
        | file path => exact ⟨_, .file rfl⟩
      · rintro ⟨_, _ | ⟨given, full⟩ | ⟨given⟩⟩
        · simp [given, ManualCredential.isPresent, full]
        · simp [given, ManualCredential.isPresent]

theorem refresh_loggedIn_iff (login : Login σ) :
    login.refresh.state = .loggedIn ↔ login.hasSession = true := by
  rw [refresh_state, derivedState]
  split
  · simp [*]
  · split <;> simp [*]

/-! ## What a verdict rests on -/

/-- The logins serve one tool, and there are the same cookie and the same time for both. -/
structure SameGrounds (first second : Login σ) : Prop where
  tool : first.tool = second.tool
  cookie : Storage.cookie? first.storage = Storage.cookie? second.storage
  clock : first.clock = second.clock

theorem SameGrounds.sessionCookie? {first second : Login σ} (same : first.SameGrounds second) :
    first.sessionCookie? = second.sessionCookie? := by
  simp only [Login.sessionCookie?, same.cookie, same.clock]

theorem SameGrounds.isValid {first second : Login σ} (same : first.SameGrounds second) :
    first.isValid = second.isValid := by
  funext session
  cases session <;> simp [Login.isValid, same.clock]

theorem SameGrounds.hasSession {first second : Login σ} (same : first.SameGrounds second) :
    first.hasSession = second.hasSession := by
  simp only [Login.hasSession, currentSession?, same.isValid, same.sessionCookie?, same.tool]

theorem SameGrounds.readiness {first second : Login σ} (same : first.SameGrounds second)
    (mode : CredentialMode) (manual : ManualCredential) :
    first.readiness mode manual = second.readiness mode manual := by
  cases mode with
  | session => exact same.hasSession
  | manual => rfl

theorem SameGrounds.sessionCredential {first second : Login σ}
    (same : first.SameGrounds second) : first.sessionCredential = second.sessionCredential := by
  simp only [Login.sessionCredential, same.isValid, same.sessionCookie?, same.tool]

theorem SameGrounds.resolveCredential {first second : Login σ}
    (same : first.SameGrounds second) (mode : CredentialMode) (manual : ManualCredential) :
    first.resolveCredential mode manual = second.resolveCredential mode manual := by
  cases mode with
  | session => exact same.sessionCredential
  | manual => exact congrArg (manualCredential · manual) same.tool

theorem refresh_sameGrounds (login : Login σ) : login.refresh.SameGrounds login where
  tool := moveTo_tool _ _
  cookie := congrArg Storage.cookie? (moveTo_storage _ _)
  clock := moveTo_clock _ _

end Login

namespace Desk

variable {σ : Type} [Storage σ]

/-- The layout of a desk on which that mode and that secret have been chosen. -/
def layoutFor (desk : Desk σ) (mode : CredentialMode) (manual : ManualCredential) :
    CredentialLayout :=
  ((desk.setMode mode).1.setManual manual).1.refreshLayout.1.form.layout

theorem layoutFor_eq (desk : Desk σ) (mode : CredentialMode) (manual : ManualCredential) :
    desk.layoutFor mode manual =
      CredentialLayout.derive mode desk.login.hasSession manual.isPresent := rfl

/-- A look at the credentials that leaves a trace behind: in the login state, or in the
layout. -/
inductive Look
  | atSession
  | atLayout

def look (desk : Desk σ) : Look → Desk σ
  | .atSession => desk.onLogin Login.refresh
  | .atLayout => desk.refreshLayout.1

def lookOften (desk : Desk σ) (looks : List Look) : Desk σ :=
  looks.foldl look desk

theorem look_sameGrounds (desk : Desk σ) (look : Look) :
    (desk.look look).login.SameGrounds desk.login := by
  cases look with
  | atSession => exact desk.login.refresh_sameGrounds
  | atLayout => exact ⟨rfl, rfl, rfl⟩

theorem lookOften_sameGrounds (desk : Desk σ) (looks : List Look) :
    (desk.lookOften looks).login.SameGrounds desk.login := by
  induction looks generalizing desk with
  | nil => exact ⟨rfl, rfl, rfl⟩
  | cons look rest induction =>
      have first := desk.look_sameGrounds look
      have later := induction (desk.look look)
      exact ⟨later.tool.trans first.tool, later.cookie.trans first.cookie,
        later.clock.trans first.clock⟩

/-- All verdicts on a credential agree. In either mode a form is ready to submit, and is said to
be ready, exactly if there is a credential to send. In session mode that credential is the cookie
as it is stored, and there is one exactly if a look at the session finds the user logged in and
the layout offers to log out; otherwise the user is told to log in. How often anybody has looked
before makes no difference, nor does anything else that a desk remembers: the verdicts are the
same on any other desk with the same tool, cookie and time. -/
theorem verdicts_agree (desk : Desk σ) :
    (∀ mode manual,
      (desk.login.readiness mode manual = true ↔
        ∃ credential, desk.login.resolveCredential mode manual = .ok credential) ∧
      (desk.layoutFor mode manual).submitReady = desk.login.readiness mode manual ∧
      (desk.layoutFor mode manual).logoutVisible = desk.login.readiness .session manual ∧
      (desk.layoutFor mode manual).loginVisible =
        !(desk.layoutFor mode manual).logoutVisible) ∧
    (∀ manual,
      (desk.login.readiness .session manual = true ↔
        ∃ cookie, Storage.cookie? desk.storage = some cookie ∧
          cookie.Carries desk.tool.provider desk.login.clock ∧
          desk.login.resolveCredential .session manual = .ok (.session cookie.value)) ∧
      (desk.login.readiness .session manual = true ↔ desk.login.refresh.state = .loggedIn) ∧
      (desk.login.readiness .session manual = false ↔
        desk.login.resolveCredential .session manual = .error .notLoggedIn)) ∧
    (∀ looks, (desk.lookOften looks).login.SameGrounds desk.login) ∧
    ∀ other : Desk σ, other.login.SameGrounds desk.login → ∀ mode manual,
      other.login.readiness mode manual = desk.login.readiness mode manual ∧
      other.login.resolveCredential mode manual = desk.login.resolveCredential mode manual ∧
      (other.login.refresh.state = .loggedIn ↔ desk.login.refresh.state = .loggedIn) ∧
      other.layoutFor mode manual = desk.layoutFor mode manual := by
  have found : ∀ mode manual, desk.login.readiness mode manual = true ↔
      ∃ credential, desk.login.resolveCredential mode manual = .ok credential := by
    intro mode manual
    simp only [Login.readiness_iff, Login.resolveCredential_iff]
  refine ⟨?either, ?session, desk.lookOften_sameGrounds, ?other⟩
  case either =>
    intro mode manual
    refine ⟨found mode manual, ?_, rfl, rfl⟩
    cases mode <;> rfl
  case session =>
    intro manual
    refine ⟨?cookie, ?state, ?refused⟩
    case cookie =>
      rw [found]
      simp only [Login.resolveCredential_session, Login.sessionCredential_iff]
      constructor
      · rintro ⟨_, cookie, stored, carries, rfl⟩
        exact ⟨cookie, stored, carries, cookie, stored, carries, rfl⟩
      · rintro ⟨cookie, stored, carries, -⟩
        exact ⟨_, cookie, stored, carries, rfl⟩
    case state => exact (Login.refresh_loggedIn_iff desk.login).symm
    case refused =>
      rw [← Bool.not_eq_true, found, Login.resolveCredential_session]
      cases resolved : desk.login.sessionCredential with
      | ok credential => simp
      | error fault => simp [Login.sessionCredential_refuses resolved]
  case other =>
    intro other same mode manual
    refine ⟨same.readiness mode manual, same.resolveCredential mode manual, ?_, ?_⟩
    · rw [Login.refresh_loggedIn_iff, Login.refresh_loggedIn_iff, same.hasSession]
    · rw [layoutFor_eq, layoutFor_eq, same.hasSession]

/-- In the last second before a session expires it is still good, also on a desk whose user has
been sent to the provider. -/
theorem verdicts_agree_lastSecond :
    let raw := "eyJnb29nbGVfYWNjZXNzX3Rva2VuIjoidCIsImdvb2dsZV9hY2Nlc3NfdG9rZW5fZXhwaXJlcyI6MTcwMDAwMDEwMH0="
    let login : Login MemoryStorage :=
      { tool := .googleDocs
        settings := ⟨"", "", "", "", none⟩
        storage := ⟨some (.lasting raw), ⟨[]⟩, ⟨[]⟩⟩
        clock := 1700000099
        browserOpens := true
        state := .loggedOut
        changes := 0 }
    let desk : Desk MemoryStorage :=
      { login := login
        form := .initial
        mode := .session
        manual := .absent
        policy := .standard
        presenter := ⟨fun text => text, fun text => text⟩ }
    let other := desk.onLogin Login.beginLogin
    other.login.SameGrounds desk.login ∧ other.login.state = .awaitingCallback ∧
      other.login.readiness .session (.token " ") = true ∧
      other.login.resolveCredential .session (.token " ") = .ok (.session raw) ∧
      (other.layoutFor .session (.token " ")).submitReady = true := by
  intro raw login desk other
  obtain ⟨either, session, -, others⟩ := verdicts_agree desk
  have same : other.login.SameGrounds desk.login := ⟨rfl, rfl, rfl⟩
  obtain ⟨ready, resolved, -, layout⟩ := others other same .session (.token " ")
  have good : desk.login.readiness .session (.token " ") = true := by decide +kernel
  obtain ⟨cookie, stored, -, sent⟩ := (session (.token " ")).1.mp good
  have found : cookie = .lasting raw := (Option.some_inj.mp stored).symm
  rw [found] at sent
  have shown := (either .session (.token " ")).2.1
  rw [← layout] at shown
  exact ⟨same, rfl, ready.trans good, resolved.trans sent, shown.trans good⟩

end Desk

end PromptClient
