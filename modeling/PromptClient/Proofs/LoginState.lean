import Mathlib.Data.List.Induction
import Mathlib.Tactic.Tauto
import PromptClient.Proofs.SessionCookie

/-! # Where a login stands

The state of a login is remembered from one operation to the next. It can still be told from
what has happened so far: from the latest operation that settled it, and from whether there was
a session then. -/

namespace PromptClient

/-- Something of the first kind has come and nothing of the second since. -/
def Since {α : Type} (arises ends : α → Prop) (history : List α) : Prop :=
  ∃ before moment after, history = before ++ moment :: after ∧ arises moment ∧
    ∀ later ∈ after, ¬ ends later

theorem since_concat {α : Type} {arises ends : α → Prop} (history : List α) (moment : α) :
    Since arises ends (history ++ [moment]) ↔
      arises moment ∨ (Since arises ends history ∧ ¬ ends moment) := by
  constructor
  · rintro ⟨before, first, after, whole, arisen, lasts⟩
    -- What has come either is the last moment itself or has lasted through it.
    rcases List.eq_nil_or_concat after with rfl | ⟨after, last, rfl⟩
    · obtain ⟨-, same⟩ := List.append_inj' whole rfl
      rw [List.singleton_inj.mp same]
      exact .inl arisen
    · have whole : history ++ [moment] = (before ++ first :: after) ++ [last] := by
        simpa using whole
      obtain ⟨rfl, same⟩ := List.append_inj' whole rfl
      rw [List.singleton_inj.mp same]
      refine .inr ⟨⟨before, first, after, rfl, arisen, ?_⟩, lasts last (by simp)⟩
      exact fun later found => lasts later (by simp [found])
  · rintro (arisen | ⟨⟨before, first, after, rfl, arisen, lasts⟩, kept⟩)
    · exact ⟨history, moment, [], rfl, arisen, by simp⟩
    · refine ⟨before, first, after ++ [moment], by simp, arisen, ?_⟩
      intro later found
      rcases List.mem_append.mp found with found | found
      · exact lasts later found
      · rw [List.mem_singleton.mp found]
        exact kept

namespace Login

/-- What may happen to a login. -/
inductive Incident (σ : Type)
  | beginLogin (opens : Bool)
  | completeLogin (value : String)
  | logout
  | refresh
  /-- Somebody else writes the cookie, or anything else in the storage. -/
  | storageChanges (storage : σ)
  | clockShows (clock : Int)

variable {σ : Type} [Storage σ]

def undergo (login : Login σ) : Incident σ → Login σ
  | .beginLogin opens => { login with browserOpens := opens }.beginLogin
  | .completeLogin value => login.completeLogin value
  | .logout => login.logout
  | .refresh => login.refresh
  | .storageChanges storage => { login with storage := storage }
  | .clockShows clock => login.withClock clock

def live (login : Login σ) (incidents : List (Incident σ)) : Login σ :=
  incidents.foldl undergo login

/-- Each incident with the login that it met. -/
def moments (login : Login σ) : List (Incident σ) → List (Login σ × Incident σ)
  | [] => []
  | incident :: rest => (login, incident) :: moments (login.undergo incident) rest

theorem live_concat (login : Login σ) (incidents : List (Incident σ)) (last : Incident σ) :
    login.live (incidents ++ [last]) = (login.live incidents).undergo last := by
  simp [live]

theorem moments_concat (login : Login σ) (incidents : List (Incident σ)) (last : Incident σ) :
    login.moments (incidents ++ [last]) =
      login.moments incidents ++ [(login.live incidents, last)] := by
  induction incidents generalizing login with
  | nil => rfl
  | cons incident rest induction => exact congrArg (_ :: ·) (induction _)

/-! ## Moments that matter -/

/-- The user is sent to the provider. -/
def Departs (moment : Login σ × Incident σ) : Prop :=
  moment.2 = .beginLogin true

/-- The user is no longer waited for. -/
def Arrives : Login σ × Incident σ → Prop
  | (_, .completeLogin _) => True
  | (_, .logout) => True
  | (login, .refresh) => login.hasSession = true
  | _ => False

/-- The state is decided anew. -/
def Settles : Login σ × Incident σ → Prop
  | (_, .completeLogin _) => True
  | (_, .logout) => True
  | (_, .refresh) => True
  | (_, .beginLogin opens) => opens = true
  | _ => False

/-- The session is looked at, the one just saved if there is one, and it is valid. -/
def FindsSession : Login σ × Incident σ → Prop
  | (login, .refresh) => login.hasSession = true
  | (login, .completeLogin value) => (login.completeLogin value).hasSession = true
  | _ => False

/-- The user has been sent to the provider and is still waited for. -/
def Awaits (login : Login σ) (incidents : List (Incident σ)) : Prop :=
  Since Departs Arrives (login.moments incidents)

/-- When the state was last decided, if only at the start, there was a valid session. -/
def HadSession (login : Login σ) (incidents : List (Incident σ)) : Prop :=
  Since FindsSession Settles (login.moments incidents) ∨
    (login.hasSession = true ∧ ∀ moment ∈ login.moments incidents, ¬ Settles moment)

/-! ## One incident -/

theorem undergo_awaits_iff (login : Login σ) (incident : Incident σ) :
    (login.undergo incident).state = .awaitingCallback ↔
      Departs (login, incident) ∨
        (login.state = .awaitingCallback ∧ ¬ Arrives (login, incident)) := by
  cases incident with
  | beginLogin opens => cases opens <;> simp [undergo, Login.beginLogin, Departs, Arrives]
  | completeLogin value =>
      simp only [undergo, Login.completeLogin, moveTo_state, Departs, Arrives]
      split <;> simp
  | logout => simp [undergo, Login.logout, Departs, Arrives]
  | refresh =>
      cases found : login.hasSession <;>
        simp [undergo, derivedState, found, Departs, Arrives]
  | storageChanges storage => simp [undergo, Departs, Arrives]
  | clockShows clock => simp [undergo, withClock, Departs, Arrives]

theorem undergo_loggedIn_iff (login : Login σ) (incident : Incident σ) :
    (login.undergo incident).state = .loggedIn ↔
      FindsSession (login, incident) ∨
        (login.state = .loggedIn ∧ ¬ Settles (login, incident)) := by
  cases incident with
  | beginLogin opens => cases opens <;> simp [undergo, Login.beginLogin, FindsSession, Settles]
  | completeLogin value =>
      simp [undergo, Login.completeLogin, FindsSession, Settles]
  | logout => simp [undergo, Login.logout, FindsSession, Settles]
  | refresh =>
      simp only [undergo, refresh_state, derivedState, FindsSession, Settles]
      split
      · simp [*]
      · split <;> simp [*]
  | storageChanges storage => simp [undergo, FindsSession, Settles]
  | clockShows clock => simp [undergo, withClock, FindsSession, Settles]

/-- Whatever happens, it is announced exactly when it changes the state. -/
theorem undergo_changes (login : Login σ) (incident : Incident σ) :
    (login.undergo incident).changes =
      if (login.undergo incident).state = login.state then login.changes
      else login.changes + 1 := by
  have announced : ∀ (other : Login σ) (next : LoginState),
      (other.moveTo next).changes =
        if (other.moveTo next).state = other.state then other.changes
        else other.changes + 1 := by
    intro other next
    rw [moveTo_changes, moveTo_state]
    simp only [eq_comm]
  cases incident with
  | beginLogin opens =>
      cases opens with
      | false => simp [undergo, Login.beginLogin]
      | true => exact announced { login with browserOpens := true } _
  | completeLogin value => exact announced { login with storage := _ } _
  | logout => exact announced { login with storage := _ } _
  | refresh => exact announced login _
  | storageChanges storage | clockShows clock => simp [undergo, withClock]

theorem refresh_refresh (login : Login σ) : login.refresh.refresh = login.refresh := by
  have same : login.refresh.derivedState = login.refresh.state := by
    rw [refresh_state]
    simp only [derivedState, refresh_hasSession, refresh_state]
    cases login.hasSession with
    | true => rfl
    | false => cases login.state <;> rfl
  rw [refresh, same, moveTo_self]

/-! ## Any number of incidents -/

theorem live_awaits_iff {start : Login σ} (outset : start.state ≠ .awaitingCallback)
    (incidents : List (Incident σ)) :
    (start.live incidents).state = .awaitingCallback ↔ start.Awaits incidents := by
  induction incidents using List.reverseRecOn with
  | nil =>
      refine ⟨fun waits => absurd waits outset, ?_⟩
      rintro ⟨before, moment, after, whole, -⟩
      exact absurd whole.symm (by simp [moments])
  | append_singleton incidents last induction =>
      rw [live_concat, undergo_awaits_iff, induction, Awaits, Awaits, moments_concat,
        since_concat]

theorem live_loggedIn_iff {start : Login σ}
    (outset : start.state = .loggedIn ↔ start.hasSession = true)
    (incidents : List (Incident σ)) :
    (start.live incidents).state = .loggedIn ↔ start.HadSession incidents := by
  -- From the end, because the last incident decides alone or leaves the state as it was.
  induction incidents using List.reverseRecOn with
  | nil =>
      rw [show start.live [] = start from rfl, outset]
      constructor
      · exact fun found => .inr ⟨found, by simp [moments]⟩
      · rintro (⟨before, moment, after, whole, -⟩ | ⟨found, -⟩)
        · exact absurd whole.symm (by simp [moments])
        · exact found
  | append_singleton incidents last induction =>
      rw [live_concat, undergo_loggedIn_iff, induction, HadSession, HadSession, moments_concat,
        since_concat]
      simp only [List.forall_mem_append, List.forall_mem_singleton]
      tauto

/-! ## After logging out -/

/-- Somebody writes the cookie. -/
def Incident.writes : Incident σ → Bool
  | .completeLogin _ | .logout | .storageChanges _ => true
  | _ => false

/-- There is no cookie that says anything, whatever the time. -/
def Cleared (login : Login σ) : Prop :=
  ∀ clock, (login.withClock clock).sessionCookie? = none

theorem Cleared.currentSession? {login : Login σ} (cleared : login.Cleared) (clock : Int) :
    (login.withClock clock).currentSession? = none := by
  simp [Login.currentSession?, cleared clock]

theorem Cleared.hasSession {login : Login σ} (cleared : login.Cleared) :
    login.hasSession = false := by
  have nothing : login.currentSession? = none := cleared.currentSession? login.clock
  simp [Login.hasSession, nothing, isValid]

theorem Cleared.of_storage {login other : Login σ} (cleared : login.Cleared)
    (same : other.storage = login.storage) : other.Cleared := by
  intro clock
  have nothing := cleared clock
  simpa only [sessionCookie?, withClock, same] using nothing

theorem logout_cleared {login : Login σ} (kept : Storage.Keeps .cleared login.storage) :
    login.logout.Cleared := by
  have cleared : (login.withCookie .cleared).Cleared := by
    intro clock
    have holds : Storage.cookie? ((login.withCookie .cleared).withClock clock).storage =
        some .cleared := kept
    rw [sessionCookie?_of_cookie holds]
    rfl
  exact cleared.of_storage (moveTo_storage _ _)

theorem undergo_storage (login : Login σ) {incident : Incident σ}
    (notWriting : incident.writes = false) :
    (login.undergo incident).storage = login.storage := by
  cases incident with
  | beginLogin opens => cases opens <;> simp [undergo, Login.beginLogin]
  | refresh => exact moveTo_storage _ _
  | clockShows clock => rfl
  | completeLogin value | logout | storageChanges storage => cases notWriting

/-- Without a cookie nothing leads to being logged in. -/
theorem undergo_not_loggedIn {login : Login σ} (cleared : login.Cleared)
    (out : login.state ≠ .loggedIn) {incident : Incident σ}
    (notWriting : incident.writes = false) :
    (login.undergo incident).state ≠ .loggedIn := by
  rw [Ne, undergo_loggedIn_iff]
  rintro (finds | ⟨stays, -⟩)
  · cases incident with
    | refresh => exact absurd finds (by simp [FindsSession, cleared.hasSession])
    | completeLogin value => cases notWriting
    | beginLogin opens | logout | storageChanges storage | clockShows clock => exact finds
  · exact out stays

theorem live_of_cleared {login : Login σ} (cleared : login.Cleared)
    (out : login.state ≠ .loggedIn) (incidents : List (Incident σ))
    (notWriting : ∀ incident ∈ incidents, incident.writes = false) :
    (login.live incidents).Cleared ∧ (login.live incidents).state ≠ .loggedIn := by
  induction incidents generalizing login with
  | nil => exact ⟨cleared, out⟩
  | cons incident rest induction =>
      have first := notWriting incident List.mem_cons_self
      exact induction (cleared.of_storage (login.undergo_storage first))
        (undergo_not_loggedIn cleared out first)
        fun later found => notWriting later (List.mem_cons_of_mem _ found)

/-! ## The whole life of a login -/

theorem start_state (tool : Tool) (settings : AuthorizeSettings) (storage : σ) (clock : Int)
    (opens : Bool) :
    let start := Login.start tool settings storage clock opens
    start.state = if start.hasSession then .loggedIn else .loggedOut := by
  simp only [start, refresh_state, refresh_hasSession, derivedState]
  split <;> simp

/-- Where a login stands after any incidents can be told from these: it awaits the callback if
the user has been sent away and neither the callback, nor a logout, nor a look that found a
session has come since; it is logged in if there was a session when last it was settled whether
there is one; otherwise it is logged out. What happens is announced exactly if it changes the
state, and a browser that does not open changes nothing. After a logout there is no session and
nothing leads to being logged in, at any time, until somebody writes the cookie. A second look
changes nothing. -/
theorem state_of_moments (tool : Tool) (settings : AuthorizeSettings) (storage : σ)
    (clock : Int) (opens : Bool) (incidents : List (Incident σ)) :
    let start := Login.start tool settings storage clock opens
    let login := start.live incidents
    (login.state = .awaitingCallback ↔ start.Awaits incidents) ∧
    (login.state = .loggedIn ↔ start.HadSession incidents) ∧
    (login.state = .loggedOut ↔ ¬ start.Awaits incidents ∧ ¬ start.HadSession incidents) ∧
    (∀ incident, (login.undergo incident).changes =
      if (login.undergo incident).state = login.state then login.changes
      else login.changes + 1) ∧
    login.undergo (.beginLogin false) = { login with browserOpens := false } ∧
    (Storage.Keeps .cleared login.storage →
      ∀ later, (∀ incident ∈ later, incident.writes = false) →
        let after := login.logout.live later
        after.state ≠ .loggedIn ∧
          ∀ clock, (after.withClock clock).sessionCookie? = none ∧
            (after.withClock clock).currentSession? = none) ∧
    login.refresh.refresh = login.refresh := by
  intro start login
  have settled : start.state = if start.hasSession then .loggedIn else .loggedOut :=
    start_state tool settings storage clock opens
  have notAwaiting : start.state ≠ .awaitingCallback := by
    rw [settled]
    split <;> simp
  have loggedInFirst : start.state = .loggedIn ↔ start.hasSession = true := by
    rw [settled]
    split <;> simp [*]
  have awaits := live_awaits_iff notAwaiting incidents
  have loggedIn := live_loggedIn_iff loggedInFirst incidents
  refine ⟨awaits, loggedIn, ?loggedOut, login.undergo_changes, rfl, ?after, login.refresh_refresh⟩
  case loggedOut =>
    rw [← awaits, ← loggedIn]
    cases login.state <;> simp
  case after =>
    intro kept later notWriting after
    have out : login.logout.state ≠ .loggedIn := by
      rw [logout, moveTo_state]
      decide
    obtain ⟨cleared, stays⟩ := live_of_cleared (logout_cleared kept) out later notWriting
    exact ⟨stays, fun clock => ⟨cleared clock, cleared.currentSession? clock⟩⟩

/-- The user is sent away and has not come back when somebody looks; then comes back with a
session, logs out, and is sent away once more. -/
theorem state_of_moments_callback :
    let start : Login MemoryStorage :=
      .start .slackChannel ⟨"", "", "", "", none⟩ ⟨none, ⟨[]⟩, ⟨[]⟩⟩ 50 true
    let raw := (Session.mk "x" none).encode .slack
    let login := start.live [.beginLogin true, .refresh, .completeLogin raw]
    let after := login.logout.live [.beginLogin true, .clockShows 20, .refresh]
    (start.live [.beginLogin true, .refresh]).state = .awaitingCallback ∧
      login.state = .loggedIn ∧ after.state ≠ .loggedIn ∧
      (after.withClock 20).currentSession? = none := by
  intro start raw login after
  have waiting := state_of_moments .slackChannel ⟨"", "", "", "", none⟩
    (⟨none, ⟨[]⟩, ⟨[]⟩⟩ : MemoryStorage) 50 true [.beginLogin true, .refresh]
  have back := state_of_moments .slackChannel ⟨"", "", "", "", none⟩
    (⟨none, ⟨[]⟩, ⟨[]⟩⟩ : MemoryStorage) 50 true
    [.beginLogin true, .refresh, .completeLogin raw]
  have awaits : start.Awaits [.beginLogin true, .refresh] := by
    refine ⟨[], (start, .beginLogin true), _, rfl, rfl, ?_⟩
    intro moment later arrives
    rw [List.mem_singleton.mp later] at arrives
    cases arrives
  have fits : (Session.mk "x" none).ExpiryFits := by
    intro time found
    cases found
  have found : start.HadSession [.beginLogin true, .refresh, .completeLogin raw] := by
    have current : ((start.live [.beginLogin true, .refresh]).completeLogin raw).currentSession? =
        some ⟨"x", none⟩ :=
      (completeLogin_encode fits (Storage.keeps_memory _ _)).2.1
    have finds : FindsSession
        (start.live [.beginLogin true, .refresh], .completeLogin raw) := by
      have now : ((start.live [.beginLogin true, .refresh]).completeLogin raw).clock = 50 :=
        moveTo_clock _ _
      rw [FindsSession, hasSession, current, isValid, now]
      rfl
    exact .inl ⟨_, _, [], moments_concat _ [.beginLogin true, .refresh] _, finds, by simp⟩
  have cleared := back.2.2.2.2.2.1 (Storage.keeps_memory _ _)
    [.beginLogin true, .clockShows 20, .refresh] (by decide)
  exact ⟨waiting.1.mpr awaits, back.2.1.mpr found, cleared.1, (cleared.2 20).2⟩

end Login

end PromptClient
