import Mathlib.Data.Int.ConditionallyCompleteOrder
import Mathlib.Order.ConditionallyCompleteLattice.Basic
import PromptClient.Proofs.CookieHeader
import PromptClient.Proofs.Judgement
import PromptClient.Proofs.Stores

/-! # When a session ends

A cookie expires, and so does the session in it. Whichever comes first is the one bound that
counts: before it the session can be used, and from then on it cannot. A clock that is never put
back does not come before a bound again, so what has ended stays ended until another cookie is
saved. -/

namespace PromptClient

/-- The end of a span of time: the least has passed at any time, the greatest never comes. -/
abbrev Deadline := WithBot (WithTop Int)

/-- The point of time itself. -/
def Deadline.ofTime (time : Int) : Deadline :=
  ((time : WithTop Int) : WithBot (WithTop Int))

theorem Deadline.ofTime_lt_iff {time other : Int} : ofTime time < ofTime other ↔ time < other := by
  simp [ofTime]

theorem Deadline.ofTime_le_iff {time other : Int} : ofTime time ≤ ofTime other ↔ time ≤ other := by
  simp [ofTime]

namespace Session

/-- The deadline that an expiry sets. -/
def deadline : Option Int → Deadline
  | none => ⊤
  | some time => .ofTime time

theorem outlives_iff (expires : Option Int) (now : Int) :
    outlives expires now = true ↔ Deadline.ofTime now < deadline expires := by
  cases expires with
  | none =>
      have never : Deadline.ofTime now < ⊤ := WithBot.coe_lt_coe.mpr (WithTop.coe_lt_top now)
      simp [outlives, deadline, never]
  | some time => simp [outlives, deadline, Deadline.ofTime_lt_iff]

theorem isValidAt_iff (session : Session) (now : Int) :
    session.isValidAt now = true ↔
      session.accessToken ≠ "" ∧ Deadline.ofTime now < deadline session.expiresAt := by
  simp [isValidAt, outlives_iff]

end Session

namespace Cookie

theorem isLiveAt_iff (cookie : Cookie) (now : Int) :
    cookie.isLiveAt now = true ↔
      cookie.value ≠ "" ∧ Deadline.ofTime now < Session.deadline cookie.expires := by
  simp [isLiveAt, Session.outlives_iff]

/-- When the session of a provider in a cookie ends: with the cookie or by itself, whichever is
first. A cookie that is empty, that cannot be read, or that holds no token or an empty one has
no session at any time. -/
def ends (cookie : Cookie) (provider : Provider) : Deadline :=
  if cookie.value = "" then ⊥
  else match Session.decode provider cookie.value with
    | .ok (some session) =>
        if session.accessToken = "" then ⊥
        else min (Session.deadline cookie.expires) (Session.deadline session.expiresAt)
    | .ok none => ⊥
    | .error _ => ⊥

theorem carries_iff (cookie : Cookie) (provider : Provider) (now : Int) :
    cookie.Carries provider now ↔ Deadline.ofTime now < cookie.ends provider := by
  unfold Carries ends
  rw [isLiveAt_iff]
  by_cases blank : cookie.value = ""
  · simp [blank]
  · cases decoded : Session.decode provider cookie.value with
    | error fault => simp [blank]
    | ok session? =>
        cases session? with
        | none => simp [blank]
        | some session =>
            by_cases void : session.accessToken = ""
            · simp [blank, void, Session.isValidAt_iff]
            · simp [blank, void, Session.isValidAt_iff]

theorem Carries.earlier {cookie : Cookie} {provider : Provider} {now later : Int}
    (carries : cookie.Carries provider later) (before : now ≤ later) :
    cookie.Carries provider now := by
  rw [carries_iff] at carries ⊢
  exact lt_of_le_of_lt (Deadline.ofTime_le_iff.mpr before) carries

end Cookie

namespace Login

variable {σ : Type} [Storage σ] {earlier later : Login σ}

/-- A login is ready in session mode exactly until the session in the cookie ends. -/
theorem readiness_session_iff {login : Login σ} {cookie : Cookie}
    (stored : Storage.cookie? login.storage = some cookie) (manual : ManualCredential) :
    login.readiness .session manual = true ↔
      Deadline.ofTime login.clock < cookie.ends login.tool.provider := by
  rw [show login.readiness .session manual = login.hasSession from rfl, hasSession_iff,
    ← Cookie.carries_iff]
  constructor
  · rintro ⟨other, found, carries⟩
    rw [stored] at found
    rw [Option.some.inj found]
    exact carries
  · exact fun carries => ⟨cookie, stored, carries⟩

/-- Without a session a credential is refused, and for no other reason. -/
theorem resolveCredential_refused_iff (login : Login σ) (manual : ManualCredential) :
    login.resolveCredential .session manual = .error .notLoggedIn ↔
      login.hasSession = false := by
  rw [resolveCredential_session, ← Bool.not_eq_true, hasSession_iff]
  cases resolved : login.sessionCredential with
  | ok credential =>
      rcases (login.sessionCredential_iff credential).mp resolved with ⟨cookie, stored, carries, -⟩
      simp only [reduceCtorEq, false_iff, not_not]
      exact ⟨cookie, stored, carries⟩
  | error fault =>
      rw [sessionCredential_refuses resolved]
      simp only [true_iff]
      rintro ⟨cookie, stored, carries⟩
      have found := (login.sessionCredential_iff _).mpr ⟨cookie, stored, carries, rfl⟩
      rw [resolved] at found
      cases found

/-! ## Time passing -/

/-- The clock has not been put back, and no other cookie is stored. -/
structure Ages (earlier later : Login σ) : Prop where
  tool : later.tool = earlier.tool
  cookie : Storage.cookie? later.storage = Storage.cookie? earlier.storage
  clock : earlier.clock ≤ later.clock

theorem SameGrounds.ages (same : later.SameGrounds earlier) : earlier.Ages later :=
  ⟨same.tool, same.cookie, le_of_eq same.clock.symm⟩

theorem Ages.refl (login : Login σ) : login.Ages login :=
  ⟨rfl, rfl, le_refl _⟩

theorem Ages.trans {last : Login σ} (first : earlier.Ages later) (second : later.Ages last) :
    earlier.Ages last :=
  ⟨second.tool.trans first.tool, second.cookie.trans first.cookie,
    le_trans first.clock second.clock⟩

theorem beginLogin_ages (login : Login σ) : login.Ages login.beginLogin := by
  unfold Login.beginLogin
  split
  · exact ⟨moveTo_tool _ _, congrArg Storage.cookie? (moveTo_storage _ _),
      le_of_eq (moveTo_clock _ _).symm⟩
  · exact .refl login

theorem withClock_ages (login : Login σ) {clock : Int} (later : login.clock ≤ clock) :
    login.Ages (login.withClock clock) :=
  ⟨rfl, rfl, later⟩

/-- A session that has ended does not come back with time. -/
theorem Ages.hasSession (ages : earlier.Ages later) (ended : earlier.hasSession = false) :
    later.hasSession = false := by
  rw [← Bool.not_eq_true] at ended ⊢
  intro found
  rcases carries_of_hasSession found with ⟨cookie, stored, carries⟩
  rw [ages.cookie] at stored
  rw [ages.tool] at carries
  exact ended (hasSession_of_carries stored (carries.earlier ages.clock))

end Login

/-! ## Attempts while time passes -/

namespace Desk

variable {σ : Type} [Storage σ]

theorem beginAttempt_login (desk : Desk σ) (values : FormValues) :
    (desk.beginAttempt values).1.login = desk.login := by
  cases locked : desk.form.locked with
  | true => rw [beginAttempt_of_locked values locked]
  | false =>
      simp only [beginAttempt, lock?_of_unlocked locked]
      split
      · rfl
      · split <;> rfl

omit [Storage σ] in
theorem cancel_login (desk : Desk σ) (attempt : Attempt) :
    (desk.cancel attempt).1.login = desk.login := by
  unfold cancel
  split <;> rfl

/-- All that an attempt ever writes is a field. -/
theorem step_sameGrounds (apart : Storage.FieldsApart σ) (desk : Desk σ) (attempt : Attempt)
    (reply : Reply) : (desk.step attempt reply).1.login.SameGrounds desk.login := by
  cases attempt with
  | readingFile values path =>
      simp only [step, afterFile]
      split
      · exact ⟨rfl, rfl, rfl⟩
      · split <;> exact ⟨rfl, rfl, rfl⟩
  | recalling submission =>
      simp only [step, afterRecall]
      split <;> exact ⟨rfl, rfl, rfl⟩
  | remembering submission entries => exact ⟨rfl, apart _ _ _ _, rfl⟩
  | working errand =>
      simp only [step, afterReply]
      split <;> exact ⟨rfl, rfl, rfl⟩
  | «over» outcome | crashed => exact ⟨rfl, rfl, rfl⟩

end Desk

/-- From outside the clock may go on and anything may be changed, but not the cookie. -/
def Move.Spares {σ : Type} [Storage σ] (login : Login σ) : Move σ → Prop
  | .outside later _ _ _ => login.Ages later
  | _ => True

namespace Crowd

variable {σ : Type} [Storage σ] {crowd : Crowd σ}

/-- Nobody puts the clock back or writes the cookie while these moves are made. -/
def Undisturbed (crowd : Crowd σ) : List (Move σ) → Prop
  | [] => True
  | move :: rest => move.Spares crowd.desk.login ∧ (crowd.move move).Undisturbed rest

theorem move_ages (apart : Storage.FieldsApart σ) {move : Move σ}
    (spares : move.Spares crowd.desk.login) :
    crowd.desk.login.Ages (crowd.move move).desk.login := by
  cases move with
  | enter values =>
      rw [show (crowd.move (.enter values)).desk = (crowd.desk.beginAttempt values).1 from rfl,
        Desk.beginAttempt_login]
      exact .refl _
  | proceed number reply =>
      simp only [Crowd.move]
      split
      · exact .refl _
      · exact (Desk.step_sameGrounds apart crowd.desk _ reply).ages
  | callOff number =>
      simp only [Crowd.move]
      split
      · exact .refl _
      · rename_i attempt waiting
        rw [show (crowd.settle number _ _ _).desk = (crowd.desk.cancel attempt).1 from rfl,
          Desk.cancel_login]
        exact .refl _
  | outside login mode manual layout => exact spares

theorem run_ages (apart : Storage.FieldsApart σ) {moves : List (Move σ)}
    (undisturbed : crowd.Undisturbed moves) :
    crowd.desk.login.Ages (crowd.run moves).desk.login := by
  induction moves generalizing crowd with
  | nil => exact .refl _
  | cons move rest induction =>
      exact (move_ages apart undisturbed.1).trans (induction undisturbed.2)

theorem run_append (crowd : Crowd σ) (first second : List (Move σ)) :
    crowd.run (first ++ second) = (crowd.run first).run second :=
  List.foldl_append

theorem Undisturbed.before {first second : List (Move σ)}
    (undisturbed : crowd.Undisturbed (first ++ second)) : crowd.Undisturbed first := by
  induction first generalizing crowd with
  | nil => trivial
  | cons move rest induction => exact ⟨undisturbed.1, induction undisturbed.2⟩

/-- An attempt that begins in session mode without a session never asks for a job, whatever
happens afterwards. -/
theorem creates_nothing {start : Desk σ} {before rest : List (Move σ)} (values : FormValues)
    (mode : ((opened start).run before).desk.mode = .session)
    (ended : ((opened start).run before).desk.login.hasSession = false) (submission : Submission) :
    (((opened start).run before).seats.length, .create submission) ∉
      ((opened start).run (before ++ .enter values :: rest)).calls := by
  intro called
  have spans : Spans start (before ++ .enter values :: rest)
      ((opened start).run before).seats.length ((opened start).run before).desk
      ((opened start).run (before ++ .enter values :: [])).desk :=
    ⟨before, values, [], rest, by simp, rfl, rfl, rfl⟩
  rcases (accounted_run start _).calls _ submission called with
    ⟨first, last, other, authenticates⟩
  cases other.first_eq spans
  rcases authenticates.resolve mode with ⟨cookie, resolved, -⟩
  rw [(Login.resolveCredential_refused_iff _ _).mpr ended] at resolved
  cases resolved

/-- For every stored cookie there is one bound: before it a login is ready in session mode, and
from then on it is not. Without a cookie it never is. So once a session cannot be used any more,
whether it is asked for or looked at, it stays so while nobody saves another cookie or puts the
clock back: however many attempts go on meanwhile, and whatever else changes, it is refused, no
look at it finds the user logged in, and no attempt that is then begun in session mode ever asks
for a job. -/
theorem ended_session_stays_ended (apart : Storage.FieldsApart σ) :
    (∀ (login : Login σ) cookie, Storage.cookie? login.storage = some cookie →
      ∀ now manual, (login.withClock now).readiness .session manual = true ↔
        Deadline.ofTime now < cookie.ends login.tool.provider) ∧
    (∀ login : Login σ, Storage.cookie? login.storage = none →
      ∀ now manual, (login.withClock now).readiness .session manual = false) ∧
    ∀ (start : Desk σ) before after,
      let earlier := (opened start).run before
      let later := earlier.run after
      earlier.Undisturbed after →
      (∃ manual, earlier.desk.login.readiness .session manual = false ∨
        earlier.desk.login.resolveCredential .session manual = .error .notLoggedIn) →
      (∀ manual, later.desk.login.readiness .session manual = false ∧
        later.desk.login.resolveCredential .session manual = .error .notLoggedIn) ∧
      later.desk.login.refresh.state ≠ .loggedIn ∧
      (later.desk.mode = .session → ∀ values further submission,
        (later.seats.length, .create submission) ∉
          (later.run (.enter values :: further)).calls) := by
  refine ⟨?bound, ?none, ?run⟩
  case bound =>
    intro login cookie stored now manual
    have stored : Storage.cookie? (login.withClock now).storage = some cookie := stored
    exact Login.readiness_session_iff stored manual
  case none =>
    intro login nothing now manual
    rw [← Bool.not_eq_true]
    intro ready
    have found : (login.withClock now).hasSession = true := ready
    rcases Login.carries_of_hasSession found with ⟨cookie, stored, -⟩
    rw [show Storage.cookie? (login.withClock now).storage = none from nothing] at stored
    cases stored
  case run =>
    intro start before after earlier later undisturbed unusable
    have ended : earlier.desk.login.hasSession = false := by
      rcases unusable with ⟨manual, notReady | refused⟩
      · exact notReady
      · exact (Login.resolveCredential_refused_iff _ manual).mp refused
    have still : later.desk.login.hasSession = false :=
      (run_ages apart undisturbed).hasSession ended
    refine ⟨fun manual => ⟨still, (Login.resolveCredential_refused_iff _ manual).mpr still⟩,
      ?state, ?jobs⟩
    case state =>
      rw [ne_eq, Login.refresh_loggedIn_iff, still]
      exact Bool.false_ne_true
    case jobs =>
      intro mode values further submission
      have joined : later = (opened start).run (before ++ after) := (run_append _ _ _).symm
      rw [joined] at mode still ⊢
      rw [← run_append]
      exact creates_nothing values mode still submission

/-- A cookie expires before the session in it. The second it does, a look finds nobody logged in,
and even after a trip to the provider an attempt is refused. -/
theorem ended_session_stays_ended_cookieFirst :
    let raw := "eyJnb29nbGVfYWNjZXNzX3Rva2VuIjoidCIsImdvb2dsZV9hY2Nlc3NfdG9rZW5fZXhwaXJlcyI6MTcwMDAwMDEwMH0="
    let cookie : Cookie := ⟨raw, some 1700000050⟩
    let login : Login MemoryStorage :=
      { tool := .googleDocs
        settings := ⟨"", "", "", "", none⟩
        storage := ⟨some cookie, ⟨[]⟩, ⟨[]⟩⟩
        clock := 1700000049
        browserOpens := true
        state := .loggedIn
        changes := 1 }
    let desk : Desk MemoryStorage :=
      ⟨login, .initial, .session, .absent, .standard, ⟨fun text => text, fun text => text⟩⟩
    let outside (login : Login MemoryStorage) : Move MemoryStorage :=
      .outside login .session .absent .hidden
    let ended := login.withClock 1700000050
    let before := [outside ended]
    let after := [outside ended.refresh, outside (ended.refresh.beginLogin.withClock 1700000060)]
    let values : FormValues := ⟨"Write a summary", "", "", false, []⟩
    let earlier := (opened desk).run before
    let later := earlier.run after
    login.readiness .session .absent = true ∧
      cookie.ends login.tool.provider = .ofTime 1700000050 ∧
      earlier.desk.login.readiness .session .absent = false ∧
      earlier.Undisturbed after ∧
      later.desk.login.state = .awaitingCallback ∧
      later.desk.login.refresh.state ≠ .loggedIn ∧
      ∀ further submission, (0, .create submission) ∉
        (later.run (.enter values :: further)).calls := by
  intro raw cookie login desk outside ended before after values earlier later
  rcases ended_session_stays_ended Storage.fieldsApart_memory with ⟨bound, -, lasts⟩
  have ready : login.readiness .session .absent = true := by decide +kernel
  have ends : cookie.ends login.tool.provider = .ofTime 1700000050 := by decide +kernel
  have notReady : earlier.desk.login.readiness .session .absent = false := by
    rw [← Bool.not_eq_true]
    intro stillReady
    have less := (bound ended cookie rfl 1700000050 .absent).mp stillReady
    rw [show cookie.ends ended.tool.provider = .ofTime 1700000050 from ends] at less
    exact lt_irrefl _ less
  have undisturbed : earlier.Undisturbed after := by
    have looked : ended.Ages ended.refresh := ended.refresh_sameGrounds.ages
    have left := ended.refresh.beginLogin_ages.trans
      (ended.refresh.beginLogin.withClock_ages (by decide +kernel : _ ≤ (1700000060 : Int)))
    exact ⟨looked, left, trivial⟩
  rcases lasts desk before after undisturbed ⟨.absent, .inl notReady⟩ with ⟨-, away, refused⟩
  have awaits : later.desk.login.state = .awaitingCallback := by decide +kernel
  exact ⟨ready, ends, notReady, undisturbed, awaits, away, refused rfl values⟩

end Crowd

end PromptClient
