import PromptClient.Proofs.Login
import PromptClient.Rehearsal.Stage

/-! # Keeping the layout up

While the session is looked at from time to time, the layout is derived again after every
change of the login state. The session can come and go without such a change, and then a look
at it leaves the layout as it was. -/

namespace PromptClient

/-- What may happen to a desk at rest. -/
inductive Occurrence (σ : Type)
  /-- Somebody else writes the cookie, or anything else in the storage. -/
  | storageChanges (storage : σ)
  | clockShows (clock : Int)
  | beginLogin (opens : Bool)
  | completeLogin (value : String)
  | logout
  | setMode (mode : CredentialMode)
  | setManual (manual : ManualCredential)
  | refreshLayout
  /-- The session is looked at. -/
  | tick (time : Nat)

/-- Derives the layout whether or not the login state changes. -/
def Occurrence.derives {σ : Type} : Occurrence σ → Bool
  | .setMode _ | .setManual _ | .refreshLayout => true
  | _ => false

/-! ## Layouts -/

/-- A layout shows whether there was a session when it was derived. -/
theorem CredentialLayout.derive_inj (mode : CredentialMode) (manualPresent : Bool)
    {first second : Bool} :
    derive mode first manualPresent = derive mode second manualPresent ↔ first = second := by
  constructor
  · intro equal
    exact congrArg logoutVisible equal
  · intro equal
    rw [equal]

theorem CredentialLayout.derive_session_submitReady (loggedIn manualPresent : Bool) :
    (derive .session loggedIn manualPresent).submitReady = loggedIn := by
  simp [derive]

namespace Stage

variable {σ : Type} [Storage σ]

/-! ## Occurrences -/

def undergo (stage : Stage σ) : Occurrence σ → Stage σ
  | .storageChanges storage => stage.onLogin fun login => { login with storage := storage }
  | .clockShows clock => stage.onLogin fun login => login.withClock clock
  | .beginLogin opens =>
      stage.onLogin fun login => { login with browserOpens := opens }.beginLogin
  | .completeLogin value => stage.onLogin fun login => login.completeLogin value
  | .logout => stage.onLogin Login.logout
  | .setMode mode => (stage.onDesk fun desk => desk.setMode mode).1
  | .setManual manual => (stage.onDesk fun desk => desk.setManual manual).1
  | .refreshLayout => (stage.onDesk Desk.refreshLayout).1
  | .tick time => stage.tick time

/-- What happens, and then the layout follows the login. -/
def occur (stage : Stage σ) (occurrence : Occurrence σ) : Stage σ :=
  (stage.undergo occurrence).follow.1

def live (stage : Stage σ) (occurrences : List (Occurrence σ)) : Stage σ :=
  occurrences.foldl occur stage

/-- There was a session when the layout was last derived, given the same from before. -/
def lookAfter (stage : Stage σ) (look : Bool) (occurrence : Occurrence σ) : Bool :=
  let login := (stage.undergo occurrence).desk.login
  if occurrence.derives ||
      (stage.refresher.isSome && login.changes ≠ stage.desk.login.changes) then
    login.hasSession
  else look

def lastLook (stage : Stage σ) (look : Bool) : List (Occurrence σ) → Bool
  | [] => look
  | occurrence :: rest => lastLook (stage.occur occurrence) (stage.lookAfter look occurrence) rest

/-- A moment of a rehearsal at which nothing but a look at the session is due. -/
theorem playMoment_of_idle {stage : Stage σ} (limit : Nat) {moment : Nat}
    (idle : stage.work = none) (due : isWithin moment stage.tickTime? = true) :
    (stage.playMoment limit moment).1 =
      { stage with time := max stage.time moment }.occur (.tick limit) := by
  rcases stage with ⟨desk, script, time, work, task, ended, refresher, held⟩
  have idle : work = none := idle
  subst idle
  have due : isWithin moment ((refresher.bind (·.ticker)).map Clockwork.Ticker.nextTime) :=
    due
  simp only [playMoment, tickTime?, due, if_true, occur, undergo, tick]

/-! ## Following -/

theorem follow_of_none {stage : Stage σ} (absent : stage.refresher = none) :
    stage.follow = (stage, []) := by
  simp [follow, absent]

theorem follow_of_seen {stage : Stage σ} {refresher : Refresher}
    (present : stage.refresher = some refresher)
    (seen : refresher.seen = stage.desk.login.changes) : stage.follow = (stage, []) := by
  simp [follow, present, seen]

theorem follow_of_changed {stage : Stage σ} {refresher : Refresher}
    (present : stage.refresher = some refresher)
    (changed : refresher.seen ≠ stage.desk.login.changes) :
    stage.follow.1 =
      { stage with
        refresher := some { refresher with seen := stage.desk.login.changes }
        desk := stage.desk.refreshLayout.1 } := by
  simp [follow, present, changed, onDesk]

/-- Following changes nothing but the layout. -/
theorem follow_login (stage : Stage σ) : stage.follow.1.desk.login = stage.desk.login := by
  cases present : stage.refresher with
  | none => rw [follow_of_none present]
  | some refresher =>
      by_cases seen : refresher.seen = stage.desk.login.changes
      · rw [follow_of_seen present seen]
      · rw [follow_of_changed present seen]
        rfl

theorem follow_refresher_isSome (stage : Stage σ) :
    stage.follow.1.refresher.isSome = stage.refresher.isSome := by
  cases present : stage.refresher with
  | none => rw [follow_of_none present, present]
  | some refresher =>
      by_cases seen : refresher.seen = stage.desk.login.changes
      · rw [follow_of_seen present seen, present]
      · rw [follow_of_changed present seen]
        rfl

/-! ## The invariant -/

/-- The layout fits the mode and the manual credential and is as old as the last look, and it
has followed every change of the login so far. -/
structure Follows (stage : Stage σ) (look : Bool) : Prop where
  layout : stage.desk.form.layout =
    CredentialLayout.derive stage.desk.mode look stage.desk.manual.isPresent
  seen : ∀ refresher, stage.refresher = some refresher →
    refresher.seen = stage.desk.login.changes

theorem start_follows (login : Login σ) (policy : PollPolicy) (presenter : Presenter)
    (script : Script) :
    (start (Desk.start login policy presenter).1 script).Follows login.hasSession :=
  ⟨rfl, fun _ present => by cases present⟩

omit [Storage σ] in
theorem spawnRefresh_follows {stage : Stage σ} {look : Bool} (follows : stage.Follows look)
    (period : Duration) : (stage.spawnRefresh period).Follows look where
  layout := follows.layout
  seen := by
    intro refresher present
    have equal := Option.some_inj.mp present
    rw [← equal]
    rfl

/-- Once the layout has followed, it is as old as the last look. -/
theorem follow_follows {stage : Stage σ} {look : Bool} {changes : Nat}
    (layout : stage.desk.form.layout =
      CredentialLayout.derive stage.desk.mode look stage.desk.manual.isPresent)
    (seen : ∀ refresher, stage.refresher = some refresher → refresher.seen = changes) :
    stage.follow.1.Follows
      (if stage.refresher.isSome && stage.desk.login.changes ≠ changes then
        stage.desk.login.hasSession
      else look) := by
  cases present : stage.refresher with
  | none =>
      rw [follow_of_none present]
      exact ⟨layout, fun _ impossible => by rw [present] at impossible; cases impossible⟩
  | some refresher =>
      have known := seen refresher present
      subst known
      by_cases same : refresher.seen = stage.desk.login.changes
      · rw [follow_of_seen present same]
        refine ⟨?_, ?_⟩
        · simp only [same, ne_eq, not_true, decide_false, Bool.and_false]
          exact layout
        · intro other found
          have equal := Option.some_inj.mp (present.symm.trans found)
          rw [← equal]
          exact same
      · rw [follow_of_changed present same]
        refine ⟨?_, ?_⟩
        · simp only [Option.isSome_some, Bool.true_and, decide_eq_true (Ne.symm same), if_true]
          rfl
        · intro other found
          have equal := Option.some_inj.mp found
          rw [← equal]
          rfl

theorem undergo_of_derives (stage : Stage σ) {occurrence : Occurrence σ}
    (derives : occurrence.derives = true) :
    (stage.undergo occurrence).desk.form.layout =
      (stage.undergo occurrence).desk.derivedLayout := by
  cases occurrence with
  | setMode mode | setManual manual | refreshLayout => rfl
  | storageChanges storage | clockShows clock | beginLogin opens | completeLogin value
  | logout | tick time => cases derives

/-- What does not derive the layout changes the login alone. -/
theorem undergo_of_not_derives (stage : Stage σ) {occurrence : Occurrence σ}
    (derives : occurrence.derives = false) :
    (stage.undergo occurrence).desk.form = stage.desk.form ∧
    (stage.undergo occurrence).desk.mode = stage.desk.mode ∧
    (stage.undergo occurrence).desk.manual = stage.desk.manual := by
  cases occurrence with
  | setMode mode | setManual manual | refreshLayout => cases derives
  | storageChanges storage | clockShows clock | beginLogin opens | completeLogin value
  | logout | tick time => exact ⟨rfl, rfl, rfl⟩

theorem undergo_refresher (stage : Stage σ) (occurrence : Occurrence σ) :
    (stage.undergo occurrence).refresher.map (·.seen) = stage.refresher.map (·.seen) := by
  cases occurrence with
  | tick time =>
      simp only [undergo, tick, Option.map_map]
      rfl
  | setMode mode | setManual manual | refreshLayout => rfl
  | storageChanges storage | clockShows clock | beginLogin opens | completeLogin value
  | logout => rfl

theorem undergo_refresher_isSome (stage : Stage σ) (occurrence : Occurrence σ) :
    (stage.undergo occurrence).refresher.isSome = stage.refresher.isSome := by
  have equal := congrArg Option.isSome (stage.undergo_refresher occurrence)
  rwa [Option.isSome_map, Option.isSome_map] at equal

theorem undergo_seen {stage : Stage σ} {look : Bool} (follows : stage.Follows look)
    (occurrence : Occurrence σ) :
    ∀ refresher, (stage.undergo occurrence).refresher = some refresher →
      refresher.seen = stage.desk.login.changes := by
  intro refresher present
  have equal := stage.undergo_refresher occurrence
  rw [present, Option.map_some] at equal
  obtain ⟨before, found, same⟩ := Option.map_eq_some_iff.mp equal.symm
  rw [← same]
  exact follows.seen before found

theorem occur_follows {stage : Stage σ} {look : Bool} (follows : stage.Follows look)
    (occurrence : Occurrence σ) :
    (stage.occur occurrence).Follows (stage.lookAfter look occurrence) := by
  have seen := undergo_seen follows occurrence
  cases derives : occurrence.derives with
  -- Having derived the layout from the session as it is, following it finds nothing newer.
  | true =>
      have layout := undergo_of_derives stage derives
      have after := follow_follows layout seen
      rw [ite_self] at after
      simpa only [occur, lookAfter, derives, Bool.true_or, if_true] using after
  | false =>
      obtain ⟨form, mode, manual⟩ := undergo_of_not_derives stage derives
      have layout : (stage.undergo occurrence).desk.form.layout =
          CredentialLayout.derive (stage.undergo occurrence).desk.mode look
            (stage.undergo occurrence).desk.manual.isPresent := by
        rw [form, mode, manual]
        exact follows.layout
      have after := follow_follows layout seen
      rw [undergo_refresher_isSome] at after
      simpa only [occur, lookAfter, derives, Bool.false_or] using after

theorem live_follows {stage : Stage σ} {look : Bool} (follows : stage.Follows look)
    (occurrences : List (Occurrence σ)) :
    (stage.live occurrences).Follows (stage.lastLook look occurrences) := by
  induction occurrences generalizing stage look with
  | nil => exact follows
  | cons occurrence rest induction => exact induction (occur_follows follows occurrence)

theorem live_refresher_isSome (stage : Stage σ) (occurrences : List (Occurrence σ)) :
    (stage.live occurrences).refresher.isSome = stage.refresher.isSome := by
  induction occurrences generalizing stage with
  | nil => rfl
  | cons occurrence rest induction =>
      calc
        _ = (stage.occur occurrence).refresher.isSome := induction _
        _ = (stage.undergo occurrence).refresher.isSome := follow_refresher_isSome _
        _ = stage.refresher.isSome := stage.undergo_refresher_isSome occurrence

/-! ## Looks at the session -/

theorem occur_tick_login (stage : Stage σ) (time : Nat) :
    (stage.occur (.tick time)).desk.login = stage.desk.login.refresh :=
  follow_login _

theorem lookAfter_tick {stage : Stage σ} (watched : stage.refresher.isSome = true)
    (look : Bool) (time : Nat) :
    stage.lookAfter look (.tick time) =
      if stage.desk.login.state = stage.desk.login.derivedState then look
      else stage.desk.login.hasSession := by
  have login : (stage.undergo (.tick time)).desk.login = stage.desk.login.refresh := rfl
  simp only [lookAfter, login, watched, Occurrence.derives, Bool.false_or, Bool.true_and,
    ne_eq, Login.refresh_changes, Login.refresh_hasSession]
  by_cases same : stage.desk.login.state = stage.desk.login.derivedState
  · simp [same]
  · simp [same]

/-- Whatever has happened to a desk whose session is looked at from time to time, right after
such a look the layout is current exactly if the look has changed the login state or the
session is as it was when the layout was last derived. So where the session counts and has
expired, the form stays ready to submit exactly if the layout was derived from a session and
the state was not that of being logged in. -/
theorem tick_current_iff (login : Login σ) (policy : PollPolicy) (presenter : Presenter)
    (script : Script) (earlier later : List (Occurrence σ)) (period : Duration) (time : Nat) :
    let opened := start (Desk.start login policy presenter).1 script
    let watched := (opened.live earlier).spawnRefresh period
    let look := watched.lastLook (opened.lastLook login.hasSession earlier) later
    let before := watched.live later
    let after := before.occur (.tick time)
    (after.desk.form.layout = after.desk.derivedLayout ↔
      before.desk.login.state ≠ before.desk.login.derivedState ∨
        look = before.desk.login.hasSession) ∧
    (after.desk.mode = .session → after.desk.login.hasSession = false →
      (after.desk.form.layout.submitReady = true ↔
        before.desk.login.state ≠ .loggedIn ∧ look = true)) := by
  intro opened watched look before after
  have opens : opened.Follows login.hasSession := start_follows login policy presenter script
  have follows : before.Follows look :=
    live_follows (spawnRefresh_follows (live_follows opens earlier) period) later
  have present : before.refresher.isSome = true := live_refresher_isSome watched later
  have layout := (occur_follows follows (.tick time)).layout
  rw [lookAfter_tick present] at layout
  have session : after.desk.login.hasSession = before.desk.login.hasSession := by
    rw [show after.desk.login = _ from occur_tick_login before time]
    exact Login.refresh_hasSession _
  refine ⟨?current, ?expired⟩
  case current =>
    rw [show after.desk.form.layout = _ from layout, Desk.derivedLayout, session,
      CredentialLayout.derive_inj]
    by_cases same : before.desk.login.state = before.desk.login.derivedState
    · simp [same]
    · simp [same]
  case expired =>
    intro mode expired
    rw [session] at expired
    rw [show after.desk.form.layout = _ from layout, mode,
      CredentialLayout.derive_session_submitReady, expired]
    simp only [Login.derivedState_of_expired expired]
    by_cases loggedIn : before.desk.login.state = .loggedIn
    · simp [loggedIn]
    · simp [loggedIn]

/-- A session that expires while the user is on the way to the provider leaves the form
ready to submit after the next look at it. -/
theorem tick_leaves_expired_session :
    let login : Login MemoryStorage := Login.start .googleDocs ⟨"", "", "", "", none⟩
      ⟨some (.lasting "eyJnb29nbGVfYWNjZXNzX3Rva2VuIjoidCIsImdvb2dsZV9hY2Nlc3NfdG9rZW5fZXhwaXJlcyI6MTcwMDAwMDEwMH0="),
        ⟨[]⟩, ⟨[]⟩⟩ 1700000000 true
    let opened := (start (Desk.start login .standard ⟨fun text => text, fun text => text⟩).1
      default).spawnRefresh (Duration.ofSeconds 60)
    let after := (opened.live [.beginLogin true, .clockShows 1700000200]).occur (.tick 61000)
    after.desk.mode = .session ∧ after.desk.login.hasSession = false ∧
      after.desk.form.layout.submitReady = true ∧
      after.desk.form.layout ≠ after.desk.derivedLayout := by
  decide +kernel

end Stage

end PromptClient
