import PromptClient.Proofs.Crowd
import PromptClient.Proofs.FormUse
import PromptClient.Proofs.Judgement

/-! # The form of a desk in use

Attempts lock the form of a desk and unlock it, others may lock it as well, and meanwhile the
layout follows the choices of the user and the session. All of this comes down to what may be done
to a form, so its view is up to date at any time. The layout itself is what the last choice and the
session make of it, whatever there has been before. -/

namespace PromptClient

/-- What the view of a form is given, in order. -/
def Event.snapshots (events : List Event) : List FormSnapshot :=
  events.filterMap fun
    | .form snapshot => some snapshot
    | _ => none

@[simp] theorem Event.snapshots_ofErrand (events : List ErrandEvent) :
    snapshots (events.map ofErrand) = [] := by
  induction events with
  | nil => rfl
  | cons event rest induction =>
      cases event <;> simpa [snapshots, ofErrand] using induction

@[simp] theorem Event.snapshots_form (shown : List FormSnapshot) :
    snapshots (shown.map .form) = shown := by
  simp [snapshots, List.filterMap_map]

/-! ## What an attempt does to the form -/

namespace Desk

variable {σ : Type}

/-- A step leaves the form alone, but for giving the lock back if the attempt is over then. -/
structure Returns (desk : Desk σ) (result : Desk σ × List Event × Attempt) : Prop where
  form : result.1.form = if result.2.2.isOver then desk.form.unlock else desk.form
  shows : Event.snapshots result.2.1 =
    if result.2.2.isOver then [desk.form.unlock.snapshot] else []

theorem refuse_returns (desk : Desk σ) (fault : ValidationFault) :
    desk.Returns (desk.refuse fault) :=
  ⟨rfl, rfl⟩

theorem conclude_returns (desk : Desk σ) (outcome : Except Failure String) :
    desk.Returns (desk.conclude outcome) :=
  ⟨rfl, rfl⟩

theorem abandon_returns (desk : Desk σ) : desk.Returns desk.abandon :=
  ⟨rfl, rfl⟩

theorem accept_returns (desk : Desk σ) (submission : Submission) :
    desk.Returns (desk.accept submission) :=
  ⟨rfl, rfl⟩

theorem send_returns (desk : Desk σ) (submission : Submission) :
    desk.Returns (desk.send submission) :=
  ⟨rfl, rfl⟩

theorem afterReply_returns (desk : Desk σ) (errand : Errand) :
    desk.Returns (desk.afterReply errand) := by
  cases errand with
  | creating submission | asking job waited | resting job waited =>
      exact ⟨rfl, Event.snapshots_ofErrand _⟩
  | finished job outcome => exact desk.conclude_returns outcome
  | crashed => exact desk.abandon_returns

variable [Storage σ]

theorem afterFile_returns (desk : Desk σ) (values : FormValues) (path : String) :
    desk.Returns (desk.afterFile values path) := by
  unfold afterFile
  split
  · exact desk.refuse_returns _
  · split
    · exact desk.refuse_returns _
    · exact desk.accept_returns _

theorem afterRecall_returns (desk : Desk σ) (submission : Submission) :
    desk.Returns (desk.afterRecall submission) := by
  simp only [afterRecall]
  split
  · exact desk.send_returns submission
  · exact ⟨rfl, rfl⟩

theorem afterRemember_returns (desk : Desk σ) (submission : Submission)
    (entries : List String) : desk.Returns (desk.afterRemember submission entries) :=
  ⟨rfl, rfl⟩

theorem step_returns (desk : Desk σ) {attempt : Attempt} (waiting : attempt.isOver = false)
    (reply : Reply) : desk.Returns (desk.step attempt reply) := by
  cases attempt with
  | readingFile values path => exact desk.afterFile_returns values path
  | recalling submission => exact desk.afterRecall_returns submission
  | remembering submission entries => exact desk.afterRemember_returns submission entries
  | working errand => exact desk.afterReply_returns _
  | «over» outcome => cases waiting
  | crashed => cases waiting

/-- An attempt on an unlocked form locks it first. -/
theorem beginAttempt_returns {desk : Desk σ} (values : FormValues)
    (unlocked : desk.form.locked = false) :
    ∃ result, (desk.withLock true).Returns result ∧
      desk.beginAttempt values =
        (result.1, .form (desk.withLock true).form.snapshot :: result.2.1, result.2.2) := by
  simp only [beginAttempt, lock?_of_unlocked unlocked]
  split
  · exact ⟨_, refuse_returns _ _, rfl⟩
  · split
    · exact ⟨_, refuse_returns _ _, rfl⟩
    · exact ⟨(desk.withLock true, [], .readingFile values _), ⟨rfl, rfl⟩, rfl⟩
    · exact ⟨_, accept_returns _ _, rfl⟩

/-! ## Choices -/

/-- What precedes a look at the layout. -/
inductive Choice
  | mode (mode : CredentialMode)
  | manual (manual : ManualCredential)
  | nothing

def choose (desk : Desk σ) : Choice → Desk σ × List Event
  | .mode mode => desk.setMode mode
  | .manual manual => desk.setManual manual
  | .nothing => desk.refreshLayout

/-- After a choice the layout is what mode, session and secret make of it. -/
theorem choose_layout (desk : Desk σ) (choice : Choice) :
    (desk.choose choice).1.form.layout =
      .derive (desk.choose choice).1.mode (desk.choose choice).1.login.hasSession
        (desk.choose choice).1.manual.isPresent := by
  cases choice <;> rfl

/-- A choice does to the form what a layout does. -/
theorem choose_form (desk : Desk σ) (choice : Choice) :
    ∃ layout, (desk.choose choice).1.form = desk.form.withLayout layout ∧
      Event.snapshots (desk.choose choice).2 = desk.form.shownFor layout := by
  cases choice <;> exact ⟨_, rfl, Event.snapshots_form _⟩

end Desk

/-! ## Any number of attempts, and others -/

/-- A desk with attempts on it. Its form may be locked by others than the attempts. -/
structure Reception (σ : Type) where
  crowd : Crowd σ
  /-- The guards held otherwise than by an attempt. -/
  kept : Nat
  /-- What the view of the form has been given, in order. -/
  rendered : List FormSnapshot

inductive Doing (σ : Type)
  | enter (values : FormValues)
  | proceed (number : Nat) (reply : Reply)
  | callOff (number : Nat)
  | lock
  | drop
  | setLayout (layout : CredentialLayout)
  | choose (choice : Desk.Choice)
  /-- Cookie, time and the rest of the login change from outside. -/
  | outside (login : Login σ)

namespace Reception

variable {σ : Type}

def opened (desk : Desk σ) : Reception σ := ⟨Crowd.opened desk, 0, []⟩

def desk (reception : Reception σ) : Desk σ := reception.crowd.desk

/-- How many guards are held, by attempts that wait for something or otherwise. -/
def guards (reception : Reception σ) : Nat :=
  reception.crowd.seats.countP (·.waiting?.isSome) + reception.kept

/-- The form by itself. -/
def use (reception : Reception σ) : FormUse :=
  ⟨reception.desk.form, reception.guards, reception.rendered⟩

/-- Go on with a crowd in which something more has been seen. -/
def attend (reception : Reception σ) (crowd : Crowd σ) : Reception σ :=
  let news := (crowd.seen.drop reception.crowd.seen.length).map (·.2)
  { reception with
    crowd := crowd
    rendered := reception.rendered ++ Event.snapshots news }

/-- Go on with the desk as it is after some events. -/
def withDesk (reception : Reception σ) (result : Desk σ × List Event) : Reception σ :=
  { reception with
    crowd := { reception.crowd with desk := result.1 }
    rendered := reception.rendered ++ Event.snapshots result.2 }

variable [Storage σ]

def act (reception : Reception σ) : Doing σ → Reception σ
  | .enter values => reception.attend (reception.crowd.move (.enter values))
  | .proceed number reply => reception.attend (reception.crowd.move (.proceed number reply))
  | .callOff number => reception.attend (reception.crowd.move (.callOff number))
  | .lock =>
      match reception.desk.lock? with
      | none => reception
      | some result => { reception.withDesk result with kept := reception.kept + 1 }
  | .drop =>
      match reception.kept with
      | 0 => reception
      | kept + 1 => { reception.withDesk reception.desk.unlock with kept := kept }
  | .setLayout layout => reception.withDesk (reception.desk.setLayout layout)
  | .choose choice => reception.withDesk (reception.desk.choose choice)
  | .outside login => reception.withDesk (reception.desk.onLogin fun _ => login, [])

def run (reception : Reception σ) (doings : List (Doing σ)) : Reception σ :=
  doings.foldl act reception

/-! ## The form by itself -/

section Attending

omit [Storage σ]

variable {reception : Reception σ} {after : Crowd σ} {number : Nat} {events : List Event}
  {seat : Seat}

theorem attend_use (acted : reception.crowd.ActedAt number events seat after) :
    (reception.attend after).use =
      ⟨after.desk.form, after.seats.countP (·.waiting?.isSome) + reception.kept,
        reception.rendered ++ Event.snapshots events⟩ := by
  have news : (after.seen.drop reception.crowd.seen.length).map (·.2) = events := by
    rw [acted.seen, List.drop_left, Event.mark, List.map_map]
    exact List.map_id events
  simp only [attend, news, use, guards, desk]

theorem withDesk_use (reception : Reception σ) (result : Desk σ × List Event) :
    (reception.withDesk result).use =
      ⟨result.1.form, reception.guards, reception.rendered ++ Event.snapshots result.2⟩ := rfl

theorem move_lock_use (unlocked : reception.desk.form.locked = false) :
    reception.use.move .lock =
      ⟨(reception.desk.withLock true).form, reception.guards + 1,
        reception.rendered ++ [(reception.desk.withLock true).form.snapshot]⟩ := by
  simp [FormUse.move, use, Form.lock?, unlocked, Desk.withLock]

/-- Whoever waits for something holds a guard, and may hold it no longer afterwards. -/
theorem guards_settle {crowd : Crowd σ} {attempt : Attempt}
    (waits : crowd.waiting? number = some attempt) (desk : Desk σ) (events : List Event)
    (seat : Seat) :
    ∃ others, crowd.seats.countP (·.waiting?.isSome) = others + 1 ∧
      (crowd.settle number desk events seat).seats.countP (·.waiting?.isSome) =
        others + if seat.waiting?.isSome then 1 else 0 := by
  rcases Crowd.seat_of_waiting waits with ⟨sits, waiting⟩
  rcases List.getElem?_eq_some_iff.mp sits with ⟨known, found⟩
  have present : (crowd.seats[number]).waiting?.isSome = true := by
    rw [found, Seat.waiting?_taken_isSome, waiting]
    rfl
  have some : 0 < crowd.seats.countP (·.waiting?.isSome) :=
    List.countP_pos_iff.mpr ⟨_, List.getElem_mem known, present⟩
  refine ⟨crowd.seats.countP (·.waiting?.isSome) - 1, by omega, ?_⟩
  simp only [Crowd.settle]
  rw [List.countP_set known, if_pos present]

end Attending

theorem enter_use (reception : Reception σ) (values : FormValues) :
    ∃ moves, (reception.act (.enter values)).use = reception.use.run moves := by
  cases locked : reception.desk.form.locked with
  | true =>
      have acted := reception.crowd.join_acted reception.crowd.desk [] .busy
      refine ⟨[], ?_⟩
      rw [act, Crowd.move_enter_of_locked values locked, attend_use acted]
      simp [Crowd.join, Seat.busy, Seat.waiting?, Attempt.isOver, Event.snapshots, FormUse.run, use,
        guards, desk]
  | false =>
      rcases Desk.beginAttempt_returns values locked with ⟨result, returns, begun⟩
      have moved : reception.crowd.move (.enter values) = reception.crowd.join result.1
          (.form (reception.desk.withLock true).form.snapshot :: result.2.1)
          (.taken result.2.2) := by
        simp only [Crowd.move]
        rw [show reception.crowd.desk.beginAttempt values = _ from begun]
      have taken := move_lock_use locked
      have held : (reception.use.move .lock).guards = reception.guards + 1 := by rw [taken]
      refine ⟨.lock :: if result.2.2.isOver then [.drop] else [], ?_⟩
      have shown : Event.snapshots
          (.form (reception.desk.withLock true).form.snapshot :: result.2.1) =
            (reception.desk.withLock true).form.snapshot :: Event.snapshots result.2.1 := rfl
      rw [act, moved, attend_use (reception.crowd.join_acted _ _ _), FormUse.run, List.foldl_cons,
        ← FormUse.run, FormUse.run_drop_if held, taken, shown]
      have seated : (Seat.taken result.2.2).waiting?.isSome = !result.2.2.isOver :=
        Seat.waiting?_taken_isSome _
      simp only [Crowd.join, returns.form, returns.shows, List.countP_append, List.countP_singleton,
        seated, FormUse.mk.injEq, guards, List.append_assoc, List.singleton_append, and_true,
        true_and]
      cases result.2.2.isOver with
      | false =>
          simp
          omega
      | true => simp

omit [Storage σ] in
/-- An attempt that has waited gives the lock back if it does not wait any longer. -/
theorem settle_use {reception : Reception σ} {number : Nat} {attempt : Attempt}
    (waits : reception.crowd.waiting? number = some attempt) {desk : Desk σ}
    {events : List Event} {seat : Seat} (ends : Bool)
    (form : desk.form = if ends then reception.desk.form.unlock else reception.desk.form)
    (shows : Event.snapshots events = if ends then [reception.desk.form.unlock.snapshot] else [])
    (leaves : seat.waiting?.isSome = !ends) :
    (reception.attend (reception.crowd.settle number desk events seat)).use =
      reception.use.run (if ends then [.drop] else []) := by
  have waiting : reception.crowd.Waits number := by simp [Crowd.Waits, waits]
  have acted := Crowd.settle_acted waiting.lt_length desk events seat
  rcases guards_settle waits desk events seat with ⟨others, before, after⟩
  have held : reception.use.guards = (others + reception.kept) + 1 := by
    simp only [use, guards, before]
    omega
  rw [attend_use acted, FormUse.run_drop_if held, after, shows, leaves]
  simp only [Crowd.settle, form]
  cases ends with
  | false =>
      have count : others + 1 + reception.kept = others + reception.kept + 1 := by omega
      simp [use, count]
  | true => simp [use]

theorem proceed_use (reception : Reception σ) (number : Nat) (reply : Reply) :
    ∃ moves, (reception.act (.proceed number reply)).use = reception.use.run moves := by
  cases waits : reception.crowd.waiting? number with
  | none =>
      refine ⟨[], ?_⟩
      simp [act, Crowd.move, waits, attend, Event.snapshots, use, guards, desk, FormUse.run]
  | some attempt =>
      have waiting := (Crowd.seat_of_waiting waits).2
      have returns := reception.desk.step_returns waiting reply
      have moved : reception.crowd.move (.proceed number reply) =
          reception.crowd.settle number (reception.desk.step attempt reply).1
            (reception.desk.step attempt reply).2.1
            (.taken (reception.desk.step attempt reply).2.2) := by
        simp only [Crowd.move, waits]
        rfl
      rw [act, moved]
      exact ⟨_, settle_use waits _ returns.form returns.shows (Seat.waiting?_taken_isSome _)⟩

theorem callOff_use (reception : Reception σ) (number : Nat) :
    ∃ moves, (reception.act (.callOff number)).use = reception.use.run moves := by
  cases waits : reception.crowd.waiting? number with
  | none =>
      refine ⟨[], ?_⟩
      simp [act, Crowd.move, waits, attend, Event.snapshots, use, guards, desk, FormUse.run]
  | some attempt =>
      have waiting := (Crowd.seat_of_waiting waits).2
      have moved : reception.crowd.move (.callOff number) =
          reception.crowd.settle number reception.desk.unlock.1 reception.desk.unlock.2
            .calledOff := by
        simp only [Crowd.move, waits, Desk.cancel, waiting]
        rfl
      rw [act, moved]
      exact ⟨_, settle_use waits true rfl rfl rfl⟩

/-- Whatever is done at a desk comes down to what may be done to a form. -/
theorem act_use (reception : Reception σ) (doing : Doing σ) :
    ∃ moves, (reception.act doing).use = reception.use.run moves := by
  cases doing with
  | enter values => exact reception.enter_use values
  | proceed number reply => exact reception.proceed_use number reply
  | callOff number => exact reception.callOff_use number
  | lock =>
      refine ⟨[.lock], ?_⟩
      cases locked : reception.desk.form.locked with
      | true =>
          simp [act, Desk.lock?, FormUse.run, FormUse.move, use, Form.lock?, locked]
      | false =>
          rw [act, Desk.lock?_of_unlocked locked, FormUse.run, List.foldl_cons, move_lock_use locked]
          rfl
  | drop =>
      cases kept : reception.kept with
      | zero =>
          refine ⟨[], ?_⟩
          rw [act, kept]
          rfl
      | succ rest =>
          have held : reception.use.guards =
              (reception.crowd.seats.countP (·.waiting?.isSome) + rest) + 1 := by
            simp only [use, guards, kept, Nat.add_assoc]
          refine ⟨[.drop], ?_⟩
          rw [act, kept, FormUse.run, List.foldl_cons, FormUse.move, held]
          rfl
  | setLayout layout =>
      refine ⟨[.setLayout layout], ?_⟩
      rw [act, Desk.setLayout, withDesk_use, Event.snapshots_form]
      rfl
  | choose choice =>
      rcases reception.desk.choose_form choice with ⟨layout, form, shown⟩
      refine ⟨[.setLayout layout], ?_⟩
      rw [act, withDesk_use, form, shown]
      rfl
  | outside login =>
      refine ⟨[], ?_⟩
      rw [act, withDesk_use]
      simp [Event.snapshots, FormUse.run, use, Desk.onLogin]

theorem run_use (doings : List (Doing σ)) :
    ∀ reception : Reception σ, ∃ moves, (reception.run doings).use = reception.use.run moves := by
  induction doings with
  | nil => exact fun reception => ⟨[], rfl⟩
  | cons doing rest induction =>
      intro reception
      rcases reception.act_use doing with ⟨first, acted⟩
      rcases induction (reception.act doing) with ⟨later, ran⟩
      refine ⟨first ++ later, ?_⟩
      rw [FormUse.run_append, ← acted]
      exact ran

/-! ## The view and the layout -/

/-- In whatever order the form is locked, given back and laid out, there is one guard at the most,
and the form is locked exactly while there is one: nobody gets another meanwhile, and nothing is
shown for it. Lock and layout leave each other alone, and together they decide whether a job may
be submitted. The view has been given the form as it is now, or nothing at all as long as the form
is as at first, and never the same twice in a row. All of that holds of the form of a desk with any
number of attempts on it, for whatever is done there comes down to the same. After a choice the
layout is what the mode, the session and the secret make of it; so it is the same on any two desks
where these are the same, whatever has been done before. -/
theorem run_shows :
    (∀ moves, let use := FormUse.opened.run moves
      use.Sound ∧
      (0 < use.guards → use.form.lock? = none ∧ use.move .lock = use) ∧
      (∀ layout, (use.move (.setLayout layout)).form.locked = use.form.locked) ∧
      (use.move .lock).form.layout = use.form.layout ∧
      (use.move .drop).form.layout = use.form.layout ∧
      use.form.canSubmit = (!use.form.locked && use.form.layout.submitReady)) ∧
    ∀ (desk : Desk σ) doings, desk.form = .initial →
      let reception := (opened desk).run doings
      (∃ moves, reception.use = FormUse.opened.run moves) ∧
      ∀ choice, let chosen := (reception.act (.choose choice)).desk
        chosen.form.layout =
          .derive chosen.mode chosen.login.hasSession chosen.manual.isPresent ∧
        ∀ (other : Desk σ) others another,
          let rival := (((opened other).run others).act (.choose another)).desk
          rival.mode = chosen.mode → rival.manual = chosen.manual →
          rival.login.SameGrounds chosen.login → rival.form.layout = chosen.form.layout := by
  refine ⟨?form, ?desks⟩
  case form =>
    intro moves use
    have sound : use.Sound := FormUse.opened_sound.run moves
    exact ⟨sound, sound.refuses, use.move_setLayout_locked, use.move_lock_layout,
      use.move_drop_layout, rfl⟩
  case desks =>
    intro desk doings fresh reception
    refine ⟨?_, ?_⟩
    · rcases run_use doings (opened desk) with ⟨moves, ran⟩
      have start : (opened desk).use = FormUse.opened := by
        simp [use, opened, Reception.desk, Crowd.opened, guards, fresh, FormUse.opened]
      rw [start] at ran
      exact ⟨moves, ran⟩
    · intro choice chosen
      have layout : chosen.form.layout =
          .derive chosen.mode chosen.login.hasSession chosen.manual.isPresent :=
        reception.desk.choose_layout choice
      refine ⟨layout, ?_⟩
      intro other others another rival mode manual same
      have rivalLayout : rival.form.layout =
          .derive rival.mode rival.login.hasSession rival.manual.isPresent :=
        ((opened other).run others).desk.choose_layout another
      rw [rivalLayout, layout, mode, manual, same.hasSession]

/-- A token is taken back while a job is being submitted with it, and somebody else would like to
have the lock. The layout is that of a form on which there never was a token. -/
theorem run_shows_withdrawn :
    let desk : Desk MemoryStorage :=
      ⟨⟨.slackChannel, ⟨"", "", "", "", none⟩, ⟨none, ⟨[]⟩, ⟨[]⟩⟩, 0, true, .loggedOut, 0⟩,
        .initial, .session, .absent, .standard, ⟨fun text => text, fun text => text⟩⟩
    let values : FormValues := ⟨"What is new?", "", "", false, []⟩
    let doings : List (Doing MemoryStorage) :=
      [.choose (.mode .manual), .choose (.manual (.token "xoxp-1")), .enter values, .lock]
    let reception := (opened desk).run doings
    let chosen := (reception.act (.choose (.manual .absent))).desk
    let rival := (((opened desk).run []).act (.choose (.mode .manual))).desk
    reception.guards = 1 ∧ reception.use.form.lock? = none ∧
      reception.use.move .lock = reception.use ∧
      chosen.form.locked = true ∧ rival.form.locked = false ∧
      rival.form.layout = chosen.form.layout := by
  intro desk values doings reception chosen rival
  rcases run_shows (σ := MemoryStorage) with ⟨forms, desks⟩
  rcases desks desk doings rfl with ⟨⟨moves, same⟩, choices⟩
  have one : reception.guards = 1 := by decide +kernel
  have held : 0 < reception.use.guards := Nat.lt_of_lt_of_eq Nat.zero_lt_one one.symm
  have refuses : 0 < reception.use.guards →
      reception.use.form.lock? = none ∧ reception.use.move .lock = reception.use := by
    rw [same]
    exact (forms moves).2.1
  have grounds : rival.login.SameGrounds chosen.login :=
    ⟨by decide +kernel, by decide +kernel, by decide +kernel⟩
  have layout := (choices (.manual .absent)).2 desk [] (.mode .manual) (by decide +kernel)
    (by decide +kernel) grounds
  exact ⟨one, (refuses held).1, (refuses held).2, by decide +kernel, by decide +kernel, layout⟩

end Reception

end PromptClient
