import Mathlib.Data.List.Induction
import PromptClient.Proofs.Crowd
import PromptClient.Proofs.Secrets

/-! # Jobs vouched for

However many attempts go on side by side, and however the world around changes meanwhile,
whatever job is asked for carries the credential of the time when its attempt began. -/

namespace PromptClient

/-! ## Sending only what is vouched for -/

/-- What is still to be sent is vouched for, and what is still to be read has been chosen. -/
def Attempt.Bears (vouched : Submission → Prop) (chosen : String → Prop) : Attempt → Prop
  | .readingFile _ path => chosen path
  | .recalling submission => vouched submission
  | .remembering submission _ => vouched submission
  | _ => True

theorem Attempt.Bears.imp {vouched granted : Submission → Prop} {chosen picked : String → Prop}
    {attempt : Attempt} (bears : attempt.Bears vouched chosen)
    (grants : ∀ submission, vouched submission → granted submission)
    (picks : ∀ path, chosen path → picked path) : attempt.Bears granted picked := by
  cases attempt with
  | readingFile values path => exact picks path bears
  | recalling submission | remembering submission entries => exact grants submission bears
  | working errand | «over» outcome | crashed => trivial

namespace Desk

variable {σ : Type} {vouched : Submission → Prop} {chosen : String → Prop}

/-- A step sends nothing that is not vouched for, and leaves nothing else to be sent. -/
structure Sends (vouched : Submission → Prop) (chosen : String → Prop)
    (result : Desk σ × List Event × Attempt) : Prop where
  bears : result.2.2.Bears vouched chosen
  creations : ∀ submission ∈ Event.creations result.2.1, vouched submission

theorem refuse_sends (desk : Desk σ) (fault : ValidationFault) :
    Sends vouched chosen (desk.refuse fault) :=
  ⟨trivial, by simp [refuse, unlock]⟩

theorem accept_sends (desk : Desk σ) {submission : Submission} (good : vouched submission) :
    Sends vouched chosen (desk.accept submission) :=
  ⟨good, by simp [accept]⟩

theorem send_sends (desk : Desk σ) {submission : Submission} (good : vouched submission) :
    Sends vouched chosen (desk.send submission) := by
  refine ⟨trivial, ?_⟩
  intro other found
  have same : other = submission := by simpa [send] using found
  rw [same]
  exact good

theorem afterReply_sends (desk : Desk σ) {errand : Errand}
    (begun : ∀ submission, errand ≠ .creating submission) :
    Sends vouched chosen (desk.afterReply errand) := by
  cases errand with
  | creating submission => exact absurd rfl (begun submission)
  | asking job waited | resting job waited | finished job outcome | crashed =>
      refine ⟨trivial, ?_⟩
      simp [afterReply, conclude, abandon, unlock, Errand.event?, Event.ofErrand]

variable [Storage σ]

theorem step_sends {desk : Desk σ} {attempt : Attempt} (bears : attempt.Bears vouched chosen)
    (reads : ∀ values path content, chosen path →
      Storage.readText desk.storage path = .ok content → Text.isAllBlank content = false →
      vouched (submissionWith desk.tool values (.file content))) (reply : Reply) :
    Sends vouched chosen (desk.step attempt reply) := by
  cases attempt with
  | readingFile values path =>
      simp only [step, afterFile]
      cases read : Storage.readText desk.storage path with
      | error fault => exact desk.refuse_sends _
      | ok content =>
          cases full : Text.isAllBlank content with
          | true => simpa [full] using desk.refuse_sends _
          | false =>
              simpa [full] using desk.accept_sends (reads values path content bears read full)
  | recalling submission =>
      simp only [step, afterRecall]
      split
      · exact desk.send_sends bears
      · exact ⟨bears, by simp⟩
  | remembering submission entries => exact send_sends _ bears
  | working errand => exact desk.afterReply_sends (Errand.next_ne_creating desk.policy errand reply)
  | «over» outcome => exact ⟨trivial, by simp [step]⟩
  | crashed => exact ⟨trivial, by simp [step]⟩

theorem beginAttempt_sends {desk : Desk σ} {values : FormValues}
    (resolves : ∀ credential,
      desk.login.resolveCredential desk.mode desk.manual = .ok credential →
      (∀ path, credential ≠ .file path) → vouched (submissionWith desk.tool values credential))
    (chooses : ∀ path,
      desk.login.resolveCredential desk.mode desk.manual = .ok (.file path) → chosen path) :
    Sends vouched chosen (desk.beginAttempt values) := by
  cases locked : desk.form.locked with
  | true =>
      rw [beginAttempt_of_locked values locked]
      exact ⟨trivial, by simp⟩
  | false =>
      simp only [beginAttempt, lock?_of_unlocked locked]
      split
      · exact ⟨trivial, by simp [refuse, unlock]⟩
      · split
        · exact ⟨trivial, by simp [refuse, unlock]⟩
        · rename_i path resolved
          exact ⟨chooses path resolved, by simp⟩
        · rename_i credential notFile resolved
          refine ⟨resolves credential resolved fun path same => notFile path same, ?_⟩
          simp [accept]

end Desk

/-! ## Any number of submissions -/

namespace Crowd

variable {σ : Type} [Storage σ]

theorem run_concat (crowd : Crowd σ) (moves : List (Move σ)) (last : Move σ) :
    crowd.run (moves ++ [last]) = (crowd.run moves).move last := by
  simp [run]

/-- The attempt at a number was begun on the desk as it was at first, and some moves later the
desk was as it was at last. -/
def Spans (start : Desk σ) (moves : List (Move σ)) (number : Nat) (first last : Desk σ) : Prop :=
  ∃ before values between after, moves = before ++ .enter values :: between ++ after ∧
    ((opened start).run before).seats.length = number ∧
    ((opened start).run before).desk = first ∧
    ((opened start).run (before ++ .enter values :: between)).desk = last

def Vouched (start : Desk σ) (moves : List (Move σ)) (number : Nat) (submission : Submission) :
    Prop :=
  ∃ first last, Spans start moves number first last ∧ first.Authenticates last submission

def Chosen (start : Desk σ) (moves : List (Move σ)) (number : Nat) (path : String) : Prop :=
  ∃ first last, Spans start moves number first last ∧
    first.login.resolveCredential first.mode first.manual = .ok (.file path)

variable {start first last : Desk σ} {moves : List (Move σ)} {number : Nat} {move : Move σ}

theorem spans_enter (start : Desk σ) (moves : List (Move σ)) (values : FormValues) :
    ∃ last, Spans start (moves ++ [.enter values]) ((opened start).run moves).seats.length
      ((opened start).run moves).desk last :=
  ⟨_, moves, values, [], [], by simp, rfl, rfl, rfl⟩

theorem Spans.later (spans : Spans start moves number first last) (move : Move σ) :
    Spans start (moves ++ [move]) number first last := by
  obtain ⟨before, values, between, after, rfl, begun, same, stood⟩ := spans
  exact ⟨before, values, between, after ++ [move], by simp, begun, same, stood⟩

theorem Spans.now (spans : Spans start moves number first last) :
    Spans start moves number first ((opened start).run moves).desk := by
  obtain ⟨before, values, between, after, rfl, begun, same, -⟩ := spans
  exact ⟨before, values, between ++ after, [], by simp, begun, same, by simp⟩

theorem Vouched.later {submission : Submission}
    (vouched : Vouched start moves number submission) (move : Move σ) :
    Vouched start (moves ++ [move]) number submission := by
  obtain ⟨first, last, spans, good⟩ := vouched
  exact ⟨first, last, spans.later move, good⟩

theorem Chosen.later {path : String} (chosen : Chosen start moves number path) (move : Move σ) :
    Chosen start (moves ++ [move]) number path := by
  obtain ⟨first, last, spans, resolved⟩ := chosen
  exact ⟨first, last, spans.later move, resolved⟩

theorem bears_later {attempt : Attempt}
    (bears : attempt.Bears (Vouched start moves number) (Chosen start moves number))
    (move : Move σ) :
    attempt.Bears (Vouched start (moves ++ [move]) number)
      (Chosen start (moves ++ [move]) number) :=
  bears.imp (fun _ vouched => vouched.later move) fun _ chosen => chosen.later move

/-- Whatever has been sent or is still to be sent is vouched for. -/
structure Accounted (start : Desk σ) (moves : List (Move σ)) : Prop where
  bears : ∀ number (attempt : Attempt),
    ((opened start).run moves).seats[number]? = some (.taken attempt) →
    attempt.Bears (Vouched start moves number) (Chosen start moves number)
  calls : ∀ number submission, (number, .create submission) ∈ ((opened start).run moves).calls →
    Vouched start moves number submission

theorem Accounted.stays (accounted : Accounted start moves)
    (seats : (((opened start).run moves).move move).seats = ((opened start).run moves).seats)
    (seen : (((opened start).run moves).move move).seen = ((opened start).run moves).seen) :
    Accounted start (moves ++ [move]) where
  bears := by
    intro number attempt sits
    rw [run_concat, seats] at sits
    exact bears_later (accounted.bears number attempt sits) move
  calls := by
    intro number submission found
    rw [run_concat, Crowd.calls, seen] at found
    exact (accounted.calls number submission found).later move

theorem Accounted.acts (accounted : Accounted start moves) {events : List Event} {seat : Seat}
    (acted : ((opened start).run moves).ActedAt number events seat
      (((opened start).run moves).move move))
    (bears : ∀ attempt, seat = .taken attempt →
      attempt.Bears (Vouched start (moves ++ [move]) number)
        (Chosen start (moves ++ [move]) number))
    (sends : ∀ submission ∈ Event.creations events,
      Vouched start (moves ++ [move]) number submission) :
    Accounted start (moves ++ [move]) where
  bears := by
    intro other attempt sits
    rw [run_concat] at sits
    by_cases same : other = number
    · subst same
      rw [acted.here] at sits
      exact bears attempt (Option.some.inj sits)
    · rw [acted.others other same] at sits
      exact bears_later (accounted.bears other attempt sits) move
  calls := by
    intro other submission found
    rw [run_concat, acted.calls_eq] at found
    rcases List.mem_append.mp found with before | now
    · exact (accounted.calls other submission before).later move
    · obtain ⟨request, made, same⟩ := List.mem_map.mp now
      cases same
      exact sends submission (Event.mem_creations.mpr made)

theorem Accounted.enter (accounted : Accounted start moves) (values : FormValues) :
    Accounted start (moves ++ [.enter values]) := by
  obtain ⟨last, spans⟩ := spans_enter start moves values
  have sends : Desk.Sends
      (Vouched start (moves ++ [.enter values]) ((opened start).run moves).seats.length)
      (Chosen start (moves ++ [.enter values]) ((opened start).run moves).seats.length)
      (((opened start).run moves).desk.beginAttempt values) := by
    apply Desk.beginAttempt_sends
    · intro credential resolved notFile
      exact ⟨_, last, spans, Desk.authenticates_of_credential values resolved notFile last⟩
    · exact fun path resolved => ⟨_, last, spans, resolved⟩
  refine accounted.acts (join_acted _ _ _ _) ?_ sends.creations
  intro attempt same
  cases same
  exact sends.bears

theorem Accounted.proceed (accounted : Accounted start moves) (number : Nat) (reply : Reply) :
    Accounted start (moves ++ [.proceed number reply]) := by
  cases found : ((opened start).run moves).waiting? number with
  | none =>
      have idle : ((opened start).run moves).move (.proceed number reply) =
          (opened start).run moves := by
        simp only [Crowd.move, found]
      exact accounted.stays (by rw [idle]) (by rw [idle])
  | some attempt =>
      obtain ⟨sits, -⟩ := seat_of_waiting found
      have known := (List.getElem?_eq_some_iff.mp sits).1
      have bears := (accounted.bears number attempt sits).imp
        (fun _ vouched => vouched.later (.proceed number reply)) fun _ chosen => chosen
      -- A file is read on the desk as it is now, before the move.
      have reads : ∀ values path content, Chosen start moves number path →
          Storage.readText ((opened start).run moves).desk.storage path = .ok content →
          Text.isAllBlank content = false →
          Vouched start (moves ++ [.proceed number reply]) number
            (Desk.submissionWith ((opened start).run moves).desk.tool values
              (.file content)) := by
        intro values path content chosen read full
        obtain ⟨first, last, spans, resolved⟩ := chosen
        exact ⟨first, _, spans.now.later _, Desk.authenticates_of_file values resolved read full⟩
      have sends := Desk.step_sends bears reads reply
      have moved : ((opened start).run moves).move (.proceed number reply) =
          ((opened start).run moves).settle number
            (((opened start).run moves).desk.step attempt reply).1
            (((opened start).run moves).desk.step attempt reply).2.1
            (.taken (((opened start).run moves).desk.step attempt reply).2.2) := by
        simp only [Crowd.move, found]
      refine accounted.acts (moved ▸ settle_acted known _ _ _) ?_ sends.creations
      intro next same
      cases same
      exact sends.bears.imp (fun _ vouched => vouched) fun _ chosen => chosen.later _

theorem Accounted.callOff (accounted : Accounted start moves) (number : Nat) :
    Accounted start (moves ++ [.callOff number]) := by
  cases found : ((opened start).run moves).waiting? number with
  | none =>
      have idle : ((opened start).run moves).move (.callOff number) =
          (opened start).run moves := by
        simp only [Crowd.move, found]
      exact accounted.stays (by rw [idle]) (by rw [idle])
  | some attempt =>
      obtain ⟨sits, waiting⟩ := seat_of_waiting found
      have known := (List.getElem?_eq_some_iff.mp sits).1
      have moved : ((opened start).run moves).move (.callOff number) =
          ((opened start).run moves).settle number
            (((opened start).run moves).desk.cancel attempt).1
            (((opened start).run moves).desk.cancel attempt).2 .calledOff := by
        simp only [Crowd.move, found]
      refine accounted.acts (moved ▸ settle_acted known _ _ _) ?_ ?_
      · intro next same
        cases same
      · simp [Desk.cancel, waiting, Desk.unlock]

theorem accounted_run (start : Desk σ) (moves : List (Move σ)) : Accounted start moves := by
  induction moves using List.reverseRecOn with
  | nil =>
      refine ⟨?_, ?_⟩
      · intro number attempt sits
        cases sits
      · intro number submission found
        cases found
  | append_singleton moves move accounted =>
      cases move with
      | enter values => exact accounted.enter values
      | proceed number reply => exact accounted.proceed number reply
      | callOff number => exact accounted.callOff number
      | outside login mode manual layout => exact accounted.stays rfl rfl

end Crowd

end PromptClient
