import PromptClient.Attempt
import PromptClient.Proofs.Events

/-! # Steps of an attempt

An attempt holds the form's lock from its beginning until it is over, and by the point
where it waits one knows what it has shown. -/

namespace PromptClient

/-- What an attempt has shown at the point where it is. Only one that has come to an end by
itself has shown more than that it is under way. -/
def Attempt.HasShown : Attempt → List Notice → Prop
  | .readingFile _ _, shown => shown = []
  | .recalling _, shown => shown = []
  | .remembering _ _, shown => shown = []
  | .working _, shown => shown = [.status loadingText]
  | .crashed, shown => shown = [.status loadingText]
  | .over _, _ => True

namespace Desk

variable {σ : Type}

/-! ## The lock -/

/-- The desk with its form locked or not. -/
def withLock (desk : Desk σ) (locked : Bool) : Desk σ :=
  { desk with form := { desk.form with locked := locked } }

theorem withLock_self {desk : Desk σ} {locked : Bool} (already : desk.form.locked = locked) :
    desk.withLock locked = desk := by
  subst already
  rfl

/-! The lock bears on nothing but the form. -/

@[simp] theorem withLock_login (desk : Desk σ) (locked : Bool) :
    (desk.withLock locked).login = desk.login := rfl

@[simp] theorem withLock_mode (desk : Desk σ) (locked : Bool) :
    (desk.withLock locked).mode = desk.mode := rfl

@[simp] theorem withLock_manual (desk : Desk σ) (locked : Bool) :
    (desk.withLock locked).manual = desk.manual := rfl

@[simp] theorem withLock_tool (desk : Desk σ) (locked : Bool) :
    (desk.withLock locked).tool = desk.tool := rfl

@[simp] theorem withLock_policy (desk : Desk σ) (locked : Bool) :
    (desk.withLock locked).policy = desk.policy := rfl

@[simp] theorem withLock_presenter (desk : Desk σ) (locked : Bool) :
    (desk.withLock locked).presenter = desk.presenter := rfl

@[simp] theorem withLock_storage (desk : Desk σ) (locked : Bool) :
    (desk.withLock locked).storage = desk.storage := rfl

@[simp] theorem withStorage_policy (desk : Desk σ) (storage : σ) :
    (desk.withStorage storage).policy = desk.policy := rfl

@[simp] theorem withStorage_presenter (desk : Desk σ) (storage : σ) :
    (desk.withStorage storage).presenter = desk.presenter := rfl

@[simp] theorem withStorage_form (desk : Desk σ) (storage : σ) :
    (desk.withStorage storage).form = desk.form := rfl

/-- The storage bears on the form as little as the lock does on the storage. -/
theorem withLock_withStorage (desk : Desk σ) (storage : σ) (locked : Bool) :
    (desk.withLock locked).withStorage storage =
      (desk.withStorage storage).withLock locked := rfl

theorem withLock_withLock (desk : Desk σ) (first second : Bool) :
    (desk.withLock first).withLock second = desk.withLock second := rfl

theorem lock?_of_locked {desk : Desk σ} (locked : desk.form.locked = true) :
    desk.lock? = none := by
  simp [lock?, Form.lock?, locked]

theorem lock?_of_unlocked {desk : Desk σ} (unlocked : desk.form.locked = false) :
    desk.lock? =
      some (desk.withLock true, [.form (desk.withLock true).form.snapshot]) := by
  simp [lock?, Form.lock?, unlocked, withLock]

theorem unlock_eq (desk : Desk σ) :
    desk.unlock = (desk.withLock false, [.form (desk.withLock false).form.snapshot]) :=
  rfl

/-! ## What a step leaves behind -/

/-- A step of an attempt that had shown so much: the form stays locked exactly until the
attempt is over, which is when the lock is given back, and the attempt has shown what
belongs to the point it has reached. -/
structure Keeps (shown : List Notice) (result : Desk σ × List Event × Attempt) : Prop where
  locked : result.1.form.locked = !result.2.2.isOver
  gives : Event.locks result.2.1 = if result.2.2.isOver then [false] else []
  shows : result.2.2.HasShown (shown ++ Event.notices result.2.1)

theorem refuse_keeps (desk : Desk σ) (shown : List Notice) (fault : ValidationFault) :
    Keeps shown (desk.refuse fault) :=
  ⟨rfl, rfl, trivial⟩

theorem conclude_keeps (desk : Desk σ) (shown : List Notice)
    (outcome : Except Failure String) : Keeps shown (desk.conclude outcome) :=
  ⟨rfl, rfl, trivial⟩

theorem abandon_keeps (desk : Desk σ) : Keeps [.status loadingText] desk.abandon :=
  ⟨rfl, rfl, rfl⟩

theorem accept_keeps {desk : Desk σ} (locked : desk.form.locked = true)
    (submission : Submission) : Keeps [] (desk.accept submission) :=
  ⟨locked, rfl, rfl⟩

theorem send_keeps {desk : Desk σ} (locked : desk.form.locked = true)
    (submission : Submission) : Keeps [] (desk.send submission) :=
  ⟨locked, rfl, rfl⟩

/-- While its errand is not over, an attempt only passes on what the errand does. -/
theorem afterReply_of_waiting (desk : Desk σ) {errand : Errand}
    (waiting : errand.isOver = false) :
    desk.afterReply errand =
      (desk, (errand.event? desk.policy).toList.map .ofErrand, .working errand) := by
  cases errand with
  | creating submission | asking job waited | resting job waited => rfl
  | finished job outcome => cases waiting
  | crashed => cases waiting

theorem afterReply_keeps {desk : Desk σ} (locked : desk.form.locked = true)
    (errand : Errand) : Keeps [.status loadingText] (desk.afterReply errand) := by
  cases waiting : errand.isOver with
  | false =>
      rw [desk.afterReply_of_waiting waiting]
      exact ⟨locked, by simp [Attempt.isOver], by simp [Attempt.HasShown]⟩
  | true =>
      cases errand with
      | creating submission | asking job waited | resting job waited => cases waiting
      | finished job outcome => exact conclude_keeps desk _ outcome
      | crashed => exact abandon_keeps desk

variable [Storage σ]

theorem afterFile_keeps {desk : Desk σ} (locked : desk.form.locked = true)
    (values : FormValues) (path : String) : Keeps [] (desk.afterFile values path) := by
  unfold afterFile
  split
  · exact refuse_keeps desk [] _
  · split
    · exact refuse_keeps desk [] _
    · exact accept_keeps locked _

theorem afterRecall_keeps {desk : Desk σ} (locked : desk.form.locked = true)
    (submission : Submission) : Keeps [] (desk.afterRecall submission) := by
  by_cases blank : Prompt.normalize submission.prompt = ""
  · simp only [afterRecall, blank, if_true]
    exact send_keeps locked submission
  · simp only [afterRecall, blank, if_false]
    exact ⟨locked, rfl, rfl⟩

theorem afterRemember_keeps {desk : Desk σ} (locked : desk.form.locked = true)
    (submission : Submission) (entries : List String) :
    Keeps [] (desk.afterRemember submission entries) := by
  have kept : (desk.withStorage (History.store desk.storage desk.tool.storageSpace
      entries)).form.locked = true := locked
  exact send_keeps kept submission

/-- Whatever an attempt waits for and whatever comes, its step leaves things in order. -/
theorem step_keeps {desk : Desk σ} {attempt : Attempt} {shown : List Notice}
    (locked : desk.form.locked = true) (waiting : attempt.isOver = false)
    (sofar : attempt.HasShown shown) (reply : Reply) :
    Keeps shown (desk.step attempt reply) := by
  cases attempt with
  | readingFile values path =>
      rw [show shown = [] from sofar]
      exact afterFile_keeps locked values path
  | recalling submission =>
      rw [show shown = [] from sofar]
      exact afterRecall_keeps locked submission
  | remembering submission entries =>
      rw [show shown = [] from sofar]
      exact afterRemember_keeps locked submission entries
  | working errand =>
      rw [show shown = [.status loadingText] from sofar]
      exact afterReply_keeps locked _
  | «over» outcome => cases waiting
  | crashed => cases waiting

/-- What an attempt has come to that has been let in: nothing has been asked of the backend
yet. -/
structure LetIn (result : Desk σ × List Event × Attempt) : Prop where
  keeps : Keeps [] result
  quiet : Event.calls result.2.1 = []
  admitted : result.2.2 ≠ .over (.error .busy)

omit [Storage σ] in
theorem refuse_letIn (desk : Desk σ) (fault : ValidationFault) :
    LetIn (desk.refuse fault) :=
  ⟨refuse_keeps desk [] fault, rfl, by simp [refuse]⟩

omit [Storage σ] in
theorem accept_letIn {desk : Desk σ} (locked : desk.form.locked = true)
    (submission : Submission) : LetIn (desk.accept submission) :=
  ⟨accept_keeps locked submission, rfl, by simp [accept]⟩

/-- An attempt on an unlocked form takes the lock and is let in. -/
theorem beginAttempt_of_unlocked {desk : Desk σ} (values : FormValues)
    (unlocked : desk.form.locked = false) :
    ∃ result, LetIn result ∧
      desk.beginAttempt values =
        (result.1, .form (desk.withLock true).form.snapshot :: result.2.1, result.2.2) := by
  have taken := lock?_of_unlocked unlocked
  have locked : (desk.withLock true).form.locked = true := rfl
  simp only [beginAttempt, taken]
  split
  · exact ⟨_, refuse_letIn _ _, rfl⟩
  · split
    · exact ⟨_, refuse_letIn _ _, rfl⟩
    · exact ⟨(desk.withLock true, [], .readingFile values _),
        ⟨⟨locked, rfl, rfl⟩, rfl, by simp⟩, rfl⟩
    · exact ⟨_, accept_letIn locked _, rfl⟩

theorem beginAttempt_of_locked {desk : Desk σ} (values : FormValues)
    (locked : desk.form.locked = true) :
    desk.beginAttempt values = (desk, [], .over (.error .busy)) := by
  simp [beginAttempt, lock?_of_locked locked]

end Desk

end PromptClient
