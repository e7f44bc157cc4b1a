import PromptClient.Desk

/-! # Reading what was seen

What a run of a desk shows the user and asks of the backend, picked out of its events. -/

namespace PromptClient

/-- The submission that a call sends. -/
def BackendCall.creation? : BackendCall → Option Submission
  | .create submission => some submission
  | .fetch _ => none

namespace Event

def notice? : Event → Option Notice
  | .notice shown => some shown
  | _ => none

def call? : Event → Option BackendCall
  | .call request => some request
  | _ => none

/-- The form's lock has been taken or given back. -/
def lock? : Event → Option Bool
  | .form snapshot => some (!snapshot.controlsEnabled)
  | _ => none

/-- What the user is shown, in order. -/
def notices (events : List Event) : List Notice :=
  events.filterMap notice?

/-- What the backend is asked, in order. -/
def calls (events : List Event) : List BackendCall :=
  events.filterMap call?

/-- Where the lock was taken and where it was given back, in order. -/
def locks (events : List Event) : List Bool :=
  events.filterMap lock?

/-- The submissions sent, in order. -/
def creations (events : List Event) : List Submission :=
  (calls events).filterMap BackendCall.creation?

/-- All that is seen of a desk except the form itself. -/
def besidesForm (events : List Event) : List Event :=
  events.filter fun
    | .form _ => false
    | _ => true

@[simp] theorem notices_append (first second : List Event) :
    notices (first ++ second) = notices first ++ notices second :=
  List.filterMap_append

@[simp] theorem calls_append (first second : List Event) :
    calls (first ++ second) = calls first ++ calls second :=
  List.filterMap_append

@[simp] theorem locks_append (first second : List Event) :
    locks (first ++ second) = locks first ++ locks second :=
  List.filterMap_append

@[simp] theorem creations_append (first second : List Event) :
    creations (first ++ second) = creations first ++ creations second := by
  simp [creations]

@[simp] theorem creations_nil : creations [] = [] := rfl

@[simp] theorem creations_notice (shown : Notice) (events : List Event) :
    creations (.notice shown :: events) = creations events := rfl

@[simp] theorem creations_form (snapshot : FormSnapshot) (events : List Event) :
    creations (.form snapshot :: events) = creations events := rfl

@[simp] theorem creations_create (submission : Submission) (events : List Event) :
    creations (.call (.create submission) :: events) = submission :: creations events := rfl

@[simp] theorem creations_fetch (key : String) (events : List Event) :
    creations (.call (.fetch key) :: events) = creations events := rfl

@[simp] theorem creations_pause (length : Duration) (events : List Event) :
    creations (.pause length :: events) = creations events := rfl

@[simp] theorem besidesForm_append (first second : List Event) :
    besidesForm (first ++ second) = besidesForm first ++ besidesForm second :=
  List.filter_append _ _

@[simp] theorem besidesForm_form (snapshot : FormSnapshot) (events : List Event) :
    besidesForm (.form snapshot :: events) = besidesForm events := rfl

@[simp] theorem besidesForm_notice (shown : Notice) (events : List Event) :
    besidesForm (.notice shown :: events) = .notice shown :: besidesForm events := rfl

@[simp] theorem besidesForm_call (request : BackendCall) (events : List Event) :
    besidesForm (.call request :: events) = .call request :: besidesForm events := rfl

theorem mem_creations {events : List Event} {submission : Submission} :
    submission ∈ creations events ↔ .create submission ∈ calls events := by
  simp only [creations, List.mem_filterMap]
  constructor
  · rintro ⟨request, found, same⟩
    cases request with
    | create other =>
        cases same
        exact found
    | fetch key => cases same
  · exact fun found => ⟨_, found, rfl⟩

/-- An errand shows nothing by itself, and leaves the lock alone. -/
@[simp] theorem notices_ofErrand (events : List ErrandEvent) :
    notices (events.map ofErrand) = [] := by
  induction events with
  | nil => rfl
  | cons event rest induction =>
      cases event <;> simpa [notices, notice?, ofErrand] using induction

@[simp] theorem locks_ofErrand (events : List ErrandEvent) :
    locks (events.map ofErrand) = [] := by
  induction events with
  | nil => rfl
  | cons event rest induction =>
      cases event <;> simpa [locks, lock?, ofErrand] using induction

end Event

end PromptClient
