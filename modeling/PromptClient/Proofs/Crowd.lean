import PromptClient.Proofs.Attempt

/-! # Attempts side by side

Any number of attempts may be begun on one desk. They take their steps in any order, may be
called off wherever they wait, and the world around may change the desk between any two
steps. The form's lock keeps them apart. -/

namespace PromptClient

inductive Seat
  | taken (attempt : Attempt)
  /-- Its attempt was called off where it waited. -/
  | calledOff

namespace Seat

def waiting? : Seat → Option Attempt
  | .taken attempt => if attempt.isOver then none else some attempt
  | .calledOff => none

def busy : Seat := .taken (.over (.error .busy))

/-- What the attempt of a seat has shown; one that was called off may have got as far as
showing that it is under way. -/
def HasShown : Seat → List Notice → Prop
  | .taken attempt, shown => attempt.HasShown shown
  | .calledOff, shown => shown = [] ∨ shown = [.status loadingText]

theorem waiting?_eq_some {seat : Seat} {attempt : Attempt}
    (waits : seat.waiting? = some attempt) :
    seat = .taken attempt ∧ attempt.isOver = false := by
  cases seat with
  | taken present =>
      cases ended : present.isOver with
      | true => simp [waiting?, ended] at waits
      | false =>
          have equal : present = attempt := by simpa [waiting?, ended] using waits
          subst equal
          exact ⟨rfl, ended⟩
  | calledOff => cases waits

theorem waiting?_taken_isSome (attempt : Attempt) :
    (Seat.taken attempt).waiting?.isSome = !attempt.isOver := by
  cases ended : attempt.isOver <;> simp [waiting?, ended]

end Seat

/-- Wherever an attempt may still be called off, it has shown at most that it is under
way. -/
theorem Attempt.HasShown.calledOff {attempt : Attempt} {shown : List Notice}
    (sofar : attempt.HasShown shown) (waiting : attempt.isOver = false) :
    Seat.calledOff.HasShown shown := by
  cases attempt with
  | readingFile values path => exact .inl sofar
  | recalling submission => exact .inl sofar
  | remembering submission entries => exact .inl sofar
  | working errand => exact .inr sofar
  | «over» outcome => cases waiting
  | crashed => cases waiting

/-! ## Who did what -/

namespace Event

/-- What one attempt does, with its number. -/
def mark (number : Nat) (events : List Event) : List (Nat × Event) :=
  events.map fun event => (number, event)

def doneBy (number : Nat) (seen : List (Nat × Event)) : List Event :=
  seen.filterMap fun entry => if entry.1 = number then some entry.2 else none

/-- The calls of the backend in order, with the number of who made them. -/
def markedCalls (seen : List (Nat × Event)) : List (Nat × BackendCall) :=
  seen.filterMap fun entry => entry.2.call?.map fun request => (entry.1, request)

@[simp] theorem doneBy_append (number : Nat) (first second : List (Nat × Event)) :
    doneBy number (first ++ second) = doneBy number first ++ doneBy number second :=
  List.filterMap_append

@[simp] theorem markedCalls_append (first second : List (Nat × Event)) :
    markedCalls (first ++ second) = markedCalls first ++ markedCalls second :=
  List.filterMap_append

@[simp] theorem doneBy_mark_same (number : Nat) (events : List Event) :
    doneBy number (mark number events) = events := by
  induction events with
  | nil => rfl
  | cons event rest induction =>
      simp only [mark, List.map_cons, doneBy, List.filterMap_cons, if_true]
      exact congrArg (event :: ·) induction

theorem doneBy_mark_other {number other : Nat} (different : other ≠ number)
    (events : List Event) : doneBy other (mark number events) = [] := by
  simp [doneBy, mark, different.symm]

theorem doneBy_of_unknown {number : Nat} {seen : List (Nat × Event)}
    (known : ∀ entry ∈ seen, entry.1 < number) : doneBy number seen = [] := by
  simp only [doneBy, List.filterMap_eq_nil_iff]
  intro entry member
  have bound := known entry member
  simp [Nat.ne_of_lt bound]

theorem markedCalls_mark (number : Nat) (events : List Event) :
    markedCalls (mark number events) =
      (calls events).map fun request => (number, request) := by
  simp only [markedCalls, mark, calls, List.filterMap_map, List.map_filterMap]
  rfl

end Event

/-- A desk with the attempts begun on it. An attempt is known by the number of its seat. -/
structure Crowd (σ : Type) where
  desk : Desk σ
  seats : List Seat
  /-- Everything that the attempts have done so far, with the number of who did it. -/
  seen : List (Nat × Event)

inductive Move (σ : Type)
  | enter (values : FormValues)
  /-- What an attempt waits for has come. -/
  | proceed (number : Nat) (reply : Reply)
  | callOff (number : Nat)
  /-- Session, storage, credentials and layout change from outside; the lock does not. -/
  | outside (login : Login σ) (mode : CredentialMode) (manual : ManualCredential)
      (layout : CredentialLayout)

namespace Crowd

variable {σ : Type}

def opened (desk : Desk σ) : Crowd σ := ⟨desk, [], []⟩

/-- The attempt that waits at a number, if there is one. -/
def waiting? (crowd : Crowd σ) (number : Nat) : Option Attempt :=
  crowd.seats[number]?.bind Seat.waiting?

def Waits (crowd : Crowd σ) (number : Nat) : Prop :=
  (crowd.waiting? number).isSome

def eventsOf (crowd : Crowd σ) (number : Nat) : List Event :=
  Event.doneBy number crowd.seen

/-- An attempt has taken the form's lock and not given it back. -/
def Holds (crowd : Crowd σ) (number : Nat) : Prop :=
  (Event.locks (crowd.eventsOf number)).getLast? = some true

def calls (crowd : Crowd σ) : List (Nat × BackendCall) :=
  Event.markedCalls crowd.seen

/-- Let what a new attempt has done, and where it is now, be known. -/
def join (crowd : Crowd σ) (desk : Desk σ) (events : List Event) (seat : Seat) : Crowd σ :=
  { desk := desk
    seats := crowd.seats ++ [seat]
    seen := crowd.seen ++ Event.mark crowd.seats.length events }

/-- Let what an attempt has done, and where it is now, be known. -/
def settle (crowd : Crowd σ) (number : Nat) (desk : Desk σ) (events : List Event)
    (seat : Seat) : Crowd σ :=
  { desk := desk
    seats := crowd.seats.set number seat
    seen := crowd.seen ++ Event.mark number events }

variable [Storage σ]

def move (crowd : Crowd σ) : Move σ → Crowd σ
  | .enter values =>
      let (desk, events, attempt) := crowd.desk.beginAttempt values
      crowd.join desk events (.taken attempt)
  | .proceed number reply =>
      match crowd.waiting? number with
      | none => crowd
      | some attempt =>
          let (desk, events, next) := crowd.desk.step attempt reply
          crowd.settle number desk events (.taken next)
  | .callOff number =>
      match crowd.waiting? number with
      | none => crowd
      | some attempt =>
          let (desk, events) := crowd.desk.cancel attempt
          crowd.settle number desk events .calledOff
  | .outside login mode manual layout =>
      { crowd with
        desk := { crowd.desk with
          login := login
          mode := mode
          manual := manual
          form := crowd.desk.form.withLayout layout } }

def run (crowd : Crowd σ) (moves : List (Move σ)) : Crowd σ :=
  moves.foldl move crowd

/-! ## One attempt acting -/

section Acting

omit [Storage σ]

/-- Of all attempts only that at a number has acted, and it is now at its new seat. -/
structure ActedAt (crowd : Crowd σ) (number : Nat) (events : List Event) (seat : Seat)
    (after : Crowd σ) : Prop where
  here : after.seats[number]? = some seat
  others : ∀ other, other ≠ number → after.seats[other]? = crowd.seats[other]?
  seen : after.seen = crowd.seen ++ Event.mark number events

theorem join_acted (crowd : Crowd σ) (desk : Desk σ) (events : List Event) (seat : Seat) :
    crowd.ActedAt crowd.seats.length events seat (crowd.join desk events seat) where
  here := by simp [join]
  others := by
    intro other different
    rcases Nat.lt_or_gt_of_ne different with before | beyond
    · exact List.getElem?_append_left before
    · rw [List.getElem?_eq_none (Nat.le_of_lt beyond)]
      apply List.getElem?_eq_none
      simp only [join, List.length_append, List.length_singleton]
      omega
  seen := rfl

theorem settle_acted {crowd : Crowd σ} {number : Nat} (known : number < crowd.seats.length)
    (desk : Desk σ) (events : List Event) (seat : Seat) :
    crowd.ActedAt number events seat (crowd.settle number desk events seat) where
  here := by simp [settle, known]
  others := fun _ different => List.getElem?_set_ne different.symm
  seen := rfl

variable {crowd after : Crowd σ} {number other : Nat} {events : List Event} {seat : Seat}

theorem waits_of_seat (sits : crowd.seats[number]? = some seat) :
    crowd.Waits number ↔ seat.waiting?.isSome = true := by
  simp [Waits, waiting?, sits]

theorem seat_of_waiting {attempt : Attempt}
    (found : crowd.waiting? number = some attempt) :
    crowd.seats[number]? = some (.taken attempt) ∧ attempt.isOver = false := by
  obtain ⟨seat, sits, waits⟩ := Option.bind_eq_some_iff.mp found
  obtain ⟨rfl, waiting⟩ := Seat.waiting?_eq_some waits
  exact ⟨sits, waiting⟩

theorem Waits.lt_length (waits : crowd.Waits number) : number < crowd.seats.length := by
  obtain ⟨attempt, found⟩ := Option.isSome_iff_exists.mp waits
  have sits := (seat_of_waiting found).1
  exact (List.getElem?_eq_some_iff.mp sits).1

namespace ActedAt

variable (acted : crowd.ActedAt number events seat after)

include acted

theorem calls_eq :
    after.calls =
      crowd.calls ++ (Event.calls events).map fun request => (number, request) := by
  simp [calls, acted.seen, Event.markedCalls_mark]

theorem eventsOf_same : after.eventsOf number = crowd.eventsOf number ++ events := by
  simp [eventsOf, acted.seen]

theorem eventsOf_other (different : other ≠ number) :
    after.eventsOf other = crowd.eventsOf other := by
  simp [eventsOf, acted.seen, Event.doneBy_mark_other different]

theorem waits_same : after.Waits number ↔ seat.waiting?.isSome = true :=
  waits_of_seat acted.here

theorem waits_other (different : other ≠ number) : after.Waits other ↔ crowd.Waits other := by
  simp [Waits, waiting?, acted.others other different]

end ActedAt

end Acting

/-! ## Order among the attempts -/

structure Orderly (crowd : Crowd σ) : Prop where
  /-- Whoever holds the lock waits for something, and nobody else does. -/
  holds : ∀ number, crowd.Holds number ↔ crowd.Waits number
  single : ∀ first second, crowd.Waits first → crowd.Waits second → first = second
  locked : crowd.desk.form.locked = true ↔ ∃ number, crowd.Waits number
  shown : ∀ number (seat : Seat), crowd.seats[number]? = some seat →
    seat.HasShown (Event.notices (crowd.eventsOf number))
  known : ∀ entry ∈ crowd.seen, entry.1 < crowd.seats.length
  inOrder : crowd.calls.Pairwise fun earlier later => earlier.1 ≤ later.1
  /-- Nobody has called the backend who came after the one who holds the lock. -/
  behind : ∀ number, crowd.Waits number → ∀ entry ∈ crowd.calls, entry.1 ≤ number

section Order

omit [Storage σ]

theorem opened_orderly {desk : Desk σ} (unlocked : desk.form.locked = false) :
    (opened desk).Orderly where
  holds := by simp [Holds, Waits, waiting?, opened, eventsOf, Event.doneBy, Event.locks]
  single := by simp [Waits, waiting?, opened]
  locked := by simp [Waits, waiting?, opened, unlocked]
  shown := by simp [opened]
  known := by simp [opened]
  inOrder := List.Pairwise.nil
  behind := by simp [calls, opened, Event.markedCalls]

variable {crowd after : Crowd σ} {number : Nat} {events : List Event} {seat : Seat}

theorem Orderly.fresh (orderly : crowd.Orderly) : crowd.eventsOf crowd.seats.length = [] :=
  Event.doneBy_of_unknown orderly.known

theorem ActedAt.known (acted : crowd.ActedAt number events seat after)
    (known : ∀ entry ∈ crowd.seen, entry.1 < crowd.seats.length) :
    ∀ entry ∈ after.seen, entry.1 < after.seats.length := by
  have bound : number < after.seats.length := (List.getElem?_eq_some_iff.mp acted.here).1
  intro entry member
  by_cases equal : entry.1 = number
  · rw [equal]
    exact bound
  · have earlier : entry ∈ crowd.seen := by
      rw [acted.seen] at member
      rcases List.mem_append.mp member with earlier | new
      · exact earlier
      · obtain ⟨event, -, rfl⟩ := List.mem_map.mp new
        exact absurd rfl equal
    have present := acted.others entry.1 equal
    rw [List.getElem?_eq_getElem (known entry earlier)] at present
    exact (List.getElem?_eq_some_iff.mp present).1

theorem ActedAt.shown (acted : crowd.ActedAt number events seat after)
    (shown : ∀ number (seat : Seat), crowd.seats[number]? = some seat →
      seat.HasShown (Event.notices (crowd.eventsOf number)))
    (now : seat.HasShown (Event.notices (crowd.eventsOf number ++ events))) :
    ∀ number (seat : Seat), after.seats[number]? = some seat →
      seat.HasShown (Event.notices (after.eventsOf number)) := by
  intro other present sits
  by_cases equal : other = number
  · subst equal
    have same : present = seat := Option.some_inj.mp (sits.symm.trans acted.here)
    rw [same, acted.eventsOf_same]
    exact now
  · rw [acted.others other equal] at sits
    rw [acted.eventsOf_other equal]
    exact shown other present sits

theorem ActedAt.holds (acted : crowd.ActedAt number events seat after)
    (holds : ∀ number, crowd.Holds number ↔ crowd.Waits number)
    (lock : (Event.locks (crowd.eventsOf number ++ events)).getLast? = some true ↔
      seat.waiting?.isSome = true) :
    ∀ number, after.Holds number ↔ after.Waits number := by
  intro other
  by_cases equal : other = number
  · subst equal
    rw [Holds, acted.eventsOf_same, acted.waits_same]
    exact lock
  · rw [Holds, acted.eventsOf_other equal, acted.waits_other equal]
    exact holds other

/-- The attempt that acts may be the one that holds the lock or one that has just come. -/
theorem ActedAt.orderly (acted : crowd.ActedAt number events seat after)
    (orderly : crowd.Orderly)
    (alone : ∀ other, other ≠ number → ¬ crowd.Waits other)
    (latest : ∀ entry ∈ crowd.calls, entry.1 ≤ number)
    (locked : after.desk.form.locked = seat.waiting?.isSome)
    (lock : (Event.locks (crowd.eventsOf number ++ events)).getLast? = some true ↔
      seat.waiting?.isSome = true)
    (now : seat.HasShown (Event.notices (crowd.eventsOf number ++ events))) :
    after.Orderly := by
  -- Nobody else waited before, and nobody else has moved.
  have only : ∀ other, after.Waits other → other = number := by
    intro other waits
    by_cases equal : other = number
    · exact equal
    · exact absurd ((acted.waits_other equal).mp waits) (alone other equal)
  have reached : ∀ entry ∈ after.calls, entry.1 ≤ number := by
    intro entry member
    rw [acted.calls_eq] at member
    rcases List.mem_append.mp member with earlier | new
    · exact latest entry earlier
    · obtain ⟨request, -, rfl⟩ := List.mem_map.mp new
      exact Nat.le_refl number
  refine ⟨acted.holds orderly.holds ?lock, ?single, ?locked,
    acted.shown orderly.shown now, acted.known orderly.known, ?inOrder, ?behind⟩
  case lock => exact lock
  case single =>
    intro first second waitsFirst waitsSecond
    rw [only first waitsFirst, only second waitsSecond]
  case locked =>
    rw [locked, ← acted.waits_same]
    constructor
    · exact fun waits => ⟨number, waits⟩
    · rintro ⟨other, waits⟩
      exact only other waits ▸ waits
  case inOrder =>
    rw [acted.calls_eq, List.pairwise_append]
    refine ⟨orderly.inOrder, ?_, ?_⟩
    · rw [List.pairwise_map]
      exact List.pairwise_of_forall fun _ _ => Nat.le_refl number
    · intro earlier member later new
      obtain ⟨request, -, rfl⟩ := List.mem_map.mp new
      exact latest earlier member
  case behind =>
    intro other waits entry member
    rw [only other waits]
    exact reached entry member

/-- Who finds the form locked changes nothing for the others. -/
theorem join_busy_orderly (orderly : crowd.Orderly) :
    (crowd.join crowd.desk [] .busy).Orderly := by
  have acted := crowd.join_acted crowd.desk [] .busy
  have waits : ∀ number, (crowd.join crowd.desk [] .busy).Waits number ↔
      crowd.Waits number := by
    intro number
    by_cases equal : number = crowd.seats.length
    · subst equal
      rw [acted.waits_same]
      constructor
      · intro impossible
        cases impossible
      · intro waits
        exact absurd waits.lt_length (Nat.lt_irrefl _)
    · exact acted.waits_other equal
  have calls : (crowd.join crowd.desk [] .busy).calls = crowd.calls := by
    rw [acted.calls_eq]
    exact List.append_nil _
  refine ⟨acted.holds orderly.holds ?lock, ?single, ?locked,
    acted.shown orderly.shown trivial, acted.known orderly.known, ?inOrder, ?behind⟩
  case lock =>
    have free : ¬ crowd.Holds crowd.seats.length := by
      intro holds
      exact absurd ((orderly.holds _).mp holds).lt_length (Nat.lt_irrefl _)
    rw [List.append_nil]
    exact ⟨fun holds => absurd holds free, fun impossible => by cases impossible⟩
  case single => simpa only [waits] using orderly.single
  case locked =>
    simp only [waits]
    exact orderly.locked
  case inOrder => simpa only [calls] using orderly.inOrder
  case behind => simpa only [waits, calls] using orderly.behind

end Order

/-! ## Moves -/

variable {crowd : Crowd σ} {number : Nat}

theorem move_enter_of_locked (values : FormValues) (locked : crowd.desk.form.locked = true) :
    crowd.move (.enter values) = crowd.join crowd.desk [] .busy := by
  simp only [move, Desk.beginAttempt_of_locked values locked]
  rfl

/-- Who finds the form unlocked takes the lock before anything else. -/
theorem move_enter_of_unlocked (values : FormValues)
    (unlocked : crowd.desk.form.locked = false) :
    ∃ result, Desk.LetIn result ∧
      crowd.move (.enter values) =
        crowd.join result.1
          (.form (crowd.desk.withLock true).form.snapshot :: result.2.1)
          (.taken result.2.2) := by
  obtain ⟨result, admitted, begun⟩ := Desk.beginAttempt_of_unlocked values unlocked
  exact ⟨result, admitted, by simp only [move, begun]⟩

theorem Orderly.enter (orderly : crowd.Orderly) (values : FormValues) :
    (crowd.move (.enter values)).Orderly := by
  cases locked : crowd.desk.form.locked with
  | true =>
      rw [move_enter_of_locked values locked]
      exact join_busy_orderly orderly
  | false =>
      obtain ⟨result, admitted, moved⟩ := move_enter_of_unlocked values locked
      -- Only a holder could be disturbed, and with the form unlocked there is none.
      have free : ∀ other, ¬ crowd.Waits other := by
        intro other waits
        have taken := orderly.locked.mpr ⟨other, waits⟩
        rw [locked] at taken
        cases taken
      rw [moved]
      refine (crowd.join_acted _ _ _).orderly orderly (fun other _ => free other) ?_ ?_ ?_ ?_
      · intro entry member
        obtain ⟨source, found, equal⟩ := List.mem_filterMap.mp member
        obtain ⟨request, -, rfl⟩ := Option.map_eq_some_iff.mp equal
        exact Nat.le_of_lt (orderly.known source found)
      · rw [Seat.waiting?_taken_isSome]
        exact admitted.keeps.locked
      · have takes : Event.locks (.form (crowd.desk.withLock true).form.snapshot ::
            result.2.1) = true :: Event.locks result.2.1 := rfl
        rw [orderly.fresh, List.nil_append, takes, admitted.keeps.gives,
          Seat.waiting?_taken_isSome]
        cases result.2.2.isOver <;> simp
      · rw [orderly.fresh]
        exact admitted.keeps.shows

omit [Storage σ] in
theorem Orderly.waiting_acts (orderly : crowd.Orderly) (waits : crowd.Waits number)
    {desk : Desk σ} {events : List Event} {seat : Seat}
    (locked : desk.form.locked = seat.waiting?.isSome)
    (gives : Event.locks events = if seat.waiting?.isSome then [] else [false])
    (now : seat.HasShown (Event.notices (crowd.eventsOf number ++ events))) :
    (crowd.settle number desk events seat).Orderly := by
  have alone : ∀ other, other ≠ number → ¬ crowd.Waits other := by
    intro other different other_waits
    exact different (orderly.single other number other_waits waits)
  have held : (Event.locks (crowd.eventsOf number)).getLast? = some true :=
    (orderly.holds number).mpr waits
  have acted := settle_acted waits.lt_length desk events seat
  refine acted.orderly orderly alone (orderly.behind number waits) locked ?_ now
  rw [Event.locks_append, List.getLast?_append, gives, held]
  cases seat.waiting?.isSome <;> simp

theorem Orderly.proceed (orderly : crowd.Orderly) (number : Nat) (reply : Reply) :
    (crowd.move (.proceed number reply)).Orderly := by
  cases found : crowd.waiting? number with
  | none =>
      simp only [move, found]
      exact orderly
  | some attempt =>
      have waits : crowd.Waits number := by simp [Waits, found]
      obtain ⟨sits, waiting⟩ := seat_of_waiting found
      have sofar := orderly.shown number _ sits
      have kept := Desk.step_keeps (orderly.locked.mpr ⟨number, waits⟩) waiting sofar reply
      simp only [move, found]
      apply orderly.waiting_acts waits
      · rw [Seat.waiting?_taken_isSome]
        exact kept.locked
      · rw [kept.gives, Seat.waiting?_taken_isSome]
        cases (crowd.desk.step attempt reply).2.2.isOver <;> rfl
      · rw [Event.notices_append]
        exact kept.shows

theorem Orderly.callOff (orderly : crowd.Orderly) (number : Nat) :
    (crowd.move (.callOff number)).Orderly := by
  cases found : crowd.waiting? number with
  | none =>
      simp only [move, found]
      exact orderly
  | some attempt =>
      have waits : crowd.Waits number := by simp [Waits, found]
      obtain ⟨sits, waiting⟩ := seat_of_waiting found
      have sofar := orderly.shown number _ sits
      have unlocks : crowd.desk.cancel attempt = crowd.desk.unlock := by
        simp [Desk.cancel, waiting]
      simp only [move, found, unlocks]
      apply orderly.waiting_acts waits
      · rfl
      · rfl
      · rw [Event.notices_append, Desk.unlock_eq]
        have silent : Event.notices [.form (crowd.desk.withLock false).form.snapshot] = [] :=
          rfl
        rw [silent, List.append_nil]
        exact sofar.calledOff waiting

theorem Orderly.move (orderly : crowd.Orderly) (next : Move σ) :
    (crowd.move next).Orderly := by
  cases next with
  | enter values => exact orderly.enter values
  | proceed number reply => exact orderly.proceed number reply
  | callOff number => exact orderly.callOff number
  | outside login mode manual layout =>
      exact ⟨orderly.holds, orderly.single, orderly.locked, orderly.shown, orderly.known,
        orderly.inOrder, orderly.behind⟩

theorem Orderly.run (orderly : crowd.Orderly) (moves : List (Move σ)) :
    (crowd.run moves).Orderly := by
  induction moves generalizing crowd with
  | nil => exact orderly
  | cons next rest induction => exact induction (orderly.move next)

/-! ## Attempts that wait for nothing -/

/-- What nobody waits for stays as it is. -/
theorem move_leaves {seat : Seat} (sits : crowd.seats[number]? = some seat)
    (done : seat.waiting? = none) (next : Move σ) :
    (crowd.move next).seats[number]? = some seat ∧
      (crowd.move next).eventsOf number = crowd.eventsOf number := by
  have known : number < crowd.seats.length := (List.getElem?_eq_some_iff.mp sits).1
  have settles : ∀ other attempt, crowd.waiting? other = some attempt →
      ∀ desk events next,
        (crowd.settle other desk events next).seats[number]? = some seat ∧
        (crowd.settle other desk events next).eventsOf number = crowd.eventsOf number := by
    intro other attempt found desk events next
    have different : number ≠ other := by
      intro equal
      subst equal
      simp [waiting?, sits, done] at found
    have waits : crowd.Waits other := by simp [Waits, found]
    have acted := settle_acted waits.lt_length desk events next
    exact ⟨(acted.others number different).trans sits, acted.eventsOf_other different⟩
  cases next with
  | enter values =>
      have acted := crowd.join_acted (crowd.desk.beginAttempt values).1
        (crowd.desk.beginAttempt values).2.1 (.taken (crowd.desk.beginAttempt values).2.2)
      have different : number ≠ crowd.seats.length := Nat.ne_of_lt known
      exact ⟨(acted.others number different).trans sits, acted.eventsOf_other different⟩
  | proceed other reply =>
      simp only [move]
      split
      · exact ⟨sits, rfl⟩
      · exact settles other _ ‹_› _ _ _
  | callOff other =>
      simp only [move]
      split
      · exact ⟨sits, rfl⟩
      · exact settles other _ ‹_› _ _ _
  | outside login mode manual layout => exact ⟨sits, rfl⟩

theorem run_leaves {seat : Seat} (sits : crowd.seats[number]? = some seat)
    (done : seat.waiting? = none) (moves : List (Move σ)) :
    (crowd.run moves).seats[number]? = some seat ∧
      (crowd.run moves).eventsOf number = crowd.eventsOf number := by
  induction moves generalizing crowd with
  | nil => exact ⟨sits, rfl⟩
  | cons next rest induction =>
      have moved := move_leaves sits done next
      have ran := induction moved.1
      exact ⟨ran.1, ran.2.trans moved.2⟩

/-! ## Exclusion -/

omit [Storage σ] in
theorem Orderly.calls_split (orderly : crowd.Orderly) {first second : Nat}
    (earlier : first < second) :
    ∃ before after, crowd.calls = before ++ after ∧
      (∀ entry ∈ before, entry.1 ≠ second) ∧ ∀ entry ∈ after, entry.1 ≠ first := by
  have sorted := orderly.inOrder
  generalize crowd.calls = entries at sorted
  induction entries with
  | nil => exact ⟨[], [], rfl, by simp, by simp⟩
  | cons entry rest induction =>
      obtain ⟨bound, sorted⟩ := List.pairwise_cons.mp sorted
      by_cases reached : first < entry.1
      · refine ⟨[], entry :: rest, rfl, by simp, ?_⟩
        intro later member
        rcases List.mem_cons.mp member with equal | member
        · rw [equal]
          omega
        · have := bound later member
          omega
      · obtain ⟨before, after, equal, notSecond, notFirst⟩ := induction sorted
        refine ⟨entry :: before, after, by rw [equal]; rfl, ?_, notFirst⟩
        intro other member
        rcases List.mem_cons.mp member with same | member
        · rw [same]
          omega
        · exact notSecond other member

omit [Storage σ] in
/-- Who was called off or has crashed has not shown how anything ended. -/
theorem Orderly.shown_of_broken_off (orderly : crowd.Orderly)
    (brokenOff : crowd.seats[number]? = some .calledOff ∨
      crowd.seats[number]? = some (.taken .crashed)) :
    Event.notices (crowd.eventsOf number) = [] ∨
      Event.notices (crowd.eventsOf number) = [.status loadingText] := by
  rcases brokenOff with sits | sits
  · exact orderly.shown number _ sits
  · exact .inr (orderly.shown number _ sits)

/-- Who comes while another holds the lock is turned away for good and does nothing. -/
theorem Orderly.turns_away (orderly : crowd.Orderly) (held : ∃ number, crowd.Waits number)
    (values : FormValues) :
    crowd.move (.enter values) = ⟨crowd.desk, crowd.seats ++ [.busy], crowd.seen⟩ ∧
    ∀ later,
      ((crowd.move (.enter values)).run later).seats[crowd.seats.length]? = some .busy ∧
      ((crowd.move (.enter values)).run later).eventsOf crowd.seats.length = [] := by
  have acted := crowd.join_acted crowd.desk [] .busy
  rw [move_enter_of_locked values (orderly.locked.mpr held)]
  refine ⟨?_, ?_⟩
  · simp [join, Event.mark]
  · intro later
    have left := run_leaves acted.here rfl later
    rw [acted.eventsOf_same, orderly.fresh] at left
    exact left

/-- Who comes while nobody holds the lock takes it. -/
theorem Orderly.lets_in (orderly : crowd.Orderly) (free : ∀ number, ¬ crowd.Waits number)
    (values : FormValues) :
    crowd.desk.form.locked = false ∧
    (crowd.move (.enter values)).seats[crowd.seats.length]? ≠ some .busy ∧
    ∃ events, (crowd.move (.enter values)).eventsOf crowd.seats.length =
      .form (crowd.desk.withLock true).form.snapshot :: events := by
  have unlocked : crowd.desk.form.locked = false := by
    cases locked : crowd.desk.form.locked with
    | false => rfl
    | true =>
        obtain ⟨number, waits⟩ := orderly.locked.mp locked
        exact absurd waits (free number)
  obtain ⟨result, admitted, moved⟩ := move_enter_of_unlocked values unlocked
  have acted := crowd.join_acted result.1
    (.form (crowd.desk.withLock true).form.snapshot :: result.2.1) (.taken result.2.2)
  rw [moved]
  refine ⟨unlocked, ?_, result.2.1, ?_⟩
  · rw [acted.here]
    intro equal
    injection equal with equal
    injection equal with equal
    exact admitted.admitted equal
  · rw [acted.eventsOf_same, orderly.fresh]
    rfl

/-- However many attempts run on a desk, in whatever order they go on, are called off or
crash: at most one holds the lock, the form is locked exactly while one does, and that is
the one that waits for something; who comes meanwhile is turned away and does nothing, who
comes while nobody waits is let in; no attempt calls the backend between two calls of
another, and who does not get to the end shows at most that it is under way. -/
theorem run_excludes (desk : Desk σ) (unlocked : desk.form.locked = false)
    (moves : List (Move σ)) :
    let crowd := (opened desk).run moves
    (∀ first second, crowd.Holds first → crowd.Holds second → first = second) ∧
    (crowd.desk.form.locked = true ↔ ∃ number, crowd.Holds number) ∧
    (∀ number, crowd.Holds number ↔ crowd.Waits number) ∧
    (∀ values, (∃ number, crowd.Holds number) →
      let joined := crowd.move (.enter values)
      joined = ⟨crowd.desk, crowd.seats ++ [.busy], crowd.seen⟩ ∧
      ∀ later,
        (joined.run later).seats[crowd.seats.length]? = some .busy ∧
        (joined.run later).eventsOf crowd.seats.length = []) ∧
    (∀ values, (∀ number, ¬ crowd.Waits number) →
      let joined := crowd.move (.enter values)
      crowd.desk.form.locked = false ∧
      joined.seats[crowd.seats.length]? ≠ some .busy ∧
      ∃ events, joined.eventsOf crowd.seats.length =
        .form (crowd.desk.withLock true).form.snapshot :: events) ∧
    (∀ first second, first < second →
      ∃ before after, crowd.calls = before ++ after ∧
        (∀ entry ∈ before, entry.1 ≠ second) ∧ ∀ entry ∈ after, entry.1 ≠ first) ∧
    ∀ number,
      crowd.seats[number]? = some .calledOff ∨
        crowd.seats[number]? = some (.taken .crashed) →
      Event.notices (crowd.eventsOf number) = [] ∨
        Event.notices (crowd.eventsOf number) = [.status loadingText] := by
  intro crowd
  have orderly : crowd.Orderly := (opened_orderly unlocked).run moves
  refine ⟨?single, ?locked, orderly.holds, ?turned_away,
    fun values free => orderly.lets_in free values,
    fun first second earlier => orderly.calls_split earlier,
    fun number brokenOff => orderly.shown_of_broken_off brokenOff⟩
  case single => simpa only [orderly.holds] using orderly.single
  case locked => simpa only [orderly.holds] using orderly.locked
  case turned_away =>
    intro values held
    simp only [orderly.holds] at held
    exact orderly.turns_away held values

/-- Two attempts with a token: while the first waits for its job, nobody else comes in. -/
theorem run_excludes_second :
    let login : Login MemoryStorage :=
      { tool := .slackChannel
        settings := ⟨"", "", "", "", none⟩
        storage := ⟨none, ⟨[]⟩, ⟨[]⟩⟩
        clock := 0
        browserOpens := true
        state := .loggedOut
        changes := 0 }
    let desk : Desk MemoryStorage :=
      { login := login
        form := .initial
        mode := .manual
        manual := .token "xoxp-1"
        policy := .standard
        presenter := ⟨fun text => text, fun text => text⟩ }
    let values : FormValues := ⟨"What is new?", "", "", false, []⟩
    let crowd := (opened desk).run
      [.enter values, .enter values, .proceed 0 .rested, .proceed 0 .rested,
        .proceed 0 (.created (.ok "job-1"))]
    crowd.Holds 0 ∧ crowd.desk.form.locked = true ∧
      crowd.calls.map (·.1) = [0, 0] ∧
      ∀ values, crowd.move (.enter values) =
        ⟨crowd.desk, crowd.seats ++ [.busy], crowd.seen⟩ := by
  intro login desk values
  let moves : List (Move MemoryStorage) :=
    [.enter values, .enter values, .proceed 0 .rested, .proceed 0 .rested,
      .proceed 0 (.created (.ok "job-1"))]
  have excludes := run_excludes desk rfl moves
  have holds : ((opened desk).run moves).Holds 0 := by
    unfold Holds
    decide +kernel
  have called : ((opened desk).run moves).calls.map (·.1) = [0, 0] := by decide +kernel
  show let crowd := (opened desk).run moves; _
  generalize (opened desk).run moves = crowd at excludes holds called ⊢
  refine ⟨holds, excludes.2.1.mpr ⟨0, holds⟩, called, ?_⟩
  intro others
  exact (excludes.2.2.2.1 others ⟨0, holds⟩).1

end Crowd

end PromptClient
