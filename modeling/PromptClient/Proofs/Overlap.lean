import Mathlib.Data.Bool.Count
import Mathlib.Logic.Function.Basic
import PromptClient.Attempt
import PromptClient.Proofs.History

/-! # Prompts recorded side by side

A prompt is recorded in two steps: the list is read, and then it is written with the prompt at
its end. Where several do so on one storage, what is written may be made of a list that has
been replaced in the meantime. The list is always one that some of the prompts make when they
are recorded one after the other; of two that overlap, only the one that is written last. -/

namespace PromptClient

/-- A prompt on its way into what is kept: that has still to be read, or what has been made of
it has still to be written. -/
inductive Recording (α : Type)
  | reading (prompt : String)
  | writing (next : α)
  | done

/-- How something is kept that prompts are added to: what is to be written once it has been
read, and what writing makes of it. -/
structure Ledger (κ α : Type) where
  add : κ → String → α
  write : κ → α → κ

/-- Something kept, and the prompts on their way into it. -/
structure Clerks (ι κ α : Type) where
  kept : κ
  hands : ι → Recording α

namespace Ledger

variable {ι κ α : Type}

/-- One access to what is kept. A blank prompt is not written. -/
def step (ledger : Ledger κ α) (kept : κ) : Recording α → Recording α × κ
  | .reading prompt =>
      (if Prompt.normalize prompt = "" then .done else .writing (ledger.add kept prompt), kept)
  | .writing next => (.done, ledger.write kept next)
  | .done => (.done, kept)

def turn [DecidableEq ι] (ledger : Ledger κ α) (clerks : Clerks ι κ α) (who : ι) :
    Clerks ι κ α :=
  let (next, kept) := ledger.step clerks.kept (clerks.hands who)
  ⟨kept, Function.update clerks.hands who next⟩

section Turns

variable [DecidableEq ι] (ledger : Ledger κ α) (clerks : Clerks ι κ α)

theorem turn_kept (who : ι) :
    (ledger.turn clerks who).kept = (ledger.step clerks.kept (clerks.hands who)).2 :=
  rfl

theorem turn_hands_same (who : ι) :
    (ledger.turn clerks who).hands who = (ledger.step clerks.kept (clerks.hands who)).1 :=
  Function.update_self _ _ _

theorem turn_hands_other {who other : ι} (different : other ≠ who) :
    (ledger.turn clerks who).hands other = clerks.hands other :=
  Function.update_of_ne different _ _

end Turns

/-- What is kept after everyone has begun with a prompt and taken the turns given. -/
def after [DecidableEq ι] (ledger : Ledger κ α) (kept : κ) (prompts : ι → String)
    (turns : List ι) : κ :=
  (turns.foldl ledger.turn ⟨kept, fun who => .reading (prompts who)⟩).kept

/-- The prompts themselves, one after the other. -/
def chain : Ledger (List String) (List String) where
  add kept prompt := kept ++ [prompt]
  write _ next := next

end Ledger

namespace History

variable {σ : Type} [FieldStore σ]

/-- The history of a space, which is read and written as a whole. -/
def ledger (space : String) : Ledger σ (List String) where
  add place prompt := push (Prompt.normalize prompt) (list place space)
  write place entries := store place space entries

/-! ## One access -/

/-- Without anything in between, the two accesses record the prompt. -/
theorem record_eq_steps (place : σ) (space prompt : String) :
    let read := (ledger space).step place (.reading prompt)
    ((ledger space).step read.2 read.1).2 = (record place space prompt).2 := by
  by_cases blank : Prompt.normalize prompt = ""
  · simp [Ledger.step, blank, record_of_blank]
  · simp [Ledger.step, blank, record_of_full, ledger]

/-- What is in hand has been made of the history by recording the prompts of a chain. -/
inductive Mirrors (history : List String) : Recording (List String) → Recording (List String) → Prop
  | reading (prompt : String) : Mirrors history (.reading prompt) (.reading prompt)
  | writing (prompts : List String) :
      Mirrors history (.writing ((distinctLines (history ++ prompts)).rtake 5)) (.writing prompts)
  | done : Mirrors history .done .done

variable {atWork : σ → Prop}

theorem step_mirrors (working : FieldStore.Working atWork) {place : σ} (ready : atWork place)
    {space : String} {history prompts : List String}
    (listed : list place space = (distinctLines (history ++ prompts)).rtake 5)
    {hand trail : Recording (List String)} (mirrors : Mirrors history hand trail) :
    atWork ((ledger space).step place hand).2 ∧
      list ((ledger space).step place hand).2 space =
        (distinctLines (history ++ (Ledger.chain.step prompts trail).2)).rtake 5 ∧
      Mirrors history ((ledger space).step place hand).1 (Ledger.chain.step prompts trail).1 := by
  cases mirrors with
  | reading prompt =>
      refine ⟨ready, listed, ?_⟩
      by_cases blank : Prompt.normalize prompt = ""
      · simp only [Ledger.step, blank, if_true]
        exact .done
      · simp only [Ledger.step, blank, if_false, ledger, Ledger.chain]
        rw [listed, push_recent _ blank, List.append_assoc]
        exact .writing _
  | writing others =>
      refine ⟨working.stays _ _ _ ready, ?_, .done⟩
      have kept := working.finds space field
        (written ((distinctLines (history ++ others)).rtake 5)) ready
      change entriesOf (FieldStore.field? (FieldStore.setField _ _ _ _) _ _) = _
      rw [kept, entriesOf_written (recent_presentable _)]
      rfl
  | done =>
      simp only [Ledger.step]
      exact ⟨ready, listed, .done⟩

end History

/-- An attempt reads and writes the history in just these accesses. -/
theorem Desk.step_recording {σ : Type} [Storage σ] (desk : Desk σ) {submission : Submission}
    (full : Prompt.normalize submission.prompt ≠ "") (reply : Reply) :
    ∃ entries,
      (History.ledger desk.tool.storageSpace).step desk.storage (.reading submission.prompt) =
        (.writing entries, desk.storage) ∧
      desk.step (.recalling submission) reply = (desk, [], .remembering submission entries) ∧
      ∀ later : Desk σ, later.tool = desk.tool →
        (later.step (.remembering submission entries) reply).1.storage =
          ((History.ledger desk.tool.storageSpace).step later.storage (.writing entries)).2 := by
  refine ⟨History.push (Prompt.normalize submission.prompt) desk.history, ?_, ?_, ?_⟩
  · simp only [Ledger.step, full, if_false]
    rfl
  · simp only [step, afterRecall, full, if_false]
  · intro later same
    simp only [step, afterRemember, same]
    rfl

namespace History

variable {σ : Type} [FieldStore σ] {atWork : σ → Prop}

/-! ## Any number of accesses -/

section Turns

variable {ι : Type} [DecidableEq ι]

theorem turns_mirror (working : FieldStore.Working atWork) {space : String}
    {history : List String} (turns : List ι) {clerks : Clerks ι σ (List String)}
    {trails : Clerks ι (List String) (List String)} (ready : atWork clerks.kept)
    (listed : list clerks.kept space = (distinctLines (history ++ trails.kept)).rtake 5)
    (mirrors : ∀ who, Mirrors history (clerks.hands who) (trails.hands who)) :
    list (turns.foldl (ledger space).turn clerks).kept space =
      (distinctLines (history ++ (turns.foldl Ledger.chain.turn trails).kept)).rtake 5 := by
  induction turns generalizing clerks trails with
  | nil => exact listed
  | cons who turns induction =>
      rcases step_mirrors working ready listed (mirrors who) with ⟨stays, shows, fits⟩
      rw [← Ledger.turn_kept] at stays
      rw [← Ledger.turn_kept, ← Ledger.turn_kept] at shows
      rw [List.foldl_cons, List.foldl_cons]
      refine induction stays shows ?_
      intro other
      by_cases same : other = who
      · subst same
        rwa [Ledger.turn_hands_same, Ledger.turn_hands_same]
      · rw [Ledger.turn_hands_other _ _ same, Ledger.turn_hands_other _ _ same]
        exact mirrors other

/-- Whoever records prompts on one storage and however their accesses follow each other, the list
is the one that the chain of prompts makes which ends with the one that was written last: each
of them had read what the one before it wrote. -/
theorem list_after (working : FieldStore.Working atWork) {place : σ} (ready : atWork place)
    (space : String) (prompts : ι → String) (turns : List ι) :
    list ((ledger space).after place prompts turns) space =
      list (recordAll place space (Ledger.chain.after [] prompts turns)) space := by
  have recorded := recordAll_step working ready (list_eq place space)
    (Ledger.chain.after [] prompts turns)
  rw [recorded.2]
  apply turns_mirror working turns ready
  · simpa using list_eq place space
  · exact fun who => .reading (prompts who)

end Turns

/-! ## Pushing twice -/

theorem push_eq (prompt : String) (entries : List String) :
    push prompt entries = (entries.filter (· ≠ prompt)).rtake 4 ++ [prompt] :=
  List.rtake_concat_succ _ _ _

theorem getLast?_rtake_succ (count : Nat) (entries : List String) :
    (entries.rtake (count + 1)).getLast? = entries.getLast? := by
  rcases List.eq_nil_or_concat entries with rfl | ⟨front, last, rfl⟩
  · simp
  · rw [List.concat_eq_append, List.rtake_concat_succ, List.getLast?_concat,
      List.getLast?_concat]

theorem push_push_self (prompt : String) (entries : List String) :
    push prompt (push prompt entries) = push prompt entries := by
  have others : ∀ entry ∈ (entries.filter (· ≠ prompt)).rtake 4, entry ≠ prompt := by
    intro entry found
    simpa using (List.mem_filter.mp ((lastOnes_sublist 4 _).subset found)).2
  have kept : (push prompt entries).filter (· ≠ prompt) =
      (entries.filter (· ≠ prompt)).rtake 4 := by
    rw [push_eq, List.filter_append, List.filter_eq_self.mpr (by simpa using others)]
    simp
  rw [push_eq prompt (push prompt entries), kept, push_eq]
  congr 1
  exact lastOnes_of_le (length_lastOnes_le 4 _)

/-- Forgetting entries before another one is moved away makes no difference to the last ones
that remain. -/
theorem rtake_filter_rtake {entries : List String} (distinct : entries.Nodup) (count : Nat)
    (prompt : String) :
    ((entries.rtake (count + 1)).filter (· ≠ prompt)).rtake count =
      (entries.filter (· ≠ prompt)).rtake count := by
  have moved := lastOnes_moveToEnd distinct (count + 1) prompt
  change (_ ++ [prompt]).rtake (count + 1) = (_ ++ [prompt]).rtake (count + 1) at moved
  rw [List.rtake_concat_succ, List.rtake_concat_succ] at moved
  exact List.append_cancel_right moved

/-- A prompt leaves no trace behind a later one exactly if it would stand right before that
anyway. -/
theorem push_push_iff {entries : List String} (distinct : entries.Nodup) (first last : String) :
    push last (push first entries) = push last entries ↔
      first = last ∨ (entries.filter (· ≠ last)).getLast? = some first := by
  by_cases same : first = last
  · subst same
    simp [push_push_self]
  · have between : push last (push first entries) =
        ((entries.filter (· ≠ first)).filter (· ≠ last)).rtake 3 ++ [first] ++ [last] := by
      rw [push_eq last, push_eq first, List.filter_append,
        (List.filter_eq_self.mpr (by simpa using same) : [first].filter (· ≠ last) = [first]),
        List.rtake_concat_succ, rtake_filter_rtake (distinct.filter _)]
    rw [between, push_eq last]
    simp only [same, false_or, List.append_left_inj]
    constructor
    · intro equal
      have ends := congrArg List.getLast? equal
      rw [List.getLast?_concat, getLast?_rtake_succ] at ends
      exact ends.symm
    · intro ends
      rcases List.getLast?_eq_some_iff.mp ends with ⟨front, split⟩
      have once : (front ++ [first]).Nodup := split ▸ distinct.filter _
      have fresh : ∀ entry ∈ front, entry ≠ first := by
        rintro entry found rfl
        exact (List.nodup_append.mp once).2.2 entry found entry (List.mem_singleton.mpr rfl) rfl
      have rest : (entries.filter (· ≠ first)).filter (· ≠ last) = front := by
        rw [List.filter_comm, split, List.filter_append,
          List.filter_eq_self.mpr (by simpa using fresh)]
        simp
      rw [rest, split, List.rtake_concat_succ]

/-! ## Two prompts -/

theorem list_record (working : FieldStore.Working atWork) {place : σ} (ready : atWork place)
    (space : String) {prompt : String} (full : Prompt.normalize prompt ≠ "") :
    list (record place space prompt).2 space =
      push (Prompt.normalize prompt) (list place space) := by
  rcases record_step working ready (list_eq place space) prompt with ⟨-, -, shows, -⟩
  rw [shows, record_of_full place space full]

/-- Blank prompts leave nothing behind. -/
theorem recordAll_filter (place : σ) (space : String) (prompts : List String) :
    recordAll place space (prompts.filter (Prompt.normalize · ≠ "")) =
      recordAll place space prompts := by
  induction prompts generalizing place with
  | nil => rfl
  | cons prompt prompts induction =>
      by_cases blank : Prompt.normalize prompt = ""
      · rw [List.filter_cons_of_neg (by simpa using blank), recordAll_cons,
          record_of_blank place space blank, induction]
      · rw [List.filter_cons_of_pos (by simpa using blank), recordAll_cons, recordAll_cons,
          induction]

/-- The accesses of two come in the order of the prompts, or both read before either writes. -/
theorem turns_of_two {turns : List Bool} (twice : ∀ who, turns.count who = 2) :
    (∃ first, turns = [first, first, !first, !first]) ∨
      ∃ first last, turns = [first, !first, !last, last] := by
  have length : turns.length = 4 := by
    rw [← List.count_true_add_count_false, twice, twice]
  rcases List.length_eq_four.mp length with ⟨first, second, third, last, rfl⟩
  revert first second third last
  decide

variable (prompts : Bool → String)

theorem chain_in_order (first : Bool) :
    Ledger.chain.after [] prompts [first, first, !first, !first] =
      [prompts first, prompts (!first)].filter (Prompt.normalize · ≠ "") := by
  by_cases blank : Prompt.normalize (prompts first) = "" <;>
    by_cases other : Prompt.normalize (prompts (!first)) = "" <;>
      simp [Ledger.after, Ledger.turn, Ledger.step, Ledger.chain, blank, other]

theorem chain_overlapping (first last : Bool)
    (full : ∀ who, Prompt.normalize (prompts who) ≠ "") :
    Ledger.chain.after [] prompts [first, !first, !last, last] = [prompts last] := by
  cases first <;> cases last <;>
    simp [Ledger.after, Ledger.turn, Ledger.step, Ledger.chain, full]

section Blank

variable {who : Bool} (blank : Prompt.normalize (prompts who) = "")

include blank

theorem filter_of_blank (first : Bool) :
    [prompts first, prompts (!first)].filter (Prompt.normalize · ≠ "") =
      [prompts (!who)].filter (Prompt.normalize · ≠ "") := by
  cases first <;> cases who <;> simp [List.filter_cons, blank]

theorem chain_overlapping_of_blank (first last : Bool) :
    Ledger.chain.after [] prompts [first, !first, !last, last] =
      [prompts (!who)].filter (Prompt.normalize · ≠ "") := by
  by_cases other : Prompt.normalize (prompts (!who)) = "" <;>
    cases first <;> cases last <;> cases who <;>
      simp_all [Ledger.after, Ledger.turn, Ledger.step, Ledger.chain]

/-- Where one prompt is blank, the order of the accesses makes no difference. -/
theorem chain_of_blank {turns : List Bool} (twice : ∀ who, turns.count who = 2) (first : Bool) :
    Ledger.chain.after [] prompts turns =
      [prompts first, prompts (!first)].filter (Prompt.normalize · ≠ "") := by
  rw [filter_of_blank prompts blank]
  rcases turns_of_two twice with ⟨begin, rfl⟩ | ⟨begin, last, rfl⟩
  · rw [chain_in_order, filter_of_blank prompts blank]
  · exact chain_overlapping_of_blank prompts blank begin last

end Blank

/-- Of two prompts that are recorded on one storage, each in two accesses, nothing is lost where
one is done before the other begins, or where one is blank: then the list is as if they had been
recorded in that order, or in any. Where both have read before either writes, the list is as if
only the one had been recorded that is written last. That one is the last entry; the other is
there only if it was among the entries before. So the list is one that an order of the two makes
exactly if they are the same on one line, or if the lost one stood right before the other
anyway. -/
theorem record_side_by_side (working : FieldStore.Working atWork) (place : σ)
    (ready : atWork place) (space : String) (prompts : Bool → String) (turns : List Bool)
    (twice : ∀ who, turns.count who = 2) :
    let entries := list ((ledger space).after place prompts turns) space
    let ordered := fun who => list (recordAll place space [prompts who, prompts (!who)]) space
    let line := fun who => Prompt.normalize (prompts who)
    ((∃ first, turns = [first, first, !first, !first]) ∨
      ∃ first last, turns = [first, !first, !last, last]) ∧
    (∀ first, turns = [first, first, !first, !first] → entries = ordered first) ∧
    ((∃ who, line who = "") → ∀ who, entries = ordered who) ∧
    ∀ first last, turns = [first, !first, !last, last] → (∀ who, line who ≠ "") →
      let others := (list place space).filter (· ≠ line last)
      entries = list (record place space (prompts last)).2 space ∧
      entries.getLast? = some (line last) ∧
      (line (!last) ∈ entries ↔ line (!last) = line last ∨ line (!last) ∈ others.rtake 4) ∧
      ((∃ who, entries = ordered who) ↔
        line (!last) = line last ∨ others.getLast? = some (line (!last))) := by
  intro entries ordered line
  have traced : entries = list (recordAll place space (Ledger.chain.after [] prompts turns)) space :=
    list_after working ready space prompts turns
  refine ⟨turns_of_two twice, ?inOrder, ?blank, ?overlapping⟩
  case inOrder =>
    rintro first rfl
    rw [traced, chain_in_order, recordAll_filter]
  case blank =>
    rintro ⟨who, blank⟩ first
    rw [traced, chain_of_blank prompts blank twice first, recordAll_filter]
  case overlapping =>
    rintro first last rfl full others
    rw [chain_overlapping prompts first last full] at traced
    have kept : entries = push (line last) (list place space) := by
      rw [traced]
      exact list_record working ready space (full last)
    have inTurn : ∀ who, ordered who = push (line (!who)) (push (line who) (list place space)) := by
      intro who
      have stays := record_stays working ready space (prompts who)
      rw [← list_record working ready space (full who)]
      exact list_record working stays space (full (!who))
    have distinct : (list place space).Nodup := by
      rw [list_eq]
      exact (recent_presentable _).distinct
    refine ⟨traced, ?_, ?_, ?_⟩
    · rw [kept, push_eq, List.getLast?_concat]
    · rw [kept, push_eq, List.mem_append, List.mem_singleton, or_comm]
    · rw [← push_push_iff distinct, kept]
      constructor
      · rintro ⟨who, equal⟩
        rw [inTurn] at equal
        by_cases same : who = last
        · subst same
          have ends := congrArg List.getLast? equal
          rw [push_eq, push_eq, List.getLast?_concat, List.getLast?_concat] at ends
          rw [Option.some.inj ends, push_push_self]
        · rw [Bool.eq_not.mpr same, Bool.not_not] at equal
          exact equal.symm
      · intro equal
        refine ⟨!last, ?_⟩
        rw [inTurn, Bool.not_not, equal]

/-- While one prompt is recorded, another one has read an empty list. -/
theorem record_side_by_side_lost :
    let place : FieldTable := .empty
    let prompts : Bool → String := fun who => if who then "b" else "a"
    let turns := [true, false, false, true]
    let entries := list ((ledger "ns").after place prompts turns) "ns"
    (∀ who, turns.count who = 2) ∧ entries = ["b"] ∧
      entries.getLast? = some (Prompt.normalize "b") := by
  intro place prompts turns entries
  have twice : ∀ who, turns.count who = 2 := by decide
  have full : ∀ who, Prompt.normalize (prompts who) ≠ "" := by decide +kernel
  have result := (record_side_by_side FieldStore.working_fieldTable place trivial "ns"
    prompts turns twice).2.2.2 true true rfl full
  refine ⟨twice, result.1.trans ?_, result.2.1⟩
  decide +kernel

/-- What two prompts leave that overlap need not be what any order of them makes. -/
theorem record_side_by_side_unordered :
    let place : FieldTable := .empty
    let prompts : Bool → String := fun who => if who then "b" else "a"
    let turns := [true, false, false, true]
    let entries := list ((ledger "ns").after place prompts turns) "ns"
    (∀ who, turns.count who = 2) ∧
      (∀ who, entries ≠ list (recordAll place "ns" [prompts who, prompts (!who)]) "ns") ∧
      Prompt.normalize (prompts false) ≠ "" ∧ Prompt.normalize (prompts false) ∉ entries := by
  decide +kernel

end History

end PromptClient
