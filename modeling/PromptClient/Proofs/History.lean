import Mathlib.Data.List.Dedup
import Mathlib.Data.List.DropRight
import PromptClient.History
import PromptClient.Proofs.Json
import PromptClient.Proofs.Prompt

/-! # The history as a whole

Every submission moves its prompt to the end of the list, forgets the oldest one and writes the
list down as JSON. The outcome of any number of them is what one would get from the whole list
of prompts at once: each only where it occurs last, and of these the last five. -/

namespace PromptClient

namespace FieldStore

variable {σ : Type} [FieldStore σ]

/-- What is put into a field is found there as long as a store is at work, and it stays at
work. -/
structure Working (atWork : σ → Prop) : Prop where
  stays : ∀ {place} (space field value), atWork place → atWork (setField space field value place)
  finds : ∀ {place} (space field value), atWork place →
    field? (setField space field value place) space field = some value

theorem working_fieldTable : Working fun _ : FieldTable => True where
  stays := fun _ _ _ _ => trivial
  finds := fun {table} space field value _ => table.get?_set_same space field value

theorem working_database : Working fun database : Database => database.isOpen = true where
  stays := by
    intro database space field value isOpen
    simp [setField, Database.set, isOpen]
  finds := by
    intro database space field value isOpen
    simp [field?, setField, Database.get?, Database.set, isOpen]

end FieldStore

namespace History

/-! ## All at once -/

/-- The prompts on one line each, without the blank ones, each only where it occurs last. -/
def distinctLines (prompts : List String) : List String :=
  ((prompts.map Prompt.normalize).filter (· ≠ "")).dedup

theorem dedup_concat (entries : List String) (prompt : String) :
    (entries ++ [prompt]).dedup = moveToEnd prompt entries.dedup := by
  induction entries with
  | nil => rfl
  | cons entry entries induction =>
      rw [List.cons_append]
      by_cases later : entry ∈ entries
      · rw [List.dedup_cons_of_mem later, List.dedup_cons_of_mem (by simp [later]), induction]
      · by_cases same : entry = prompt
        · subst same
          rw [List.dedup_cons_of_mem (by simp), induction, List.dedup_cons_of_notMem later]
          simp [moveToEnd]
        · rw [List.dedup_cons_of_notMem later, List.dedup_cons_of_notMem (by simp [later, same]),
            induction]
          simp [moveToEnd, same]

/-- Moving one prompt after the other to the end leaves each where it occurs last. -/
theorem foldl_moveToEnd (prompts : List String) :
    prompts.foldl (fun entries prompt => moveToEnd prompt entries) [] = prompts.dedup := by
  induction prompts using List.reverseRecOn with
  | nil => rfl
  | append_singleton prompts prompt induction =>
      rw [List.foldl_append, induction, dedup_concat]
      rfl

theorem tidy_eq_distinctLines (prompts : List String) : tidy prompts = distinctLines prompts :=
  foldl_moveToEnd _

theorem distinctLines_concat_blank (prompts : List String) {prompt : String}
    (blank : Prompt.normalize prompt = "") :
    distinctLines (prompts ++ [prompt]) = distinctLines prompts := by
  simp [distinctLines, blank]

theorem distinctLines_concat (prompts : List String) {prompt : String}
    (full : Prompt.normalize prompt ≠ "") :
    distinctLines (prompts ++ [prompt]) =
      moveToEnd (Prompt.normalize prompt) (distinctLines prompts) := by
  rw [distinctLines, List.map_append, List.filter_append]
  simp only [List.map_singleton, List.filter_singleton, full, ne_eq, not_false_eq_true,
    decide_true]
  exact dedup_concat _ _

/-! ## Forgetting

Whether the oldest entries are forgotten before or after a prompt is moved to the end makes
no difference, because moving it frees at most one place. -/

theorem lastOnes_of_le {count : Nat} {entries : List String} (few : entries.length ≤ count) :
    lastOnes count entries = entries := by
  simp [lastOnes, few]

theorem lastOnes_append_of_le {count : Nat} {front back : List String}
    (enough : count ≤ back.length) : lastOnes count (front ++ back) = lastOnes count back := by
  rw [lastOnes, lastOnes, List.length_append, Nat.add_sub_assoc enough, List.drop_append]
  simp

theorem length_lastOnes_le (count : Nat) (entries : List String) :
    (lastOnes count entries).length ≤ count := by
  simp only [lastOnes, List.length_drop]
  omega

theorem lastOnes_sublist (count : Nat) (entries : List String) :
    (lastOnes count entries).Sublist entries :=
  List.drop_sublist _ _

theorem length_le_moveToEnd {entries : List String} (distinct : entries.Nodup)
    (prompt : String) : entries.length ≤ (moveToEnd prompt entries).length := by
  have erased : entries.filter (· ≠ prompt) = entries.erase prompt := by
    rw [distinct.erase_eq_filter]
    exact List.filter_congr fun entry _ => by rw [Bool.eq_iff_iff]; simp
  have kept := List.le_length_erase (a := prompt) (l := entries)
  rw [moveToEnd, List.length_append, erased, List.length_singleton]
  omega

theorem moveToEnd_append (prompt : String) (front back : List String) :
    moveToEnd prompt (front ++ back) = front.filter (· ≠ prompt) ++ moveToEnd prompt back := by
  simp [moveToEnd]

theorem lastOnes_moveToEnd {entries : List String} (distinct : entries.Nodup) (count : Nat)
    (prompt : String) :
    lastOnes count (moveToEnd prompt (lastOnes count entries)) =
      lastOnes count (moveToEnd prompt entries) := by
  by_cases few : entries.length ≤ count
  · rw [lastOnes_of_le few]
  · have kept : (lastOnes count entries).length = count := by
      simp only [lastOnes, List.length_drop]
      omega
    -- Moving a prompt to the end never makes a list shorter, so what was forgotten before
    -- would be forgotten now.
    have enough : count ≤ (moveToEnd prompt (lastOnes count entries)).length := by
      have longer := length_le_moveToEnd (distinct.sublist (lastOnes_sublist count entries))
        prompt
      omega
    obtain ⟨front, whole⟩ : ∃ front, front ++ lastOnes count entries = entries :=
      ⟨_, List.take_append_drop _ _⟩
    calc
      _ = lastOnes count (front.filter (· ≠ prompt) ++
            moveToEnd prompt (lastOnes count entries)) := (lastOnes_append_of_le enough).symm
      _ = lastOnes count (moveToEnd prompt (front ++ lastOnes count entries)) := by
          rw [moveToEnd_append]
      _ = lastOnes count (moveToEnd prompt entries) := by rw [whole]

/-! ## What is listed -/

/-- A list as it is shown: at most five prompts, no two of them the same, each on one line
and not blank. -/
structure Presentable (entries : List String) : Prop where
  few : entries.length ≤ 5
  distinct : entries.Nodup
  lines : ∀ entry ∈ entries, entry ≠ "" ∧ Prompt.normalize entry = entry

theorem distinctLines_lines (prompts : List String) :
    ∀ entry ∈ distinctLines prompts, entry ≠ "" ∧ Prompt.normalize entry = entry := by
  intro entry found
  obtain ⟨given, full⟩ := List.mem_filter.mp (List.mem_dedup.mp found)
  obtain ⟨prompt, -, rfl⟩ := List.mem_map.mp given
  exact ⟨by simpa using full, Prompt.normalize_normalize prompt⟩

theorem recent_presentable (prompts : List String) :
    Presentable ((distinctLines prompts).rtake 5) where
  few := length_lastOnes_le 5 _
  distinct := (List.nodup_dedup _).sublist (lastOnes_sublist 5 _)
  lines := fun entry found =>
    distinctLines_lines prompts entry ((lastOnes_sublist 5 _).subset found)

theorem distinctLines_of_presentable {entries : List String}
    (presentable : Presentable entries) : distinctLines entries = entries := by
  have lines : entries.map Prompt.normalize = entries := by
    rw [List.map_congr_left fun entry found => (presentable.lines entry found).2]
    exact List.map_id entries
  have full : entries.filter (· ≠ "") = entries := by
    rw [List.filter_eq_self]
    intro entry found
    simpa using (presentable.lines entry found).1
  rw [distinctLines, lines, full, presentable.distinct.dedup]

/-! ## What is written down -/

theorem texts?_array (entries : List String) :
    texts? (.array (entries.map .text)) = some entries := by
  induction entries with
  | nil => rfl
  | cons entry entries induction =>
      simp only [texts?, List.map_cons, List.mapM_cons] at induction ⊢
      rw [induction]
      rfl

/-- The list is found again in the JSON text it is stored as. -/
theorem parse?_written (entries : List String) :
    (Json.parse? (written entries)).bind texts? = some entries := by
  have back : (Json.array (entries.map .text)).ReadsBack Json.depthLimit := by
    apply Json.array_readsBack
    intro item found
    obtain ⟨entry, -, rfl⟩ := List.mem_map.mp found
    exact Json.text_readsBack _ entry
  rw [written, Json.parse?_compact back, Option.bind_some, texts?_array]

theorem stored_written (entries : List String) : stored (some (written entries)) = entries := by
  rw [stored, Option.bind_some, parse?_written, Option.getD_some]

theorem entriesOf_written {entries : List String} (presentable : Presentable entries) :
    entriesOf (some (written entries)) = entries := by
  rw [entriesOf, stored_written, tidy_eq_distinctLines, distinctLines_of_presentable presentable]
  exact lastOnes_of_le presentable.few

/-! ## Submission after submission -/

section Recording

variable {σ : Type} [FieldStore σ]

theorem record_of_blank (place : σ) (space : String) {prompt : String}
    (blank : Prompt.normalize prompt = "") :
    record place space prompt = (list place space, place) := by
  simp [record, blank]

theorem record_of_full (place : σ) (space : String) {prompt : String}
    (full : Prompt.normalize prompt ≠ "") :
    record place space prompt =
      (push (Prompt.normalize prompt) (list place space),
        store place space (push (Prompt.normalize prompt) (list place space))) := by
  simp [record, full]

theorem list_eq (place : σ) (space : String) :
    list place space =
      (distinctLines (stored (FieldStore.field? place space field))).rtake 5 := by
  rw [list, entriesOf, tidy_eq_distinctLines]
  rfl

/-- One more prompt makes the list that all prompts together make. -/
theorem push_recent (prompts : List String) {prompt : String}
    (full : Prompt.normalize prompt ≠ "") :
    push (Prompt.normalize prompt) ((distinctLines prompts).rtake 5) =
      (distinctLines (prompts ++ [prompt])).rtake 5 := by
  rw [distinctLines_concat prompts full]
  exact lastOnes_moveToEnd (List.nodup_dedup _) 5 _

/-- The place after prompts have been submitted one after the other. -/
def recordAll (place : σ) (space : String) (prompts : List String) : σ :=
  prompts.foldl (fun place prompt => (record place space prompt).2) place

variable {atWork : σ → Prop}

theorem record_step (working : FieldStore.Working atWork) {place : σ} (ready : atWork place)
    {space : String} {prompts : List String}
    (listed : list place space = (distinctLines prompts).rtake 5) (prompt : String) :
    atWork (record place space prompt).2 ∧
    (record place space prompt).1 = (distinctLines (prompts ++ [prompt])).rtake 5 ∧
    list (record place space prompt).2 space = (record place space prompt).1 ∧
    (Prompt.normalize prompt ≠ "" →
      FieldStore.field? (record place space prompt).2 space field =
        some (written (record place space prompt).1)) := by
  by_cases blank : Prompt.normalize prompt = ""
  · rw [record_of_blank place space blank, distinctLines_concat_blank prompts blank]
    exact ⟨ready, listed, rfl, fun full => absurd blank full⟩
  · rw [record_of_full place space blank, listed, push_recent prompts blank]
    have kept : FieldStore.field? (store place space _) space field = some (written _) :=
      working.finds space field (written ((distinctLines (prompts ++ [prompt])).rtake 5)) ready
    refine ⟨working.stays _ _ _ ready, rfl, ?_, fun _ => kept⟩
    rw [list, kept, entriesOf_written (recent_presentable _)]

theorem recordAll_step (working : FieldStore.Working atWork) {place : σ} (ready : atWork place)
    {space : String} {history : List String}
    (listed : list place space = (distinctLines history).rtake 5) (prompts : List String) :
    atWork (recordAll place space prompts) ∧
      list (recordAll place space prompts) space =
        (distinctLines (history ++ prompts)).rtake 5 := by
  induction prompts generalizing place history with
  | nil => exact ⟨ready, by rw [List.append_nil]; exact listed⟩
  | cons prompt prompts induction =>
      obtain ⟨stays, entries, shows, -⟩ := record_step working ready listed prompt
      have rest := induction stays (shows.trans entries)
      rwa [List.append_assoc, List.singleton_append] at rest

theorem recordAll_cons (place : σ) (space prompt : String) (prompts : List String) :
    recordAll place space (prompt :: prompts) =
      recordAll (record place space prompt).2 space prompts :=
  List.foldl_cons ..

theorem recordAll_append (place : σ) (space : String) (first second : List String) :
    recordAll place space (first ++ second) =
      recordAll (recordAll place space first) space second :=
  List.foldl_append

theorem list_congr {first second : σ} {space : String}
    (same : FieldStore.field? first space field = FieldStore.field? second space field) :
    list first space = list second space :=
  congrArg entriesOf same

theorem record_stays (working : FieldStore.Working atWork) {place : σ} (ready : atWork place)
    (space prompt : String) : atWork (record place space prompt).2 :=
  (record_step working ready (list_eq place space) prompt).1

theorem recordAll_stays (working : FieldStore.Working atWork) {place : σ}
    (ready : atWork place) (space : String) (prompts : List String) :
    atWork (recordAll place space prompts) :=
  (recordAll_step working ready (list_eq place space) prompts).1

/-- What recording makes of the history depends on nothing but the history. -/
theorem recordAll_congr (working : FieldStore.Working atWork) {first second : σ}
    (firstReady : atWork first) (secondReady : atWork second) {space : String}
    (same : FieldStore.field? first space field = FieldStore.field? second space field)
    (prompts : List String) :
    FieldStore.field? (recordAll first space prompts) space field =
      FieldStore.field? (recordAll second space prompts) space field := by
  induction prompts generalizing first second with
  | nil => exact same
  | cons prompt prompts induction =>
      rw [recordAll_cons, recordAll_cons]
      apply induction (record_stays working firstReady space prompt)
        (record_stays working secondReady space prompt)
      by_cases blank : Prompt.normalize prompt = ""
      · rw [record_of_blank _ _ blank, record_of_blank _ _ blank]
        exact same
      · rw [record_of_full _ _ blank, record_of_full _ _ blank, list_congr same]
        exact (working.finds _ _ _ firstReady).trans (working.finds _ _ _ secondReady).symm

/-- Whatever is stored in the field of the history and whatever is submitted after it, the list
is made up of the last five prompts of the whole sequence, put on one line, without the blank
ones and each only where it occurs last. Recording one more prompt returns the list as it is
from then on, which is also what the stored text says as soon as the prompt is not blank. -/
theorem list_recordAll (working : FieldStore.Working atWork) (place : σ) (ready : atWork place)
    (space : String) (prompts : List String) :
    let after := recordAll place space prompts
    let history := stored (FieldStore.field? place space field) ++ prompts
    list after space =
        (((history.map Prompt.normalize).filter (· ≠ "")).dedup).rtake 5 ∧
    Presentable (list after space) ∧
    ∀ prompt,
      let next := record after space prompt
      Presentable next.1 ∧ list next.2 space = next.1 ∧
        (Prompt.normalize prompt ≠ "" →
          ((FieldStore.field? next.2 space field).bind Json.parse?).bind texts? =
            some next.1) := by
  intro after history
  obtain ⟨stays, listed⟩ := recordAll_step working ready (list_eq place space) prompts
  refine ⟨listed, ?_, ?_⟩
  · rw [listed]
    exact recent_presentable _
  · intro prompt next
    obtain ⟨-, made, shows, kept⟩ := record_step working stays listed prompt
    refine ⟨?_, shows, ?_⟩
    · rw [made]
      exact recent_presentable _
    · intro full
      rw [kept full, Option.bind_some, parse?_written]

/-- Prompts stored by hand, one of them on two lines and one blank, and three more submitted. -/
theorem list_recordAll_legacy :
    let place : FieldTable := FieldTable.empty.set "GoogleDocs" "saved_prompts"
      "[\" a\\nb \", \"\", \"c\", \"d\", \"e\"]"
    let after := recordAll place "GoogleDocs" ["f", " ", "c"]
    list after "GoogleDocs" = ["a b", "d", "e", "f", "c"] ∧
      ((FieldStore.field? (record after "GoogleDocs" "g").2 "GoogleDocs" field).bind
        Json.parse?).bind texts? = some (record after "GoogleDocs" "g").1 := by
  intro place after
  have history := list_recordAll FieldStore.working_fieldTable place trivial "GoogleDocs"
    ["f", " ", "c"]
  have read : stored (FieldStore.field? place "GoogleDocs" field) =
      [" a\nb ", "", "c", "d", "e"] := by decide +kernel
  rw [read] at history
  have last : (((([" a\nb ", "", "c", "d", "e"] ++ ["f", " ", "c"]).map
      Prompt.normalize).filter (· ≠ "")).dedup).rtake 5 = ["a b", "d", "e", "f", "c"] := by
    decide +kernel
  have full : Prompt.normalize "g" ≠ "" := by decide +kernel
  exact ⟨history.1.trans last, (history.2.2 "g").2.2 full⟩

end Recording

end History

end PromptClient
