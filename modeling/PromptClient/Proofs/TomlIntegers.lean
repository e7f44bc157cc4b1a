import PromptClient.Toml.Document

/-! # Whole numbers in documents

A reader accepts a whole number only if it fits into 64 bits, signed. What lines do afterwards
is to move values about, so every whole number in a document that is accepted fits, however deep
it lies. -/

namespace PromptClient.Toml

open PromptClient.Number

/-- Every whole number in the value fits into 64 bits. -/
inductive Fits : Toml → Prop
  | text (value : String) : Fits (.text value)
  | integer {value : Int} (fits : fitsInt64 value = true) : Fits (.integer value)
  | real : Fits .real
  | moment : Fits .moment
  | boolean (value : Bool) : Fits (.boolean value)
  | array {items : List Toml} (each : ∀ item ∈ items, Fits item) : Fits (.array items)
  | table {origin : Origin} {members : Members} (each : ∀ member ∈ members, Fits member.2) :
      Fits (.table origin members)
  | tables {elements : List Members}
      (each : ∀ element ∈ elements, ∀ member ∈ element, Fits member.2) :
      Fits (.tables elements)

/-- Every whole number in the table fits into 64 bits. -/
def AllFit (members : Members) : Prop :=
  ∀ member ∈ members, Fits member.2

/-- Whatever the change makes of a table, it brings in no number that does not fit. -/
def KeepsFit (change : Origin → Members → Option Members) : Prop :=
  ∀ origin members after, AllFit members → change origin members = some after → AllFit after

/-! ## Tables -/

section Tables

variable {name : String} {value : Toml} {members after : Members}

theorem allFit_nil : AllFit [] := by
  intro member found
  cases found

theorem AllFit.concat (all : AllFit members) (fits : Fits value) :
    AllFit (members ++ [(name, value)]) := by
  intro member found
  rcases List.mem_append.mp found with before | last
  · exact all member before
  · rw [List.mem_singleton.mp last]
    exact fits

theorem AllFit.lookup (all : AllFit members) (found : members.lookup name = some value) :
    Fits value := by
  rcases List.lookup_eq_some_iff.mp found with ⟨before, later, whole, -⟩
  exact all (name, value) (by simp [whole])

theorem AllFit.put (all : AllFit members) (fits : Fits value) :
    AllFit (put name value members) := by
  induction members with
  | nil =>
      intro member found
      rw [List.mem_singleton.mp found]
      exact fits
  | cons head rest induction =>
      rcases List.forall_mem_cons.mp all with ⟨first, others⟩
      unfold Toml.put
      split
      · exact List.forall_mem_cons.mpr ⟨fits, others⟩
      · exact List.forall_mem_cons.mpr ⟨first, induction others⟩

theorem AllFit.insertNew (all : AllFit members) (fits : Fits value)
    (inserted : insertNew name value members = some after) : AllFit after := by
  unfold Toml.insertNew at inserted
  split at inserted
  · cases inserted
  · cases inserted
    exact all.concat fits

theorem AllFit.elements {elements : List Members} (fits : Fits (.tables elements)) :
    ∀ element ∈ elements, AllFit element := by
  cases fits with
  | tables each => exact each

/-- A change keeps what lies around the table that it is made in. By induction on the way to
that table. -/
theorem KeepsFit.changeAt {change : Origin → Members → Option Members} (keeps : KeepsFit change)
    (route : Route) (names : List String) : KeepsFit (changeAt route change names) := by
  induction names with
  | nil => exact keeps
  | cons name names induction =>
      intro origin members after all changed
      unfold Toml.changeAt at changed
      split at changed
      · rcases Option.bind_eq_some_iff.mp changed with ⟨inner, made, same⟩
        cases same
        exact all.put (.table (induction _ _ inner allFit_nil made))
      · rename_i inside found
        split at changed
        · rcases Option.bind_eq_some_iff.mp changed with ⟨inner, made, same⟩
          cases same
          cases all.lookup found with
          | table each => exact all.put (.table (induction _ _ inner each made))
        · cases changed
      · rename_i elements found
        have each := AllFit.elements (all.lookup found)
        split at changed
        · rename_i last present
          rcases Option.bind_eq_some_iff.mp changed with ⟨inner, made, same⟩
          cases same
          have lastFits : AllFit inner :=
            induction _ _ inner (each last (List.mem_of_getLast? present)) made
          apply all.put
          apply Fits.tables
          intro element known
          rcases List.mem_append.mp known with before | now
          · exact each element ((List.dropLast_sublist elements).mem before)
          · rw [List.mem_singleton.mp now]
            exact lastFits
        · cases changed
      · cases changed

theorem AllFit.assign {names : List String} (all : AllFit members) (fits : Fits value)
    (assigned : assign names name value members = some after) : AllFit after := by
  have keeps : KeepsFit fun origin members =>
      if names.isEmpty || origin = .dotted then Toml.insertNew name value members else none := by
    intro origin members after all changed
    dsimp only at changed
    split at changed
    · exact all.insertNew fits changed
    · cases changed
  exact keeps.changeAt .dottedKey names .opened members after all assigned

end Tables

/-! ## Readers -/

theorem fits_bounded {number : Int} {value : Toml} (read : bounded? number = some value) :
    Fits value := by
  unfold bounded? at read
  split at read
  · cases read
    exact .integer ‹_›
  · cases read

theorem fits_real {negative : Bool} {written : List Char} {value : Toml}
    (read : real? negative written = some value) : Fits value := by
  unfold real? at read
  split at read
  · cases read
    exact .real
  · cases read

section Numbers

variable {input after : List Char} {value : Toml}

theorem fits_integerToBase {base : Nat} (read : integerToBase? base input = some (value, after)) :
    Fits value := by
  simp only [integerToBase?, Option.bind_eq_bind, Option.bind_eq_some_iff] at read
  rcases read with ⟨_, _, found, bounded, same⟩
  cases same
  exact fits_bounded bounded

theorem fits_integer {negative : Bool} {whole : List Char}
    (read : afterWhole?.integer negative whole input = some (value, after)) : Fits value := by
  simp only [afterWhole?.integer, Option.bind_eq_bind, Option.bind_eq_some_iff] at read
  rcases read with ⟨found, bounded, same⟩
  cases same
  exact fits_bounded bounded

theorem fits_afterWhole {negative : Bool} {whole : List Char}
    (read : afterWhole? negative whole input = some (value, after)) : Fits value := by
  unfold afterWhole? at read
  split at read
  · rcases Option.bind_eq_some_iff.mp read with ⟨⟨fraction, rest⟩, _, read⟩
    dsimp only at read
    split at read
    · split at read
      · rcases Option.bind_eq_some_iff.mp read with ⟨⟨power, rest⟩, _, read⟩
        rcases Option.bind_eq_some_iff.mp read with ⟨found, real, same⟩
        cases same
        exact fits_real real
      · cases read
        exact .real
    · cases read
      exact .real
  · split at read
    · rcases Option.bind_eq_some_iff.mp read with ⟨⟨power, rest⟩, _, read⟩
      rcases Option.bind_eq_some_iff.mp read with ⟨found, real, same⟩
      cases same
      exact fits_real real
    · exact fits_integer read
  · exact fits_integer read

theorem fits_number (read : number? input = some (value, after)) : Fits value := by
  unfold number? at read
  split at read
  · exact fits_integerToBase read
  · exact fits_integerToBase read
  · exact fits_integerToBase read
  · split at read
    · cases read
      exact .real
    · cases read
      exact .real
    · rcases Option.bind_eq_some_iff.mp read with ⟨whole, _, read⟩
      exact fits_afterWhole read

end Numbers

/-- The readers of values, of items and of members bring in no number that does not fit. By
induction on the readings left, since each of them calls the others. -/
theorem fits_readers (fuel : Nat) :
    (∀ depth input value after,
      readValue fuel depth input = some (value, after) → Fits value) ∧
    (∀ depth input items after, readItems fuel depth input = some (items, after) →
      ∀ item ∈ items, Fits item) ∧
    ∀ depth before input value after, AllFit before →
      readMembers fuel depth before input = some (value, after) → Fits value := by
  induction fuel with
  | zero =>
      refine ⟨?_, ?_, ?_⟩
      · intro depth input value after read
        cases read
      · intro depth input items after read
        cases read
      · intro depth before input value after _ read
        cases read
  | succ fuel induction =>
      rcases induction with ⟨values, lists, tables⟩
      refine ⟨?value, ?items, ?members⟩
      case value =>
        intro depth input value after read
        unfold readValue at read
        split at read
        · split at read
          · cases read
          · rcases Option.map_eq_some_iff.mp read with ⟨⟨items, rest⟩, found, same⟩
            cases same
            exact .array (lists _ _ items _ found)
        · split at read
          · cases read
          · split at read
            · cases read
              exact .table allFit_nil
            · exact tables _ _ _ value after allFit_nil read
        · rcases Option.map_eq_some_iff.mp read with ⟨rest, _, same⟩
          cases same
          exact .boolean true
        · rcases Option.map_eq_some_iff.mp read with ⟨rest, _, same⟩
          cases same
          exact .boolean false
        · split at read
          · cases read
            exact .text _
          · split at read
            · cases read
              exact .moment
            · exact fits_number read
      case items =>
        intro depth input items after read
        unfold readItems at read
        split at read
        · cases read
          simp
        · rcases Option.bind_eq_some_iff.mp read with ⟨⟨item, rest⟩, first, read⟩
          have fits := values _ _ item rest first
          dsimp only at read
          split at read
          · cases read
            simpa using fits
          · rcases Option.bind_eq_some_iff.mp read with ⟨⟨others, last⟩, more, same⟩
            cases same
            exact List.forall_mem_cons.mpr ⟨fits, lists _ _ others last more⟩
          · cases read
      case members =>
        intro depth before input value after all read
        unfold readMembers at read
        rcases Option.bind_eq_some_iff.mp read with ⟨⟨⟨names, name⟩, rest⟩, _, read⟩
        dsimp only at read
        split at read
        · rcases Option.bind_eq_some_iff.mp read with ⟨⟨found, left⟩, first, read⟩
          rcases Option.bind_eq_some_iff.mp read with ⟨members, assigned, read⟩
          have fits : AllFit members := all.assign (values _ _ found left first) assigned
          split at read
          · cases read
            exact .table fits
          · exact tables _ _ _ value after fits read
          · cases read
        · cases read

/-! ## Documents -/

/-- The value that a line gives to a name fits. -/
def Line.Fits : Line → Prop
  | .assignment _ _ value => value.Fits
  | _ => True

theorem fits_readLine {input after : List Char} {line : Line}
    (read : readLine input = some (line, after)) : line.Fits := by
  unfold readLine at read
  split at read
  · simp only [Option.bind_eq_bind, Option.bind_eq_some_iff] at read
    rcases read with ⟨_, _, _, _, _, _, same⟩
    cases same
    trivial
  · simp only [Option.bind_eq_bind, Option.bind_eq_some_iff] at read
    rcases read with ⟨_, _, _, _, _, _, same⟩
    cases same
    trivial
  · simp only [Option.bind_eq_bind, Option.bind_eq_some_iff] at read
    rcases read with ⟨_, _, _, _, ⟨value, rest⟩, found, _, _, same⟩
    cases same
    exact (fits_readers _).1 _ _ value rest found

theorem fits_readLines (fuel : Nat) : ∀ {input : List Char} {lines : List Line},
    readLines fuel input = some lines → ∀ line ∈ lines, line.Fits := by
  induction fuel with
  | zero =>
      intro input lines read
      cases read
  | succ fuel induction =>
      intro input lines read
      unfold readLines at read
      split at read
      · cases read
        simp
      · rcases Option.bind_eq_some_iff.mp read with ⟨⟨line, after⟩, first, read⟩
        rcases Option.bind_eq_some_iff.mp read with ⟨others, more, same⟩
        cases same
        exact List.forall_mem_cons.mpr ⟨fits_readLine first, induction more⟩

/-- The values before the first heading fit, and so do those of every section. -/
theorem fits_sections {lines : List Line} (fit : ∀ line ∈ lines, line.Fits) :
    (∀ given ∈ (sections lines).1, given.value.Fits) ∧
      ∀ part ∈ (sections lines).2, ∀ given ∈ part.assignments, given.value.Fits := by
  induction lines with
  | nil => simp [sections]
  | cons line rest induction =>
      rcases List.forall_mem_cons.mp fit with ⟨first, others⟩
      rcases induction others with ⟨front, parts⟩
      cases line with
      | assignment names name value =>
          exact ⟨List.forall_mem_cons.mpr ⟨first, front⟩, parts⟩
      | heading names name | element names name =>
          exact ⟨by simp [sections], List.forall_mem_cons.mpr ⟨front, parts⟩⟩

theorem AllFit.assignAll {assignments : List Assignment}
    (fit : ∀ given ∈ assignments, given.value.Fits) : ∀ {members after : Members},
    AllFit members → assignAll members assignments = some after → AllFit after := by
  induction assignments with
  | nil =>
      intro members after all assigned
      cases assigned
      exact all
  | cons given rest induction =>
      intro members after all assigned
      rcases List.forall_mem_cons.mp fit with ⟨first, others⟩
      rw [Toml.assignAll, List.foldlM_cons] at assigned
      rcases Option.bind_eq_some_iff.mp assigned with ⟨next, once, more⟩
      exact induction others (all.assign first once) more

theorem AllFit.openIn {part : Section} (fit : ∀ given ∈ part.assignments, given.value.Fits)
    {members after : Members} (all : AllFit members) (opens : openIn part members = some after) :
    AllFit after := by
  unfold Toml.openIn at opens
  split at opens
  · rcases Option.bind_eq_some_iff.mp opens with ⟨inner, made, same⟩
    cases same
    have fits : AllFit inner := assignAll fit allFit_nil made
    apply all.put
    split
    · exact .tables fun element known => List.mem_singleton.mp known ▸ fits
    · exact .table fits
  · rename_i known found
    split at opens
    · cases opens
    · rcases Option.bind_eq_some_iff.mp opens with ⟨inner, made, same⟩
      cases same
      cases all.lookup found with
      | table each => exact all.put (.table (assignAll fit each made))
  · rename_i elements found
    split at opens
    · rcases Option.bind_eq_some_iff.mp opens with ⟨inner, made, same⟩
      cases same
      have each := AllFit.elements (all.lookup found)
      apply all.put
      apply Fits.tables
      intro element known
      rcases List.mem_append.mp known with before | now
      · exact each element before
      · rw [List.mem_singleton.mp now]
        exact assignAll fit allFit_nil made
    · cases opens
  · cases opens

theorem AllFit.addSections {parts : List Section}
    (fit : ∀ part ∈ parts, ∀ given ∈ part.assignments, given.value.Fits) :
    ∀ {document after : Members}, AllFit document →
      parts.foldlM addSection document = some after → AllFit after := by
  induction parts with
  | nil =>
      intro document after all added
      cases added
      exact all
  | cons part rest induction =>
      intro document after all added
      rcases List.forall_mem_cons.mp fit with ⟨first, others⟩
      rw [List.foldlM_cons] at added
      rcases Option.bind_eq_some_iff.mp added with ⟨next, once, more⟩
      have keeps : KeepsFit fun _ members => Toml.openIn part members :=
        fun _ _ _ all opens => all.openIn first opens
      have fits : AllFit next := keeps.changeAt .heading part.names .opened document next all once
      exact induction others fits more

/-- Every whole number in a document that is accepted fits into 64 bits. -/
theorem allFit_document {text : String} {document : Members}
    (accepted : document? text = some document) : AllFit document := by
  rcases Option.bind_eq_some_iff.mp accepted with ⟨lines, read, accepted⟩
  rcases Option.bind_eq_some_iff.mp accepted with ⟨first, assigned, added⟩
  rcases fits_sections (fits_readLines _ read) with ⟨front, parts⟩
  exact (AllFit.assignAll front allFit_nil assigned).addSections parts added

end PromptClient.Toml
