import PromptClient.Text.Blank

/-! # Trimming and splitting

What trimming leaves is the middle of a list, between members that the test accepts, and it
neither begins nor ends with such a member. Splitting leaves parts without such members. -/

namespace PromptClient.Text

variable {α : Type} {test : α → Bool} {members : List α}

/-- Neither begins nor ends with a member that the test accepts. -/
structure Bare (test : α → Bool) (members : List α) : Prop where
  head : ∀ member ∈ members.head?, test member = false
  last : ∀ member ∈ members.getLast?, test member = false

theorem dropWhile_of_head (head : ∀ member ∈ members.head?, test member = false) :
    members.dropWhile test = members := by
  cases members with
  | nil => rfl
  | cons first rest => simp [head first rfl]

theorem dropEndWhile_of_last (last : ∀ member ∈ members.getLast?, test member = false) :
    dropEndWhile test members = members := by
  have reversed : members.reverse.dropWhile test = members.reverse :=
    dropWhile_of_head (by simpa using last)
  rw [dropEndWhile, reversed, List.reverse_reverse]

theorem strip_of_bare (bare : Bare test members) : strip test members = members := by
  rw [strip, dropWhile_of_head bare.head, dropEndWhile_of_last bare.last]

theorem bare_of_forall (none : ∀ member ∈ members, test member = false) :
    Bare test members where
  head := fun member found => none member (List.mem_of_mem_head? found)
  last := fun member found => none member (List.mem_of_mem_getLast? found)

theorem dropEndWhile_append_of_forall {after : List α}
    (back : ∀ member ∈ after, test member = true) :
    dropEndWhile test (members ++ after) = dropEndWhile test members := by
  have front : ∀ member ∈ after.reverse, test member = true := by simpa using back
  simp [dropEndWhile, List.dropWhile_append_of_pos front]

/-- What is put around a list for trimming to remove makes no difference. -/
theorem strip_append {before after : List α} (front : ∀ member ∈ before, test member = true)
    (back : ∀ member ∈ after, test member = true) (bare : Bare test members) :
    strip test (before ++ members ++ after) = members := by
  rw [strip, List.append_assoc, List.dropWhile_append_of_pos front]
  cases members with
  | nil =>
      have gone : after.dropWhile test = [] := by
        have all : (after ++ []).dropWhile test = ([] : List α).dropWhile test :=
          List.dropWhile_append_of_pos back
        simpa using all
      simp [gone, dropEndWhile]
  | cons first rest =>
      have kept : (first :: rest ++ after).dropWhile test = first :: rest ++ after :=
        dropWhile_of_head fun member found => bare.head member found
      rw [kept, dropEndWhile_append_of_forall back, dropEndWhile_of_last bare.last]

/-- Trimming cuts a list in three, of which it keeps the one in the middle. -/
theorem strip_split (test : α → Bool) (members : List α) :
    ∃ before after, members = before ++ strip test members ++ after ∧
      (∀ member ∈ before, test member = true) ∧ ∀ member ∈ after, test member = true := by
  have cut : ∀ members : List α, ∃ before, members = before ++ members.dropWhile test ∧
      ∀ member ∈ before, test member = true := fun members =>
    ⟨members.takeWhile test, List.takeWhile_append_dropWhile.symm,
      List.all_eq_true.mp List.all_takeWhile⟩
  obtain ⟨before, whole, front⟩ := cut members
  obtain ⟨after, rest, back⟩ := cut (members.dropWhile test).reverse
  refine ⟨before, after.reverse, ?_, front, by simpa using back⟩
  have turned := congrArg List.reverse rest
  rw [List.reverse_reverse, List.reverse_append] at turned
  rw [List.append_assoc, strip, dropEndWhile, ← turned]
  exact whole

theorem dropWhile_head (test : α → Bool) (members : List α) :
    ∀ member ∈ (members.dropWhile test).head?, test member = false := by
  intro member found
  have stops := List.head?_dropWhile_not test members
  rw [Option.mem_def] at found
  rwa [found] at stops

theorem strip_bare (test : α → Bool) (members : List α) :
    Bare test (strip test members) where
  head := by
    intro member found
    apply dropWhile_head test members member
    have front : strip test members <+: members.dropWhile test := by
      rw [← List.reverse_suffix, strip, dropEndWhile, List.reverse_reverse]
      exact List.dropWhile_suffix test
    obtain ⟨rest, whole⟩ := front
    rw [← whole, List.head?_append]
    simp [Option.mem_def.mp found]
  last := by
    intro member found
    apply dropWhile_head test (members.dropWhile test).reverse member
    rwa [strip, dropEndWhile, List.getLast?_reverse] at found

theorem strip_strip (test : α → Bool) (members : List α) :
    strip test (strip test members) = strip test members :=
  strip_of_bare (strip_bare test members)

theorem mem_of_mem_strip {member : α} (found : member ∈ strip test members) :
    member ∈ members := by
  obtain ⟨before, after, whole, -, -⟩ := strip_split test members
  rw [whole]
  simp [found]

/-- Trimming leaves nothing exactly of what the test accepts throughout. -/
theorem strip_eq_nil_iff :
    strip test members = [] ↔ ∀ member ∈ members, test member = true := by
  obtain ⟨before, after, whole, front, back⟩ := strip_split test members
  constructor
  · intro nothing
    rw [nothing, List.append_nil] at whole
    rw [whole]
    exact List.forall_mem_append.mpr ⟨front, back⟩
  · intro all
    have ends := (strip_bare test members).head
    cases left : strip test members with
    | nil => rfl
    | cons first rest =>
        have present : first ∈ strip test members := by simp [left]
        have passes := ends first (by simp [left])
        rw [all first (mem_of_mem_strip present)] at passes
        cases passes

theorem trim_eq_empty_iff (text : String) : trim text = "" ↔ isAllBlank text = true := by
  rw [← String.toList_eq_nil_iff, toList_trim, strip_eq_nil_iff, isAllBlank, List.all_eq_true]

theorem trim_trim (text : String) : trim (trim text) = trim text := by
  rw [← String.toList_inj, toList_trim, toList_trim, strip_strip]

theorem isAllBlank_trim {text : String} (full : isAllBlank text = false) :
    isAllBlank (trim text) = false := by
  rw [Bool.eq_false_iff, ne_eq, ← trim_eq_empty_iff] at full ⊢
  rwa [trim_trim]

/-! ## Splitting -/

theorem splitWhere_eq_splitOnP (test : α → Bool) (members : List α) :
    splitWhere test members = members.splitOnP test := by
  induction members with
  | nil => rfl
  | cons head tail induction =>
      rw [List.splitOnP_cons_eq_if_modifyHead, splitWhere, induction]
      cases parts : tail.splitOnP test with
      | nil => exact absurd parts (List.splitOnP_ne_nil test tail)
      | cons part rest => rfl

theorem splitWhere_ne_nil (test : α → Bool) (members : List α) :
    splitWhere test members ≠ [] := by
  rw [splitWhere_eq_splitOnP]
  exact List.splitOnP_ne_nil test members

theorem splitWhere_of_forall {members : List α} (whole : ∀ member ∈ members, test member = false) :
    splitWhere test members = [members] := by
  rw [splitWhere_eq_splitOnP]
  exact List.splitOnP_eq_singleton whole

/-- Splitting at a separator leaves what is before it and what is after it to be split. -/
theorem splitWhere_append_stop {stop : α} (stops : test stop = true) (before after : List α) :
    splitWhere test (before ++ stop :: after) =
      splitWhere test before ++ splitWhere test after := by
  simp only [splitWhere_eq_splitOnP]
  exact List.splitOnP_append_cons before after stops

/-- Parts that hold no separator are found again between separators. -/
theorem splitWhere_intercalate [DecidableEq α] {stop : α} {parts : List (List α)}
    (free : ∀ part ∈ parts, stop ∉ part) (some : parts ≠ []) :
    splitWhere (· = stop) (List.intercalate [stop] parts) = parts := by
  rw [splitWhere_eq_splitOnP]
  exact List.splitOn_intercalate stop free some

theorem mem_of_mem_intercalate {stop member : α} {parts : List (List α)}
    (found : member ∈ List.intercalate [stop] parts) :
    member = stop ∨ ∃ part ∈ parts, member ∈ part := by
  induction parts with
  | nil => cases found
  | cons part rest induction =>
      cases rest with
      | nil =>
          rw [List.intercalate_singleton] at found
          exact .inr ⟨part, List.mem_cons_self, found⟩
      | cons next rest =>
          rw [List.intercalate_cons_cons, List.mem_append, List.mem_append] at found
          rcases found with (own | stops) | later
          · exact .inr ⟨part, List.mem_cons_self, own⟩
          · exact .inl (List.mem_singleton.mp stops)
          · rcases induction later with stops | ⟨other, present, own⟩
            · exact .inl stops
            · exact .inr ⟨other, List.mem_cons_of_mem part present, own⟩

/-- No part holds a separator. -/
theorem splitWhere_forall (test : α → Bool) (members : List α) :
    ∀ part ∈ splitWhere test members, ∀ member ∈ part, test member = false := by
  induction members with
  | nil => simp [splitWhere]
  | cons head tail induction =>
      cases separates : test head with
      | true => simpa [splitWhere, separates] using induction
      | false =>
          cases parts : splitWhere test tail with
          | nil => exact absurd parts (splitWhere_ne_nil test tail)
          | cons part rest =>
              rw [parts] at induction
              simpa [splitWhere, separates, parts] using induction

/-- The parts together are the list without its separators. -/
theorem flatten_splitWhere (test : α → Bool) (members : List α) :
    (splitWhere test members).flatten = members.filter (!test ·) := by
  induction members with
  | nil => rfl
  | cons head tail induction =>
      cases separates : test head with
      | true => simpa [splitWhere, separates] using induction
      | false =>
          rw [List.filter_cons_of_pos (by simp [separates]), ← induction]
          cases parts : splitWhere test tail with
          | nil => exact absurd parts (splitWhere_ne_nil test tail)
          | cons part rest => simp [splitWhere, separates, parts]

end PromptClient.Text
