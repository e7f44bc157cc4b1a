import PromptClient.Proofs.Trimming
import PromptClient.Prompt

/-! # Prompts on one line

A normalized prompt has no line break and no blank at either end, and these are the prompts
that normalizing leaves alone. -/

namespace PromptClient.Prompt

/-- Has no line break, and no blank at either end. -/
structure OneLine (line : List Char) : Prop where
  whole : ∀ char ∈ line, isLineBreak char = false
  bare : Text.Bare Text.isBlank line

theorem normalizeChars_of_oneLine {line : List Char} (single : OneLine line) :
    normalizeChars line = line := by
  unfold normalizeChars fullLines
  rw [Text.splitWhere_of_forall single.whole, List.map_singleton,
    Text.strip_of_bare single.bare]
  cases line <;> simp [List.intercalate]

/-- The lines that a prompt is made up of when it is put on one line. -/
theorem fullLines_oneLine (prompt : List Char) :
    ∀ line ∈ fullLines prompt, line ≠ [] ∧ OneLine line := by
  intro line found
  obtain ⟨kept, full⟩ := List.mem_filter.mp found
  obtain ⟨part, separate, rfl⟩ := List.mem_map.mp kept
  refine ⟨by simpa using full, ?_, Text.strip_bare _ part⟩
  intro char member
  exact Text.splitWhere_forall _ prompt part separate char (Text.mem_of_mem_strip member)

theorem oneLine_join {line rest : List Char} (full : line ≠ []) (single : OneLine line)
    (more : rest ≠ []) (others : OneLine rest) : OneLine (line ++ ' ' :: rest) where
  whole := by
    intro char found
    rcases List.mem_append.mp found with found | found
    · exact single.whole char found
    · rcases List.mem_cons.mp found with rfl | found
      · decide
      · exact others.whole char found
  bare := by
    refine ⟨?_, ?_⟩
    · obtain ⟨first, line, rfl⟩ := List.exists_cons_of_ne_nil full
      exact fun char found => single.bare.head char found
    · intro char found
      apply others.bare.last char
      rw [List.getLast?_append, List.getLast?_cons, List.getLast?_eq_some_getLast more] at found
      rw [List.getLast?_eq_some_getLast more]
      simpa using found

theorem intercalate_oneLine (lines : List (List Char))
    (each : ∀ line ∈ lines, line ≠ [] ∧ OneLine line) :
    OneLine (List.intercalate [' '] lines) ∧
      (lines ≠ [] → List.intercalate [' '] lines ≠ []) := by
  induction lines with
  | nil =>
      refine ⟨⟨?_, ?_, ?_⟩, fun impossible => absurd rfl impossible⟩ <;>
        simp [List.intercalate]
  | cons line rest induction =>
      obtain ⟨⟨full, single⟩, others⟩ := List.forall_mem_cons.mp each
      obtain ⟨joined, more⟩ := induction others
      -- A blank stands between two lines only, not after the last.
      cases rest with
      | nil => simpa [List.intercalate] using ⟨single, full⟩
      | cons next rest =>
          have more := more (List.cons_ne_nil _ _)
          rw [List.intercalate_cons_cons, List.append_assoc, List.singleton_append]
          exact ⟨oneLine_join full single more joined, by simp⟩

theorem normalizeChars_oneLine (prompt : List Char) : OneLine (normalizeChars prompt) :=
  (intercalate_oneLine _ (fullLines_oneLine prompt)).1

/-- Putting a prompt on one line a second time changes nothing. -/
@[simp] theorem normalize_normalize (prompt : String) :
    normalize (normalize prompt) = normalize prompt := by
  simp only [normalize, String.toList_ofList]
  rw [normalizeChars_of_oneLine (normalizeChars_oneLine prompt.toList)]

end PromptClient.Prompt
