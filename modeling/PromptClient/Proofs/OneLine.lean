import PromptClient.Proofs.Judgement
import PromptClient.Proofs.Prompt

/-! # What putting a prompt on one line keeps

Only blanks are taken out of a prompt, and only blanks are put in. So nothing is left exactly of a
prompt that is blank throughout, and this is what keeps a form from being sent. What stands before
a line break and what stands after it are put on one line each on its own. -/

namespace PromptClient

namespace Text

/-- The characters of a text that are not blank, in order. -/
def nonBlank (text : List Char) : List Char :=
  text.filter (!isBlank ·)

theorem nonBlank_eq_nil_iff {text : List Char} :
    nonBlank text = [] ↔ ∀ char ∈ text, isBlank char = true := by
  simp [nonBlank]

theorem nonBlank_append (first second : List Char) :
    nonBlank (first ++ second) = nonBlank first ++ nonBlank second :=
  List.filter_append first second

theorem nonBlank_flatten (parts : List (List Char)) :
    nonBlank parts.flatten = (parts.map nonBlank).flatten :=
  List.filter_flatten

theorem nonBlank_strip (text : List Char) : nonBlank (strip isBlank text) = nonBlank text := by
  rcases strip_split isBlank text with ⟨before, after, whole, front, back⟩
  have cut := congrArg nonBlank whole
  rw [nonBlank_append, nonBlank_append, nonBlank_eq_nil_iff.mpr front,
    nonBlank_eq_nil_iff.mpr back, List.nil_append, List.append_nil] at cut
  exact cut.symm

/-- Splitting at blanks loses nothing else. -/
theorem nonBlank_splitWhere {test : Char → Bool}
    (blank : ∀ char, test char = true → isBlank char = true) (text : List Char) :
    nonBlank (splitWhere test text).flatten = nonBlank text := by
  rw [flatten_splitWhere, nonBlank, List.filter_filter, nonBlank]
  apply List.filter_congr
  intro char _
  cases separates : test char with
  | true => simp [blank char separates]
  | false => simp

end Text

namespace Prompt

theorem isBlank_of_isLineBreak (char : Char) (breaks : isLineBreak char = true) :
    Text.isBlank char = true := by
  rcases Bool.or_eq_true_iff.mp breaks with feed | turn
  · rw [of_decide_eq_true feed]
    decide
  · rw [of_decide_eq_true turn]
    decide

/-! ## What is kept -/

theorem nonBlank_fullLines (prompt : List Char) :
    Text.nonBlank (fullLines prompt).flatten = Text.nonBlank prompt := by
  have trimmed : (Text.nonBlank ∘ Text.strip Text.isBlank) = Text.nonBlank := by
    funext line
    exact Text.nonBlank_strip line
  calc Text.nonBlank (fullLines prompt).flatten
    _ = Text.nonBlank ((Text.splitWhere isLineBreak prompt).map
          (Text.strip Text.isBlank)).flatten := by
        rw [fullLines, List.flatten_filter_not_isEmpty]
    _ = Text.nonBlank (Text.splitWhere isLineBreak prompt).flatten := by
        rw [Text.nonBlank_flatten, List.map_map, trimmed, ← Text.nonBlank_flatten]
    _ = Text.nonBlank prompt := Text.nonBlank_splitWhere isBlank_of_isLineBreak prompt

theorem nonBlank_intercalate (lines : List (List Char)) :
    Text.nonBlank (List.intercalate [' '] lines) = Text.nonBlank lines.flatten := by
  have space : Text.nonBlank [' '] = [] := by decide
  induction lines with
  | nil => rfl
  | cons line rest induction =>
      cases rest with
      | nil => simp
      | cons next rest =>
          rw [List.intercalate_cons_cons, Text.nonBlank_append, Text.nonBlank_append, space,
            induction, List.append_nil, ← Text.nonBlank_append, ← List.flatten_cons]

/-- Putting a prompt on one line changes nothing but blanks. -/
theorem nonBlank_normalizeChars (prompt : List Char) :
    Text.nonBlank (normalizeChars prompt) = Text.nonBlank prompt := by
  rw [normalizeChars, nonBlank_intercalate, nonBlank_fullLines]

/-- Nothing is left exactly of a prompt that is blank throughout. -/
theorem normalizeChars_eq_nil_iff {prompt : List Char} :
    normalizeChars prompt = [] ↔ ∀ char ∈ prompt, Text.isBlank char = true := by
  rw [← Text.nonBlank_eq_nil_iff, ← nonBlank_normalizeChars]
  constructor
  · intro nothing
    rw [nothing]
    rfl
  · intro blank
    have bare := (normalizeChars_oneLine prompt).bare
    rw [← Text.strip_of_bare bare, Text.strip_eq_nil_iff]
    exact Text.nonBlank_eq_nil_iff.mp blank

theorem normalize_eq_empty_iff (prompt : String) :
    normalize prompt = "" ↔ Text.isAllBlank prompt = true := by
  rw [← String.toList_eq_nil_iff, normalize, String.toList_ofList, normalizeChars_eq_nil_iff,
    Text.isAllBlank, List.all_eq_true]

theorem normalize_eq_self_iff (prompt : String) :
    normalize prompt = prompt ↔ OneLine prompt.toList := by
  rw [← String.toList_inj, normalize, String.toList_ofList]
  constructor
  · intro same
    rw [← same]
    exact normalizeChars_oneLine prompt.toList
  · exact normalizeChars_of_oneLine

/-! ## Line by line -/

theorem fullLines_append_break {stop : Char} (breaks : isLineBreak stop = true)
    (before after : List Char) :
    fullLines (before ++ stop :: after) = fullLines before ++ fullLines after := by
  simp only [fullLines, Text.splitWhere_append_stop breaks, List.map_append, List.filter_append]

theorem fullLines_nil : fullLines [] = [] := by
  decide

/-- However many line breaks there are, they only part lines. -/
theorem fullLines_append_breaks {breaks : List Char} (some : breaks ≠ [])
    (all : ∀ char ∈ breaks, isLineBreak char = true) (before after : List Char) :
    fullLines (before ++ breaks ++ after) = fullLines before ++ fullLines after := by
  -- On the breaks: in front of every one but the first there is an empty line only.
  induction breaks generalizing before with
  | nil => exact absurd rfl some
  | cons stop rest induction =>
      rcases List.forall_mem_cons.mp all with ⟨first, others⟩
      rw [List.append_assoc, List.cons_append, fullLines_append_break first]
      cases rest with
      | nil => rfl
      | cons next rest =>
          have later := induction (List.cons_ne_nil _ _) others []
          rw [List.nil_append, fullLines_nil, List.nil_append] at later
          rw [later]

/-- Two texts with a space between them, or the only one that is not empty. -/
def joined (first second : String) : String :=
  if first = "" then second else if second = "" then first else first ++ " " ++ second

theorem normalize_eq_intercalate (prompt : String) :
    normalize prompt = String.intercalate " " ((fullLines prompt.toList).map String.ofList) := by
  rw [← String.toList_inj, normalize, String.toList_ofList, normalizeChars,
    String.toList_intercalate, List.map_map]
  simp [Function.comp_def]

theorem fullLines_eq_nil_iff (prompt : String) :
    fullLines prompt.toList = [] ↔ normalize prompt = "" := by
  constructor
  · intro none
    rw [normalize_eq_intercalate, none]
    rfl
  · intro empty
    by_cases some : fullLines prompt.toList = []
    · exact some
    · have left := (intercalate_oneLine _ (fullLines_oneLine prompt.toList)).2 some
      rw [← String.toList_eq_nil_iff, normalize, String.toList_ofList] at empty
      exact absurd empty left

/-- What line breaks part is put on one line each on its own. -/
theorem normalize_append_breaks {breaks : String} (some : breaks ≠ "")
    (all : breaks.toList.all isLineBreak = true) (before after : String) :
    normalize (before ++ breaks ++ after) = joined (normalize before) (normalize after) := by
  have parted : fullLines (before ++ breaks ++ after).toList =
      fullLines before.toList ++ fullLines after.toList := by
    rw [String.toList_append, String.toList_append]
    apply fullLines_append_breaks _ (List.all_eq_true.mp all)
    rwa [ne_eq, String.toList_eq_nil_iff]
  rw [normalize_eq_intercalate, parted, joined]
  -- A space is put between two lines, so both sides must have one.
  by_cases first : normalize before = ""
  · rw [if_pos first, (fullLines_eq_nil_iff before).mpr first, List.nil_append,
      ← normalize_eq_intercalate]
  · by_cases second : normalize after = ""
    · rw [if_neg first, if_pos second, (fullLines_eq_nil_iff after).mpr second, List.append_nil,
        ← normalize_eq_intercalate]
    · have firstLines := mt (fullLines_eq_nil_iff before).mp first
      have secondLines := mt (fullLines_eq_nil_iff after).mp second
      rw [if_neg first, if_neg second, List.map_append,
        String.intercalate_append_of_ne_nil (by simpa using firstLines)
          (by simpa using secondLines),
        ← normalize_eq_intercalate, ← normalize_eq_intercalate]

end Prompt

/-! ## Blank prompts -/

variable {σ : Type} [Storage σ]

theorem Login.resolveCredential_refuses {login : Login σ} {mode : CredentialMode}
    {manual : ManualCredential} {fault : ValidationFault}
    (refused : login.resolveCredential mode manual = .error fault) : fault ≠ .emptyPrompt := by
  cases mode with
  | session =>
      rw [resolveCredential_session] at refused
      rw [sessionCredential_refuses refused]
      exact ValidationFault.noConfusion
  | manual =>
      have missing : ∀ tool, missingManual tool ≠ .emptyPrompt := by
        intro tool
        cases tool <;> exact ValidationFault.noConfusion
      rw [resolveCredential_manual] at refused
      cases manual with
      | absent =>
          cases refused
          exact missing _
      | file path => cases refused
      | token text =>
          rw [manualCredential] at refused
          split at refused
          · cases refused
            exact missing _
          · cases refused

namespace Desk

theorem prepareFile_refuses {desk : Desk σ} {values : FormValues} {path : String}
    {fault : ValidationFault} (refused : desk.prepareFile values path = .error fault) :
    fault ≠ .emptyPrompt := by
  rw [prepareFile] at refused
  split at refused
  · cases refused
    exact ValidationFault.noConfusion
  · split at refused
    · cases refused
      exact ValidationFault.noConfusion
    · cases refused

/-- A prompt is called empty exactly if it is blank throughout, whatever else may be missing. -/
theorem prepare_emptyPrompt_iff (desk : Desk σ) (values : FormValues) :
    desk.prepare values = .error .emptyPrompt ↔ Text.isAllBlank values.prompt = true := by
  rw [← Prompt.normalize_eq_empty_iff, prepare]
  by_cases blank : Prompt.normalize values.prompt = ""
  · simp [blank]
  · simp only [blank, if_false, iff_false]
    intro refused
    split at refused
    · rename_i fault resolved
      cases refused
      exact Login.resolveCredential_refuses resolved rfl
    · exact prepareFile_refuses refused rfl
    · cases refused

/-- An attempt ends for want of a prompt exactly if the form was free and the prompt blank. -/
theorem submit_emptyPrompt_iff (desk : Desk σ) (values : FormValues) :
    (desk.submit values).2.2 = .over (.error (.validation .emptyPrompt)) ↔
      desk.form.locked = false ∧ Text.isAllBlank values.prompt = true := by
  rw [← prepare_emptyPrompt_iff desk values]
  cases locked : desk.form.locked with
  | true => simp [submit_of_locked values locked]
  | false =>
      cases prepared : desk.prepare values with
      | error fault => simp [submit_of_refused locked prepared]
      | ok submission => simp [submit_of_prepared locked prepared]

end Desk

/-- What becomes of a prompt that is put on one line.

It has neither a line break nor blanks at its ends, and a prompt that has none of them stays as it
is. All characters are kept but blanks, so that nothing is left exactly of a blank prompt, which
is what a form refuses as empty. Any line breaks between two texts, such as a line feed or a
carriage return with a line feed after it, become a space between what is left of the texts, or
nothing if nothing is left of one of them. -/
theorem Prompt.normalize_keeps_text (desk : Desk σ) (values : FormValues) (prompt : String) :
    let line := normalize prompt
    OneLine line.toList ∧
    (line = prompt ↔ OneLine prompt.toList) ∧
    normalize line = line ∧
    Text.nonBlank line.toList = Text.nonBlank prompt.toList ∧
    (line = "" ↔ Text.isAllBlank prompt = true) ∧
    (desk.prepare values = .error .emptyPrompt ↔ Text.isAllBlank values.prompt = true) ∧
    ((desk.submit values).2.2 = .over (.error (.validation .emptyPrompt)) ↔
      desk.form.locked = false ∧ Text.isAllBlank values.prompt = true) ∧
    ∀ breaks : String, breaks ≠ "" → breaks.toList.all isLineBreak = true →
      ∀ more, normalize (prompt ++ breaks ++ more) = joined line (normalize more) := by
  intro line
  have chars : line.toList = normalizeChars prompt.toList := String.toList_ofList
  refine ⟨?_, normalize_eq_self_iff prompt, normalize_normalize prompt, ?_,
    normalize_eq_empty_iff prompt, desk.prepare_emptyPrompt_iff values,
    desk.submit_emptyPrompt_iff values, ?_⟩
  · rw [chars]
    exact normalizeChars_oneLine prompt.toList
  · rw [chars]
    exact nonBlank_normalizeChars prompt.toList
  · intro breaks some all more
    exact normalize_append_breaks some all prompt more

/-- Blanks of all kinds around two lines with an empty one between them, and a form that is refused
for its prompt although it has no credential either. -/
theorem Prompt.normalize_keeps_text_folded :
    let login : Login MemoryStorage :=
      Login.start .slackChannel ⟨"", "", "", "", none⟩ ⟨none, ⟨[]⟩, ⟨[]⟩⟩ 0 true
    let desk : Desk MemoryStorage :=
      (Desk.start login .standard ⟨fun text => text, fun text => text⟩).1
    let values : FormValues := ⟨"\u2003\r\n", "", "", false, []⟩
    desk.prepare values = .error .emptyPrompt ∧
      normalize ("\u2003a\n" ++ "\r\n" ++ "\tb  c ") = "a b  c" ∧
      normalize ("\u2003a\n" ++ "\r\n" ++ "\t") = "a" := by
  intro login desk values
  rcases normalize_keeps_text desk values "\u2003a\n" with ⟨-, -, -, -, -, refused, -, folded⟩
  have lines := folded "\r\n" (by decide) (by decide)
  have first : normalize "\u2003a\n" = "a" := by decide +kernel
  have second : normalize "\tb  c " = "b  c" := by decide +kernel
  have third : normalize "\t" = "" := by decide +kernel
  refine ⟨refused.mpr (by decide +kernel), ?_, ?_⟩
  · rw [lines, first, second]
    decide
  · rw [lines, first, third]
    decide

end PromptClient
