import PromptClient.Proofs.JsonPlaces
import PromptClient.Cookie.Text

/-! # Skipping JSON

A member of a cookie file that says nothing of the cookie is skipped. Skipping goes from place to
place, with the containers open around it, and is told here as steps; whatever can be read as a
value can be skipped in such steps, and comes to the same end. -/

namespace PromptClient.Cookie

open Json Text.Decimal

/-! ## Values without parts -/

theorem afterText?_of_textBody {input body after : List Char}
    (read : textBody input = some (body, after)) : afterText? input = some after := by
  fun_induction textBody input generalizing body after with
  | case1 => cases read
  | case2 rest =>
      cases read
      rfl
  | case3 a b c d rest pair single =>
      rcases Option.bind_eq_some_iff.mp read with ⟨unit, known, found⟩
      clear read
      rw [afterText?, known]
      simp only [Option.isSome_some, if_true]
      split at found
      · cases found
      · split at found
        · split at found
          case h_1 e f g h rest =>
            rcases Option.bind_eq_some_iff.mp found with ⟨low, second, found⟩
            split at found
            · rcases Option.bind_eq_some_iff.mp found with ⟨⟨more, left⟩, last, same⟩
              cases same
              rw [afterText?, second]
              simp only [Option.isSome_some, if_true]
              exact pair last
            · cases found
          case h_2 => cases found
        · rcases Option.bind_eq_some_iff.mp found with ⟨⟨more, left⟩, last, same⟩
          cases same
          exact single last
  | case4 letter rest other induction =>
      rcases Option.bind_eq_some_iff.mp read with ⟨char, known, read⟩
      rcases Option.bind_eq_some_iff.mp read with ⟨⟨more, left⟩, last, same⟩
      cases same
      rw [afterText?]
      · simp only [known, Option.isSome_some, if_true]
        exact induction last
      · exact other
  | case5 => cases read
  | case6 char rest notQuote notHex notShort plain induction =>
      rcases Option.bind_eq_some_iff.mp read with ⟨⟨more, left⟩, last, same⟩
      cases same
      rw [afterText?]
      · rw [if_neg plain]
        exact induction last
      all_goals assumption

theorem afterDigits?_of_some {input : List Char} (some : input.takeWhile isDigit ≠ []) :
    afterDigits? input = Option.some (input.dropWhile isDigit) := by
  have positive := List.length_pos_iff.mpr some
  have whole := congrArg List.length (List.takeWhile_append_dropWhile (p := isDigit) (l := input))
  rw [List.length_append] at whole
  have fewer : (input.dropWhile isDigit).length < input.length := by omega
  rw [afterDigits?, if_pos fewer]

theorem afterExponent?_of_plain {mark : Char} (plain : ¬isExponentMark mark = true)
    (rest : List Char) : afterExponent? (mark :: rest) = some (mark :: rest) := by
  unfold afterExponent?
  exact if_neg plain

theorem afterExponent?_of_withExponent {negative : Bool} {coefficient : ℕ} {power : ℤ}
    {mark : Char} {input after : List Char} {numeral : Numeral}
    (marked : isExponentMark mark = true)
    (read : withExponent negative coefficient power input = some (numeral, after)) :
    afterExponent? (mark :: input) = some after := by
  unfold withExponent at read
  split at read
  rename_i down digitsOn signed
  rcases Option.bind_eq_some_iff.mp read with ⟨size, sized, read⟩
  have digits : digitsOn.takeWhile isDigit ≠ [] := by
    intro none
    rw [none] at sized
    cases sized
  have rest : after = digitsOn.dropWhile isDigit := by
    split at read
    · split at read
      · cases read
      · cases read
        rfl
    · rcases Option.bind_eq_some_iff.mp read with ⟨value, -, same⟩
      cases same
      rfl
  rw [rest, ← afterDigits?_of_some digits]
  clear read sized digits rest
  split at signed
  all_goals cases signed
  · simp only [afterExponent?, marked, if_true]
  · simp only [afterExponent?, marked, if_true]
  · simp only [afterExponent?, marked, if_true]

/-- What comes after the whole part of a number: a fraction, if there is one, and an exponent. -/
def afterFraction? : List Char → Option (List Char)
  | '.' :: rest => (afterDigits? rest).bind afterExponent?
  | other => afterExponent? other

theorem afterFraction?_of_afterWhole {negative : Bool} {coefficient dropped : ℕ}
    {input after : List Char} {numeral : Numeral}
    (read : afterWhole negative coefficient dropped input = some (numeral, after)) :
    afterFraction? input = some after := by
  by_cases point : ∃ rest, input = '.' :: rest
  case pos =>
    rcases point with ⟨rest, rfl⟩
    rw [afterWhole.eq_1] at read
    dsimp only at read
    split at read
    · cases read
    · rename_i full
      have digits : rest.takeWhile isDigit ≠ [] := by simpa using full
      rw [afterFraction?, afterDigits?_of_some digits, Option.bind_some]
      split at read
      case h_1 mark exponent same =>
        rw [same] at read ⊢
        split at read
        · exact afterExponent?_of_withExponent ‹_› read
        · rename_i plain
          rcases Option.bind_eq_some_iff.mp read with ⟨value, -, equal⟩
          cases equal
          exact afterExponent?_of_plain plain _
      case h_2 same =>
        rw [same] at read ⊢
        rcases Option.bind_eq_some_iff.mp read with ⟨value, -, equal⟩
        cases equal
        rfl
  case neg =>
    have noPoint : ∀ rest, input ≠ '.' :: rest := fun rest same => point ⟨rest, same⟩
    rw [afterWhole_eq _ _ _ _ noPoint] at read
    rw [afterFraction?.eq_2 _ noPoint]
    split at read
    case h_1 mark exponent =>
      split at read
      · exact afterExponent?_of_withExponent ‹_› read
      · rename_i plain
        rcases Option.map_eq_some_iff.mp read with ⟨found, made, same⟩
        cases same
        exact afterExponent?_of_plain plain _
    case h_2 =>
      rcases Option.map_eq_some_iff.mp read with ⟨found, made, same⟩
      cases same
      rfl

/-- What comes after the digits before the fraction. -/
def afterDigitsBefore? : List Char → Option (List Char)
  | '0' :: next :: rest => if isDigit next then none else some (next :: rest)
  | other => afterDigits? other

theorem afterDigitsBefore?_of_some {input : List Char} (some : input.takeWhile isDigit ≠ [])
    (single : ∀ next rest, input.takeWhile isDigit ≠ '0' :: next :: rest) :
    afterDigitsBefore? input = Option.some (input.dropWhile isDigit) := by
  have zero : isDigit '0' = true := by decide
  unfold afterDigitsBefore?
  split
  · rename_i next rest
    have plain : isDigit next = false := by
      rw [← Bool.not_eq_true]
      intro digit
      apply single next (rest.takeWhile isDigit)
      simp [zero, digit]
    simp [zero, plain]
  · exact afterDigits?_of_some some

theorem afterNumber?_eq (input : List Char) :
    afterNumber? input = (afterDigitsBefore? (match input with
      | '-' :: rest => rest
      | other => other)).bind afterFraction? := by
  have joins : ∀ unsigned : List Char, (do
      let after ← match unsigned with
        | '0' :: next :: rest => if isDigit next then none else some (next :: rest)
        | other => afterDigits? other
      match after with
      | '.' :: rest => do
          let after ← afterDigits? rest
          afterExponent? after
      | other => afterExponent? other) = (afterDigitsBefore? unsigned).bind afterFraction? := by
    intro unsigned
    unfold afterDigitsBefore?
    split
    · split <;> rfl
    · rfl
  exact joins _

theorem afterNumber?_of_number? {input after : List Char} {numeral : Numeral}
    (read : number? input = some (numeral, after)) : afterNumber? input = some after := by
  unfold number? at read
  split at read
  rename_i negative unsigned signed
  have skips : afterNumber? input = (afterDigitsBefore? unsigned).bind afterFraction? := by
    clear read
    have sign : input = '-' :: unsigned ∨ (∀ rest, input ≠ '-' :: rest) ∧ input = unsigned := by
      split at signed
      · cases signed
        exact .inl rfl
      · cases signed
        exact .inr ⟨fun rest same => ‹∀ rest, input = '-' :: rest → False› rest same, rfl⟩
    rw [afterNumber?_eq]
    rcases sign with rfl | ⟨plain, rfl⟩
    · rfl
    · split
      · exact absurd rfl (plain _)
      · rfl
  rw [skips]
  dsimp only at read
  split at read
  · cases read
  · cases read
  · rename_i notNone notZero
    rw [afterDigitsBefore?_of_some notNone notZero, Option.bind_some]
    exact afterFraction?_of_afterWhole read

/-- What follows a value without parts. -/
def afterScalar? : List Char → Option (List Char)
  | 'n' :: rest => afterWord? ['u', 'l', 'l'] rest
  | 't' :: rest => afterWord? ['r', 'u', 'e'] rest
  | 'f' :: rest => afterWord? ['a', 'l', 's', 'e'] rest
  | '"' :: rest => afterText? rest
  | other => afterNumber? other

/-- A place where a value may begin. -/
inductive ValueDue : Place → Prop
  | value : ValueDue .value
  | firstItem : ValueDue .firstItem

/-- A place where a name may begin. -/
inductive NameDue : Place → Prop
  | name : NameDue .name
  | firstName : NameDue .firstName

/-- One step of skipping, from a place with the containers open around it and the characters
from there on to the next. -/
inductive Step : Place → List Opened → List Char → Place → List Opened → List Char → Prop
  | scalar {place opened input rest} (due : ValueDue place)
      (found : afterScalar? (skipSpace input) = some rest) :
      Step place opened input .ended opened rest
  | array {place opened input rest} (due : ValueDue place)
      (opens : skipSpace input = '[' :: rest) :
      Step place opened input .firstItem (.array :: opened) rest
  | object {place opened input rest} (due : ValueDue place)
      (opens : skipSpace input = '\x7b' :: rest) :
      Step place opened input .firstName (.object :: opened) rest
  | noItem {top opened input rest} (closes : skipSpace input = ']' :: rest) :
      Step .firstItem (top :: opened) input .ended opened rest
  | noName {top opened input rest} (closes : skipSpace input = '\x7d' :: rest) :
      Step .firstName (top :: opened) input .ended opened rest
  | name {place opened input body after rest} (due : NameDue place)
      (quote : skipSpace input = '"' :: body) (named : afterText? body = some after)
      (colon : skipSpace after = ':' :: rest) :
      Step place opened input .value opened rest
  | nextItem {opened input rest} (comma : skipSpace input = ',' :: rest) :
      Step .ended (.array :: opened) input .value (.array :: opened) rest
  | nextName {opened input rest} (comma : skipSpace input = ',' :: rest) :
      Step .ended (.object :: opened) input .name (.object :: opened) rest
  | noMoreItems {opened input rest} (closes : skipSpace input = ']' :: rest) :
      Step .ended (.array :: opened) input .ended opened rest
  | noMoreNames {opened input rest} (closes : skipSpace input = '\x7d' :: rest) :
      Step .ended (.object :: opened) input .ended opened rest

/-- Any number of steps. -/
inductive Passes : Place → List Opened → List Char → Place → List Opened → List Char → Prop
  | here {place opened input} : Passes place opened input place opened input
  | step {place opened input next left rest last outer after}
      (first : Step place opened input next left rest)
      (more : Passes next left rest last outer after) :
      Passes place opened input last outer after

theorem Passes.trans {place next last : Place} {opened left outer : List Opened}
    {input rest after : List Char} (first : Passes place opened input next left rest)
    (second : Passes next left rest last outer after) :
    Passes place opened input last outer after := by
  induction first with
  | here => exact second
  | step begins _ induction => exact .step begins (induction second)

/-! ## Steps get on -/

theorem afterText?_le {input after : List Char} (found : afterText? input = some after) :
    after.length ≤ input.length := by
  fun_induction afterText? input with
  | case1 => cases found
  | case2 rest =>
      cases found
      exact Nat.le_succ _
  | case3 a b c d rest known induction =>
      have shorter := induction found
      simp only [List.length_cons]
      omega
  | case5 letter rest _ known induction =>
      have shorter := induction found
      simp only [List.length_cons]
      omega
  | case8 char rest _ _ _ plain induction =>
      have shorter := induction found
      simp only [List.length_cons]
      omega
  | case4 | case6 | case7 => cases found

theorem afterDigits?_lt {input after : List Char} (found : afterDigits? input = some after) :
    after.length < input.length := by
  unfold afterDigits? at found
  dsimp only at found
  split at found
  · cases found
    assumption
  · cases found

theorem afterExponent?_le {input after : List Char} (found : afterExponent? input = some after) :
    after.length ≤ input.length := by
  unfold afterExponent? at found
  split at found
  · split at found
    · split at found
      · have fewer := afterDigits?_lt found
        simp only [List.length_cons]
        omega
      · have fewer := afterDigits?_lt found
        simp only [List.length_cons]
        omega
      · have fewer := afterDigits?_lt found
        simp only [List.length_cons]
        omega
    · cases found
      exact le_refl _
  · cases found
    exact le_refl _

theorem afterDigitsBefore?_lt {input after : List Char}
    (found : afterDigitsBefore? input = some after) : after.length < input.length := by
  unfold afterDigitsBefore? at found
  split at found
  · split at found
    · cases found
    · cases found
      exact Nat.lt_succ_self _
  · exact afterDigits?_lt found

theorem afterFraction?_le {input after : List Char} (found : afterFraction? input = some after) :
    after.length ≤ input.length := by
  unfold afterFraction? at found
  split at found
  · rcases Option.bind_eq_some_iff.mp found with ⟨digits, fraction, found⟩
    have fewer := afterDigits?_lt fraction
    have exponent := afterExponent?_le found
    simp only [List.length_cons]
    omega
  · exact afterExponent?_le found

theorem afterNumber?_lt {input after : List Char} (found : afterNumber? input = some after) :
    after.length < input.length := by
  rw [afterNumber?_eq] at found
  rcases Option.bind_eq_some_iff.mp found with ⟨whole, digits, fraction⟩
  have fewer := afterDigitsBefore?_lt digits
  have rest := afterFraction?_le fraction
  have unsigned : (match input with
      | '-' :: rest => rest
      | other => other).length ≤ input.length := by
    split
    · exact Nat.le_succ _
    · exact le_refl _
  omega

theorem afterScalar?_lt {input after : List Char} (found : afterScalar? input = some after) :
    after.length < input.length := by
  unfold afterScalar? at found
  split at found
  · exact Nat.lt_succ_of_le (afterWord?_suffix found).length_le
  · exact Nat.lt_succ_of_le (afterWord?_suffix found).length_le
  · exact Nat.lt_succ_of_le (afterWord?_suffix found).length_le
  · exact Nat.lt_succ_of_le (afterText?_le found)
  · exact afterNumber?_lt found

theorem length_skipSpace_le (input : List Char) : (skipSpace input).length ≤ input.length :=
  (skipSpace_suffix input).length_le

theorem Step.less {place next : Place} {opened left : List Opened} {input rest : List Char}
    (step : Step place opened input next left rest) : rest.length < input.length := by
  have shorter := length_skipSpace_le input
  cases step with
  | scalar due found => exact Nat.lt_of_lt_of_le (afterScalar?_lt found) shorter
  | name due quote named colon =>
      rename_i body after
      have text := afterText?_le named
      have blanks := length_skipSpace_le after
      rw [quote, List.length_cons] at shorter
      rw [colon, List.length_cons] at blanks
      omega
  | array due same | object due same =>
      rw [same, List.length_cons] at shorter
      omega
  | noItem same | noName same | nextItem same | nextName same | noMoreItems same
  | noMoreNames same =>
      rw [same, List.length_cons] at shorter
      omega

/-- What is open around the containers that matter makes no difference. -/
theorem Step.within {place next : Place} {opened left : List Opened} {input rest : List Char}
    (step : Step place opened input next left rest) (outer : List Opened) :
    Step place (opened ++ outer) input next (left ++ outer) rest := by
  cases step with
  | scalar due found => exact .scalar due found
  | array due opens => exact .array due opens
  | object due opens => exact .object due opens
  | noItem closes => exact .noItem closes
  | noName closes => exact .noName closes
  | name due quote named colon => exact .name due quote named colon
  | nextItem comma => exact .nextItem comma
  | nextName comma => exact .nextName comma
  | noMoreItems closes => exact .noMoreItems closes
  | noMoreNames closes => exact .noMoreNames closes

theorem Passes.within {place next : Place} {opened left : List Opened} {input rest : List Char}
    (passes : Passes place opened input next left rest) (outer : List Opened) :
    Passes place (opened ++ outer) input next (left ++ outer) rest := by
  induction passes with
  | here => exact .here
  | step first _ induction => exact .step (first.within outer) induction

/-! ## Skipping is passing -/

/-- What skipping does where a value begins. -/
def skipFrom (fuel : Nat) (opened : List Opened) : List Char → Option (List Char)
  | '[' :: rest => skip fuel .firstItem (.array :: opened) rest
  | '\x7b' :: rest => skip fuel .firstName (.object :: opened) rest
  | other => (afterScalar? other).bind fun rest => skip fuel .ended opened rest

theorem skip_value (fuel : Nat) (opened : List Opened) (input : List Char) :
    skip (fuel + 1) .value opened input = skipFrom fuel opened (skipSpace input) := by
  rw [skip]
  dsimp only
  generalize skipSpace input = chars
  split
  case h_7 noNull noTrue noFalse noText noArray noObject =>
    rw [skipFrom.eq_3 _ _ _ noArray noObject, afterScalar?.eq_5 _ noNull noTrue noFalse noText]
  all_goals rfl

theorem skip_firstItem {opened : List Opened} {input : List Char}
    (full : ∀ rest, skipSpace input ≠ ']' :: rest) (fuel : Nat) :
    skip (fuel + 1) .firstItem opened input = skipFrom fuel opened (skipSpace input) := by
  rw [skip, ← skip_value, skip]
  generalize skipSpace input = chars at full
  split
  · exact absurd rfl (full _)
  · rfl

theorem ValueDue.skip_eq {place : Place} (due : ValueDue place) {opened : List Opened}
    {input : List Char} (full : ∀ rest, skipSpace input ≠ ']' :: rest) (fuel : Nat) :
    skip (fuel + 1) place opened input = skipFrom fuel opened (skipSpace input) := by
  cases due with
  | value => exact skip_value fuel opened input
  | firstItem => exact skip_firstItem full fuel

/-- What skipping does where a name begins. -/
def skipName (fuel : Nat) (opened : List Opened) : List Char → Option (List Char)
  | '"' :: body => do
      let after ← afterText? body
      match skipSpace after with
      | ':' :: rest => skip fuel .value opened rest
      | _ => none
  | _ => none

theorem NameDue.skip_eq {place : Place} (due : NameDue place) {opened : List Opened}
    {input : List Char} (full : ∀ rest, skipSpace input ≠ '\x7d' :: rest) (fuel : Nat) :
    skip (fuel + 1) place opened input = skipName fuel opened (skipSpace input) := by
  cases due with
  | name =>
      rw [skip]
      rfl
  | firstName =>
      rw [skip]
      generalize skipSpace input = chars at full
      split
      · exact absurd rfl (full _)
      · rfl

/-- A container is no scalar, nor is the end of one. -/
theorem afterScalar?_of_bracket {char : Char} (bracket : char ∈ ['[', ']', '\x7b', '\x7d'])
    (rest : List Char) : afterScalar? (char :: rest) = none := by
  have digits : isDigit char = false → afterDigits? (char :: rest) = none := by
    intro plain
    simp [afterDigits?, plain]
  simp only [List.mem_cons, List.not_mem_nil, or_false] at bracket
  rcases bracket with rfl | rfl | rfl | rfl
  all_goals
    simp [afterScalar?, afterNumber?_eq, afterDigitsBefore?, digits (by decide)]

theorem skipFrom_scalar {input rest : List Char} (found : afterScalar? input = some rest)
    (fuel : Nat) (opened : List Opened) :
    skipFrom fuel opened input = skip fuel .ended opened rest := by
  unfold skipFrom
  split
  · rw [afterScalar?_of_bracket (by simp)] at found
    cases found
  · rw [afterScalar?_of_bracket (by simp)] at found
    cases found
  · rw [found, Option.bind_some]

theorem skip_of_step {place next : Place} {opened left : List Opened} {input rest : List Char}
    (step : Step place opened input next left rest) (fuel : Nat) :
    skip (fuel + 1) place opened input = skip fuel next left rest := by
  cases step with
  | scalar due found =>
      have full : ∀ after, skipSpace input ≠ ']' :: after := by
        intro after closes
        rw [closes, afterScalar?_of_bracket (by simp)] at found
        cases found
      rw [due.skip_eq full, skipFrom_scalar found]
  | array due opens | object due opens =>
      rw [due.skip_eq (by rw [opens]; simp), opens, skipFrom]
  | name due quote named colon =>
      rw [due.skip_eq (by rw [quote]; simp), quote, skipName, named, Option.bind_eq_bind,
        Option.bind_some, colon]
      rfl
  | noItem same | noName same | nextItem same | nextName same | noMoreItems same
  | noMoreNames same =>
      rw [skip, same]
      rfl

theorem skip_of_passes {place next : Place} {opened left : List Opened} {input after : List Char}
    (passes : Passes place opened input next left after) :
    ∃ steps, steps + after.length ≤ input.length ∧
      ∀ fuel, skip (fuel + steps) place opened input = skip fuel next left after := by
  induction passes with
  | here => exact ⟨0, by omega, fun _ => rfl⟩
  | step first _ induction =>
      rcases induction with ⟨steps, within, leads⟩
      have less := first.less
      refine ⟨steps + 1, by omega, ?_⟩
      intro fuel
      rw [← Nat.add_assoc, skip_of_step first, leads]

/-- A container that has just been opened is open. -/
def Sound : Place → List Opened → Prop
  | .firstItem, opened => opened ≠ []
  | .firstName, opened => opened ≠ []
  | _, _ => True

/-- What is skipped in so many steps, from any place, has been passed. -/
def SkipsPass (fuel : Nat) (after : List Char) : Prop :=
  ∀ {place opened input}, Sound place opened → skip fuel place opened input = some after →
    Passes place opened input .ended [] after

section SkipsPass

variable {fuel : Nat} {place : Place} {opened : List Opened} {input after : List Char}

theorem SkipsPass.value (passes : SkipsPass fuel after) (due : ValueDue place)
    (skips : skipFrom fuel opened (skipSpace input) = some after) :
    Passes place opened input .ended [] after := by
  unfold skipFrom at skips
  split at skips
  · exact .step (.array due ‹_›) (passes (List.cons_ne_nil _ _) skips)
  · exact .step (.object due ‹_›) (passes (List.cons_ne_nil _ _) skips)
  · rcases Option.bind_eq_some_iff.mp skips with ⟨rest, found, skips⟩
    exact .step (.scalar due found) (passes trivial skips)

theorem SkipsPass.name (passes : SkipsPass fuel after) (due : NameDue place)
    (skips : skipName fuel opened (skipSpace input) = some after) :
    Passes place opened input .ended [] after := by
  unfold skipName at skips
  split at skips
  · rcases Option.bind_eq_some_iff.mp skips with ⟨rest, named, skips⟩
    split at skips
    · exact .step (.name due ‹_› named ‹_›) (passes trivial skips)
    · cases skips
  · cases skips

/-- After a value in a container there is another one, or the container ends. -/
theorem SkipsPass.ended (passes : SkipsPass fuel after)
    (skips : skip (fuel + 1) .ended opened input = some after) :
    Passes .ended opened input .ended [] after := by
  cases opened with
  | nil =>
      cases skips
      exact .here
  | cons top outer =>
      cases top with
      | array =>
          rw [skip] at skips
          split at skips
          · exact .step (.nextItem ‹_›) (passes trivial skips)
          · exact .step (.noMoreItems ‹_›) (passes trivial skips)
          · cases skips
      | object =>
          rw [skip] at skips
          split at skips
          · exact .step (.nextName ‹_›) (passes trivial skips)
          · exact .step (.noMoreNames ‹_›) (passes trivial skips)
          · cases skips

end SkipsPass

theorem skips_pass (fuel : Nat) (after : List Char) : SkipsPass fuel after := by
  induction fuel with
  | zero =>
      intro place opened input sound skips
      cases skips
  | succ fuel induction =>
      intro place opened input sound skips
      cases place with
      | value => exact induction.value .value (skip_value fuel opened input ▸ skips)
      | name => exact induction.name .name skips
      | firstItem =>
          by_cases closes : ∃ rest, skipSpace input = ']' :: rest
          · rcases closes with ⟨rest, closes⟩
            cases opened with
            | nil => exact absurd rfl sound
            | cons top opened =>
                rw [skip_of_step (.noItem closes)] at skips
                exact .step (.noItem closes) (induction trivial skips)
          · rw [skip_firstItem fun rest same => closes ⟨rest, same⟩] at skips
            exact induction.value .firstItem skips
      | firstName =>
          by_cases closes : ∃ rest, skipSpace input = '\x7d' :: rest
          · rcases closes with ⟨rest, closes⟩
            cases opened with
            | nil => exact absurd rfl sound
            | cons top opened =>
                rw [skip_of_step (.noName closes)] at skips
                exact .step (.noName closes) (induction trivial skips)
          · rw [NameDue.firstName.skip_eq fun rest same => closes ⟨rest, same⟩] at skips
            exact induction.name .firstName skips
      | ended => exact induction.ended skips

/-- A value has been skipped if there is a way past it. -/
theorem afterValue?_iff (input after : List Char) :
    afterValue? input = some after ↔ Passes .value [] input .ended [] after := by
  constructor
  · exact skips_pass _ _ trivial
  · intro passes
    rcases skip_of_passes passes with ⟨steps, within, leads⟩
    obtain ⟨fuel, enough⟩ : ∃ fuel, 2 * input.length + 2 = fuel + 1 + steps :=
      ⟨2 * input.length + 1 - steps, by omega⟩
    rw [afterValue?, enough, leads, skip]

/-! ## What can be read can be skipped -/

theorem Passes.firstItem {opened left : List Opened} {input after : List Char}
    (passes : Passes .value opened (skipSpace input) .ended left after) :
    Passes .firstItem opened input .ended left after := by
  cases passes with
  | step first more =>
      refine .step ?_ more
      cases first with
      | scalar due found => exact .scalar .firstItem (skipSpace_skipSpace input ▸ found)
      | array due opens => exact .array .firstItem (skipSpace_skipSpace input ▸ opens)
      | object due opens => exact .object .firstItem (skipSpace_skipSpace input ▸ opens)
      | name due => cases due

theorem Passes.firstName {opened left : List Opened} {input after : List Char}
    (passes : Passes .name opened (skipSpace input) .ended left after) :
    Passes .firstName opened input .ended left after := by
  cases passes with
  | step first more =>
      refine .step ?_ more
      cases first with
      | name due quote named colon =>
          exact .name .firstName (skipSpace_skipSpace input ▸ quote) named colon
      | scalar due | array due | object due => cases due

theorem text?_some {input after : List Char} {value : String}
    (read : text? input = some (value, after)) :
    ∃ body, input = '"' :: body ∧ afterText? body = some after := by
  unfold text? at read
  split at read
  · rcases Option.map_eq_some_iff.mp read with ⟨⟨body, rest⟩, found, same⟩
    cases same
    exact ⟨_, rfl, afterText?_of_textBody found⟩
  · cases read

/-- Past a name, which is followed by a value. -/
theorem passes_name {place : Place} (due : NameDue place) {opened : List Opened}
    {input after rest : List Char} {name : String}
    (named : text? (skipSpace input) = some (name, after))
    (colon : skipSpace after = ':' :: rest) : Passes place opened input .value opened rest := by
  rcases text?_some named with ⟨body, quote, skipped⟩
  exact .step (.name due quote skipped colon) .here

/-- The readers of values get past them as skipping does, as long as their fuel lasts. -/
structure ReadersPass (fuel : Nat) : Prop where
  value : ∀ {depth input value after opened}, readValue fuel depth input = some (value, after) →
    Passes .value opened input .ended opened after
  items : ∀ {depth input items after opened}, readItems fuel depth input = some (items, after) →
    Passes .value (.array :: opened) input .ended opened after
  members : ∀ {depth input members after opened},
    readMembers fuel depth input = some (members, after) →
    Passes .name (.object :: opened) input .ended opened after

namespace ReadersPass

variable {fuel depth : Nat} {input after : List Char} {opened : List Opened}

theorem value_succ (readers : ReadersPass fuel) {value : Json}
    (read : readValue (fuel + 1) depth input = some (value, after)) :
    Passes .value opened input .ended opened after := by
  have scalar : afterScalar? (skipSpace input) = some after →
      Passes .value opened input .ended opened after :=
    fun found => .step (.scalar .value found) .here
  unfold readValue at read
  split at read
  case h_1 rest same | h_2 rest same | h_3 rest same =>
    rcases Option.map_eq_some_iff.mp read with ⟨left, word, equal⟩
    cases equal
    exact scalar (same ▸ word)
  case h_4 rest same =>
    rcases Option.map_eq_some_iff.mp read with ⟨⟨body, left⟩, found, equal⟩
    cases equal
    exact scalar (same ▸ afterText?_of_textBody found)
  case h_5 rest same =>
    refine .step (.array .value same) ?_
    split at read
    · cases read
    · split at read
      case h_1 left closes =>
        cases read
        exact .step (.noItem closes) .here
      case h_2 =>
        rcases Option.map_eq_some_iff.mp read with ⟨⟨items, left⟩, found, equal⟩
        cases equal
        exact (readers.items found).firstItem
  case h_6 rest same =>
    refine .step (.object .value same) ?_
    split at read
    · cases read
    · split at read
      case h_1 left closes =>
        cases read
        exact .step (.noName closes) .here
      case h_2 =>
        rcases Option.map_eq_some_iff.mp read with ⟨⟨members, left⟩, found, equal⟩
        cases equal
        exact (readers.members found).firstName
  case h_7 noNull noTrue noFalse noText _ _ =>
    rcases Option.map_eq_some_iff.mp read with ⟨⟨numeral, left⟩, found, equal⟩
    cases equal
    apply scalar
    rw [afterScalar?.eq_5 _ noNull noTrue noFalse noText]
    exact afterNumber?_of_number? found

theorem items_succ (readers : ReadersPass fuel) {items : List Json}
    (read : readItems (fuel + 1) depth input = some (items, after)) :
    Passes .value (.array :: opened) input .ended opened after := by
  unfold readItems at read
  rcases Option.bind_eq_some_iff.mp read with ⟨⟨item, left⟩, first, read⟩
  refine (readers.value first).trans ?_
  dsimp only at read
  split at read
  case h_1 rest closes =>
    cases read
    exact .step (.noMoreItems closes) .here
  case h_2 rest comma =>
    rcases Option.bind_eq_some_iff.mp read with ⟨⟨others, last⟩, more, same⟩
    cases same
    exact .step (.nextItem comma) (readers.items more)
  case h_3 => cases read

theorem members_succ (readers : ReadersPass fuel) {members : List (String × Json)}
    (read : readMembers (fuel + 1) depth input = some (members, after)) :
    Passes .name (.object :: opened) input .ended opened after := by
  unfold readMembers at read
  rcases Option.bind_eq_some_iff.mp read with ⟨⟨name, left⟩, named, read⟩
  dsimp only at read
  split at read
  case h_2 => cases read
  case h_1 rest colon =>
    rcases Option.bind_eq_some_iff.mp read with ⟨⟨value, left⟩, first, read⟩
    refine (passes_name .name named colon).trans ?_
    refine (readers.value first).trans ?_
    dsimp only at read
    split at read
    case h_1 rest closes =>
      cases read
      exact .step (.noMoreNames closes) .here
    case h_2 rest comma =>
      rcases Option.bind_eq_some_iff.mp read with ⟨⟨others, last⟩, more, same⟩
      cases same
      exact .step (.nextName comma) (readers.members more)
    case h_3 => cases read

end ReadersPass

theorem readers_pass (fuel : Nat) : ReadersPass fuel := by
  induction fuel with
  | zero => exact ⟨nofun, nofun, nofun⟩
  | succ fuel induction =>
      exact ⟨induction.value_succ, induction.items_succ, induction.members_succ⟩

end PromptClient.Cookie
