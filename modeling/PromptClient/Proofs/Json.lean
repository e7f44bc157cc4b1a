import PromptClient.Json.Printer
import PromptClient.Json.Reader

/-! # JSON read back

What the printer writes is found again by the reader: texts character by character, and arrays
and objects as soon as that holds of what is in them. -/

namespace PromptClient.Json

/-! ## Texts -/

theorem hexValue?_hexDigit : ∀ value < 16, hexValue? (hexDigit value) = some value := by
  decide

/-- Below U+0100 the code of a character has two hexadecimal digits. -/
theorem hexUnit?_hexDigit {code : Nat} (small : code < 256) :
    hexUnit? '0' '0' (hexDigit (code / 16)) (hexDigit (code % 16)) = some code := by
  have zero : hexValue? '0' = some 0 := by decide
  have high : hexValue? (hexDigit (code / 16)) = some (code / 16) :=
    hexValue?_hexDigit _ (by omega)
  have low : hexValue? (hexDigit (code % 16)) = some (code % 16) :=
    hexValue?_hexDigit _ (by omega)
  have whole : code / 16 * 16 + code % 16 = code := by omega
  simp [hexUnit?, zero, high, low, whole]

/-- Put a character in front of what has been read. -/
def prepend (char : Char) (found : List Char × List Char) : List Char × List Char :=
  (char :: found.1, found.2)

theorem textBody_shortEscape {letter char : Char} (known : shortEscape? letter = some char)
    (rest : List Char) :
    textBody ('\\' :: letter :: rest) = (textBody rest).map (prepend char) := by
  have notHex : letter ≠ 'u' := by
    rintro rfl
    simp [shortEscape?] at known
  rw [textBody.eq_4 letter rest fun _ _ _ _ _ same _ => notHex same, known]
  cases textBody rest <;> rfl

theorem textBody_hexEscape {char : Char} (control : char.toNat < 32) (rest : List Char) :
    textBody ('\\' :: 'u' :: '0' :: '0' :: hexDigit (char.toNat / 16) ::
        hexDigit (char.toNat % 16) :: rest) =
      (textBody rest).map (prepend char) := by
  have small : char.toNat < 256 := by omega
  have notLow : isLowSurrogate char.toNat = false := by
    simp only [isLowSurrogate, Bool.and_eq_false_iff, decide_eq_false_iff_not]
    omega
  have notHigh : isHighSurrogate char.toNat = false := by
    simp only [isHighSurrogate, Bool.and_eq_false_iff, decide_eq_false_iff_not]
    omega
  have same : Char.ofNat char.toNat = char := Char.ofNat_toNat char
  rw [textBody.eq_3, hexUnit?_hexDigit small]
  simp only [Option.bind_eq_bind, Option.bind_some, notLow, notHigh, Bool.false_eq_true,
    if_false, same]
  cases textBody rest <;> rfl

theorem textBody_plain {char : Char} (notQuote : char ≠ '"') (notEscape : char ≠ '\\')
    (printable : ¬ char.toNat < 32) (rest : List Char) :
    textBody (char :: rest) = (textBody rest).map (prepend char) := by
  rw [textBody.eq_5 char rest notQuote (fun _ _ _ _ _ same _ => notEscape same)
    fun _ _ same _ => notEscape same]
  simp only [notEscape, printable, decide_false, Bool.or_self, Bool.false_eq_true, if_false]
  cases textBody rest <;> rfl

/-- A character is written by a letter, by its code, or as it is. -/
theorem escape_cases (char : Char) :
    (∃ letter, escape char = ['\\', letter] ∧ shortEscape? letter = some char) ∨
    (char.toNat < 32 ∧ escape char =
      ['\\', 'u', '0', '0', hexDigit (char.toNat / 16), hexDigit (char.toNat % 16)]) ∨
    (char ≠ '"' ∧ char ≠ '\\' ∧ ¬ char.toNat < 32 ∧ escape char = [char]) := by
  have named : ∀ code, char.toNat = code → Char.ofNat code = char := by
    rintro code rfl
    exact Char.ofNat_toNat char
  unfold escape
  split
  case isTrue quote => exact .inl ⟨_, rfl, by rw [quote]; rfl⟩
  split
  case isTrue backslash => exact .inl ⟨_, rfl, by rw [backslash]; rfl⟩
  split
  case isTrue code => exact .inl ⟨_, rfl, named 8 code ▸ rfl⟩
  split
  case isTrue code => exact .inl ⟨_, rfl, named 9 code ▸ rfl⟩
  split
  case isTrue code => exact .inl ⟨_, rfl, named 10 code ▸ rfl⟩
  split
  case isTrue code => exact .inl ⟨_, rfl, named 12 code ▸ rfl⟩
  split
  case isTrue code => exact .inl ⟨_, rfl, named 13 code ▸ rfl⟩
  split
  case isTrue control => exact .inr (.inl ⟨control, rfl⟩)
  rename_i notQuote notEscape _ _ _ _ _ printable
  exact .inr (.inr ⟨notQuote, notEscape, printable, rfl⟩)

/-- Whatever way a character is written, it is read from it again. -/
theorem textBody_escape (char : Char) (rest : List Char) :
    textBody (escape char ++ rest) = (textBody rest).map (prepend char) := by
  obtain ⟨letter, written, known⟩ | ⟨control, written⟩ |
    ⟨notQuote, notEscape, printable, written⟩ := escape_cases char
  · rw [written]
    exact textBody_shortEscape known rest
  · rw [written]
    exact textBody_hexEscape control rest
  · rw [written]
    exact textBody_plain notQuote notEscape printable rest

theorem textBody_flatMap_escape (chars rest : List Char) :
    textBody (chars.flatMap escape ++ '"' :: rest) = some (chars, rest) := by
  induction chars with
  | nil => exact textBody.eq_2 rest
  | cons char chars induction =>
      rw [List.flatMap_cons, List.append_assoc, textBody_escape, induction]
      rfl

theorem text?_quoted (text : String) (rest : List Char) :
    text? (quoted text ++ rest) = some (text, rest) := by
  have body := textBody_flatMap_escape text.toList rest
  simp [text?, quoted, body]

/-! ## Numbers -/

section Numbers

open Text.Decimal Number

theorem extend_append {coefficient value : Nat} {first : List Char} (second : List Char)
    (whole : extend coefficient first = (value, 0)) :
    extend coefficient (first ++ second) = extend value second := by
  induction first generalizing coefficient with
  | nil =>
      cases whole
      rfl
  | cons char rest induction =>
      simp only [extend, List.cons_append] at whole ⊢
      split at whole
      · cases whole
      · rw [if_neg ‹_›]
        exact induction whole

theorem toNat_digit : ∀ value < 10, (digit value).toNat - 48 = value := by
  decide

theorem extend_digits {value : Nat} (small : value ≤ coefficientLimit) :
    extend 0 (digits value) = (value, 0) := by
  have last : ∀ coefficient digit, digit < 10 → coefficient * 10 + digit ≤ coefficientLimit →
      extend coefficient [Text.Decimal.digit digit] = (coefficient * 10 + digit, 0) := by
    intro coefficient digit single fits
    simp only [extend, toNat_digit digit single]
    rw [if_neg (by omega)]
  induction value using digits.induct with
  | case1 value single =>
      unfold digits
      rw [if_pos single, last 0 value single (by omega)]
      simp
  | case2 value large induction =>
      unfold digits
      have front := induction (by omega)
      rw [if_neg large, extend_append _ front, last _ _ (by omega) (by omega)]
      congr 1
      omega

theorem afterWhole_of_ended {char : Char} (point : char ≠ '.')
    (exponent : isExponentMark char = false) (rest : List Char) {value : Int}
    (fits : fitsInt64 value = true) :
    afterWhole (value < 0) value.natAbs 0 (char :: rest) = some (.whole value, char :: rest) := by
  have low : -9223372036854775808 ≤ value := of_decide_eq_true (Bool.and_eq_true_iff.mp fits).1
  have high : value ≤ 9223372036854775807 := of_decide_eq_true (Bool.and_eq_true_iff.mp fits).2
  have small : ¬ value.natAbs > 9223372036854775808 := by omega
  rw [afterWhole.eq_2 _ _ _ _ _ fun _ same => point (List.cons.inj same).1]
  by_cases negative : value < 0
  · have known : value.natAbs ≠ 0 := by omega
    have back : -(value.natAbs : Int) = value := by omega
    simp only [exponent, negative, known, small, back]
    rfl
  · have back : (value.natAbs : Int) = value := by omega
    simp only [exponent, negative, back]
    rfl

theorem digits_append_ne_minus (value : Nat) (rest more : List Char) :
    digits value ++ rest ≠ '-' :: more := by
  have plain : ∀ char ∈ digits value, char ≠ '-' := digits_forall (by decide) value
  cases written : digits value with
  | nil => exact absurd written (digits_ne_nil value)
  | cons first others =>
      intro same
      exact plain first (by simp [written]) (List.cons.inj same).1

/-- Digits are taken as far as they go, with or without a sign. -/
theorem number?_signed (negative : Bool) (value : Nat) {char : Char}
    (ends : isDigit char = false) (rest : List Char) :
    number? ((if negative then ['-'] else []) ++ (digits value ++ char :: rest)) =
      afterWhole negative (extend 0 (digits value)).1 (extend 0 (digits value)).2
        (char :: rest) := by
  obtain ⟨whole, after⟩ := takeWhile_digits value ends rest
  cases negative
  case' true => rw [if_pos rfl, List.singleton_append, number?.eq_1, whole, after]
  case' false =>
    rw [if_neg (by decide), List.nil_append, number?.eq_2 _ (digits_append_ne_minus value _),
      whole, after]
  all_goals
    split
    case _ empty => exact absurd empty (digits_ne_nil value)
    -- The reader refuses a zero in front of other digits, which is never written.
    case _ zero =>
      rcases digits_head value with alone | ⟨first, more, written, notZero⟩
      · cases alone.symm.trans zero
      · exact absurd (List.cons.inj (written.symm.trans zero)).1 notZero
    case _ => rfl

/-- Digits within the limit are read as they stand. -/
theorem number?_digits (negative : Bool) {value : Nat} (small : value ≤ coefficientLimit)
    {char : Char} (ends : isDigit char = false) (rest : List Char) :
    number? ((if negative then ['-'] else []) ++ (digits value ++ char :: rest)) =
      afterWhole negative value 0 (char :: rest) := by
  rw [number?_signed negative value ends, extend_digits small]

/-- A number of 64 bits is read up to where something else follows. -/
theorem number?_writeInt {value : Int} (fits : fitsInt64 value = true) {char : Char}
    (digit : isDigit char = false) (point : char ≠ '.') (exponent : isExponentMark char = false)
    (rest : List Char) :
    number? (writeInt value ++ char :: rest) = some (.whole value, char :: rest) := by
  have low : -9223372036854775808 ≤ value := of_decide_eq_true (Bool.and_eq_true_iff.mp fits).1
  have high : value ≤ 9223372036854775807 := of_decide_eq_true (Bool.and_eq_true_iff.mp fits).2
  have small : value.natAbs ≤ coefficientLimit := by
    simp only [coefficientLimit]
    omega
  have signed : writeInt value ++ char :: rest =
      (if decide (value < 0) then ['-'] else []) ++ (digits value.natAbs ++ char :: rest) := by
    unfold writeInt
    split <;> simp [*]
  rw [signed, number?_digits _ small digit, afterWhole_of_ended point exponent rest fits]

end Numbers

/-! ## Values -/

/-- Wherever the value stands, it is read up to its end, provided it may hold `depth`
containers one within the other. Twice its length is steps enough. -/
def ReadsBack (depth : Nat) (value : Json) : Prop :=
  ∀ fuel rest, 2 * value.chars.length ≤ fuel →
    readValue fuel depth (value.chars ++ rest) = some (value, rest)

@[simp] theorem skipSpace_cons_of_not_isSpace {char : Char} (full : isSpace char = false)
    (rest : List Char) : skipSpace (char :: rest) = char :: rest := by
  simp [skipSpace, full]

theorem skipSpace_quoted (text : String) (rest : List Char) :
    skipSpace (quoted text ++ rest) = quoted text ++ rest :=
  skipSpace_cons_of_not_isSpace rfl _

theorem skipSpace_space {char : Char} (space : isSpace char = true) (rest : List Char) :
    skipSpace (char :: rest) = skipSpace rest := by
  simp [skipSpace, space]

@[simp] theorem skipSpace_skipSpace (input : List Char) :
    skipSpace (skipSpace input) = skipSpace input := by
  induction input with
  | nil => rfl
  | cons char rest induction =>
      cases full : isSpace char with
      | true => simpa [skipSpace, full] using induction
      | false => simp [full]

theorem readValue_skipSpace (fuel depth : Nat) (input : List Char) :
    readValue fuel depth (skipSpace input) = readValue fuel depth input := by
  cases fuel with
  | zero => rfl
  | succ fuel => simp only [readValue, skipSpace_skipSpace]

theorem readItems_skipSpace (fuel depth : Nat) (input : List Char) :
    readItems fuel depth (skipSpace input) = readItems fuel depth input := by
  cases fuel with
  | zero => rfl
  | succ fuel => simp only [readItems, readValue_skipSpace]

theorem readMembers_skipSpace (fuel depth : Nat) (input : List Char) :
    readMembers fuel depth (skipSpace input) = readMembers fuel depth input := by
  cases fuel with
  | zero => rfl
  | succ fuel => simp only [readMembers, skipSpace_skipSpace]

theorem text_readsBack (depth : Nat) (text : String) : (Json.text text).ReadsBack depth := by
  intro fuel rest enough
  have body := textBody_flatMap_escape text.toList rest
  cases fuel with
  | zero => simp [chars, quoted] at enough
  | succ fuel => simp [chars, quoted, readValue, isSpace, body]

theorem bool_readsBack (depth : Nat) (value : Bool) : (Json.bool value).ReadsBack depth := by
  intro fuel rest enough
  cases fuel with
  | zero => cases value <;> simp [chars] at enough
  | succ fuel => cases value <;> simp [chars, readValue, isSpace, afterWord?]

/-! ## Containers -/

/-- Nothing that is read starts where an array ends. -/
theorem readItems_closing (fuel depth : Nat) (rest : List Char) :
    readItems fuel depth (']' :: rest) = none := by
  cases fuel with
  | zero => rfl
  | succ fuel =>
      have stuck : readValue fuel depth (']' :: rest) = none := by
        cases fuel with
        | zero => rfl
        | succ fuel => simp [readValue, isSpace, number?, Text.Decimal.isDigit,
            Text.Decimal.digitValue?]
      simp [readItems, stuck]

theorem readMembers_closing (fuel depth : Nat) (rest : List Char) :
    readMembers fuel depth ('\x7d' :: rest) = none := by
  cases fuel with
  | zero => rfl
  | succ fuel => simp [readMembers, isSpace, text?]

@[simp] theorem commaSeparated_single (part : List Char) : commaSeparated [part] = part := by
  simp [commaSeparated]

@[simp] theorem commaSeparated_cons_cons (first second : List Char) (rest : List (List Char)) :
    commaSeparated (first :: second :: rest) =
      first ++ ',' :: commaSeparated (second :: rest) := by
  simp [commaSeparated, List.intercalate_cons_cons]

theorem readItems_itemChars {depth : Nat} (items : List Json) (some_item : items ≠ [])
    (back : ∀ item ∈ items, item.ReadsBack depth) :
    ∀ fuel rest, 2 * (commaSeparated (itemChars items)).length < fuel →
      readItems fuel depth (commaSeparated (itemChars items) ++ ']' :: rest) =
        some (items, rest) := by
  induction items with
  | nil => exact absurd rfl some_item
  | cons item items induction =>
      intro fuel rest enough
      obtain ⟨fuel, rfl⟩ : ∃ less, fuel = less + 1 := ⟨fuel - 1, by omega⟩
      have first : item.ReadsBack depth := back item List.mem_cons_self
      cases items with
      | nil =>
          simp only [itemChars, commaSeparated_single] at enough ⊢
          have read := first fuel (']' :: rest) (by omega)
          simp [readItems, read, isSpace]
      | cons next items =>
          have others := induction (List.cons_ne_nil _ _)
            fun other member => back other (List.mem_cons_of_mem _ member)
          simp only [itemChars, commaSeparated_cons_cons, List.length_append,
            List.length_cons] at others enough ⊢
          generalize commaSeparated (next.chars :: itemChars items) = inside at others enough ⊢
          have read := first fuel (',' :: (inside ++ ']' :: rest)) (by omega)
          have others := others fuel rest (by omega)
          simp [readItems, read, others, isSpace]

theorem readMembers_memberChars {depth : Nat} (members : List (String × Json))
    (some_member : members ≠ []) (back : ∀ member ∈ members, member.2.ReadsBack depth) :
    ∀ fuel rest, 2 * (commaSeparated (memberChars members)).length < fuel →
      readMembers fuel depth (commaSeparated (memberChars members) ++ '\x7d' :: rest) =
        some (members, rest) := by
  induction members with
  | nil => exact absurd rfl some_member
  | cons member members induction =>
      obtain ⟨name, value⟩ := member
      intro fuel rest enough
      obtain ⟨fuel, rfl⟩ : ∃ less, fuel = less + 1 := ⟨fuel - 1, by omega⟩
      have first : value.ReadsBack depth := back (name, value) List.mem_cons_self
      have named : ∀ rest, text? (skipSpace (quoted name ++ rest)) = some (name, rest) := by
        intro rest
        rw [skipSpace_quoted, text?_quoted]
      cases members with
      | nil =>
          simp only [memberChars, commaSeparated_single, List.length_append,
            List.length_cons] at enough ⊢
          have read := first fuel ('\x7d' :: rest) (by omega)
          simp [readMembers, named, read, isSpace]
      | cons next members =>
          have others := induction (List.cons_ne_nil _ _)
            fun other found => back other (List.mem_cons_of_mem _ found)
          simp only [memberChars, commaSeparated_cons_cons, List.length_append,
            List.length_cons] at others enough ⊢
          generalize commaSeparated ((quoted next.1 ++ ':' :: next.2.chars) ::
            memberChars members) = inside at others enough ⊢
          have read := first fuel (',' :: (inside ++ '\x7d' :: rest)) (by omega)
          have others := others fuel rest (by omega)
          simp [readMembers, named, read, others, isSpace]

theorem readValue_array {inside : List Char} (full : ∀ after, skipSpace inside ≠ ']' :: after)
    (fuel depth : Nat) :
    readValue (fuel + 1) (depth + 1) ('[' :: inside) =
      (readItems fuel depth inside).map fun (items, after) => (.array items, after) := by
  rw [← readItems_skipSpace]
  simp [readValue, isSpace]

theorem readValue_object {inside : List Char}
    (full : ∀ after, skipSpace inside ≠ '\x7d' :: after) (fuel depth : Nat) :
    readValue (fuel + 1) (depth + 1) ('\x7b' :: inside) =
      (readMembers fuel depth inside).map fun (members, after) => (.object members, after) := by
  rw [← readMembers_skipSpace]
  simp [readValue, isSpace]

theorem array_readsBack {depth : Nat} {items : List Json}
    (back : ∀ item ∈ items, item.ReadsBack depth) :
    (Json.array items).ReadsBack (depth + 1) := by
  intro fuel rest enough
  simp only [chars, List.length_cons, List.length_append] at enough
  obtain ⟨fuel, rfl⟩ : ∃ less, fuel = less + 1 := ⟨fuel - 1, by omega⟩
  by_cases empty : items = []
  · subst empty
    simp [chars, itemChars, commaSeparated, readValue, isSpace]
  · have read := readItems_itemChars items empty back fuel rest (by omega)
    have full : ∀ after,
        skipSpace (commaSeparated (itemChars items) ++ ']' :: rest) ≠ ']' :: after := by
      intro after closes
      rw [← readItems_skipSpace, closes, readItems_closing] at read
      cases read
    simp [chars, readValue_array full, read]

theorem object_readsBack {depth : Nat} {members : List (String × Json)}
    (back : ∀ member ∈ members, member.2.ReadsBack depth) :
    (Json.object members).ReadsBack (depth + 1) := by
  intro fuel rest enough
  simp only [chars, List.length_cons, List.length_append] at enough
  obtain ⟨fuel, rfl⟩ : ∃ less, fuel = less + 1 := ⟨fuel - 1, by omega⟩
  by_cases empty : members = []
  · subst empty
    simp [chars, memberChars, commaSeparated, readValue, isSpace]
  · have read := readMembers_memberChars members empty back fuel rest (by omega)
    have full : ∀ after,
        skipSpace (commaSeparated (memberChars members) ++ '\x7d' :: rest) ≠
          '\x7d' :: after := by
      intro after closes
      rw [← readMembers_skipSpace, closes, readMembers_closing] at read
      cases read
    simp [chars, readValue_object full, read]

/-- A value that is read back wherever it stands is read back from its compact form. -/
theorem parse?_compact {value : Json} (back : value.ReadsBack depthLimit) :
    parse? value.compact = some value := by
  have read := back (2 * value.chars.length + 2) [] (by omega)
  rw [List.append_nil] at read
  simp only [parse?, compact, ofChars?, String.toList_ofList, read]
  rfl

end PromptClient.Json
