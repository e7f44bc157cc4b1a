import PromptClient.Proofs.JsonNumbers

/-! # Where numbers in JSON come from

What a reader leaves is the end of what it was given. So a number that is anywhere in a value has
been read at a place of the text that the value was read from. -/

namespace PromptClient.Json

open Number Text.Decimal

/-! ## What is left -/

theorem skipSpace_suffix (input : List Char) : skipSpace input <:+ input :=
  List.dropWhile_suffix isSpace

theorem afterWord?_suffix {word input after : List Char}
    (read : afterWord? word input = some after) : after <:+ input := by
  induction word generalizing input with
  | nil =>
      cases read
      exact List.suffix_refl _
  | cons expected word induction =>
      cases input with
      | nil => cases read
      | cons char input =>
          simp only [afterWord?] at read
          split at read
          · exact (induction read).trans (List.suffix_cons char input)
          · cases read

/-- The numeral is a floating-point number or an integer of 64 bits, signed or unsigned. -/
def Numeral.Small : Numeral → Prop
  | .whole value => value.natAbs ≤ coefficientLimit
  | .real _ => True

/-- What a reader of numbers makes of its input. -/
structure Reads (input after : List Char) (numeral : Numeral) : Prop where
  rest : after <:+ input
  small : numeral.Small

theorem Reads.earlier {input whole after : List Char} {numeral : Numeral}
    (reads : Reads input after numeral) (part : input <:+ whole) : Reads whole after numeral :=
  ⟨reads.rest.trans part, reads.small⟩

/-- Every number in the value was read at some place of the text. -/
inductive ReadIn (text : List Char) : Json → Prop
  | null : ReadIn text .null
  | bool (value : Bool) : ReadIn text (.bool value)
  | number {place after : List Char} {numeral : Numeral} (part : place <:+ text)
      (read : number? place = some (numeral, after)) : ReadIn text (.number numeral)
  | text (value : String) : ReadIn text (.text value)
  | array {items : List Json} (each : ∀ item ∈ items, ReadIn text item) :
      ReadIn text (.array items)
  | object {members : List (String × Json)} (each : ∀ member ∈ members, ReadIn text member.2) :
      ReadIn text (.object members)

theorem ReadIn.earlier {text whole : List Char} {value : Json} (part : text <:+ whole)
    (read : ReadIn text value) : ReadIn whole value := by
  induction read with
  | null => exact .null
  | bool value => exact .bool value
  | number inside read => exact .number (inside.trans part) read
  | text value => exact .text value
  | array _ induction => exact .array induction
  | object _ induction => exact .object induction

end PromptClient.Json
