/-! # Blank characters and trimming

A blank is a character with the Unicode property White_Space. Trimming removes
the blanks, or whatever a test accepts, from both ends of a text and leaves the
middle alone.
-/

namespace PromptClient.Text

/-- Has the Unicode property White_Space. -/
def isBlank (char : Char) : Bool :=
  let code := char.toNat
  (9 ≤ code && code ≤ 13) || code == 0x20 || code == 0x85 || code == 0xA0 ||
    code == 0x1680 || (0x2000 ≤ code && code ≤ 0x200A) || code == 0x2028 ||
    code == 0x2029 || code == 0x202F || code == 0x205F || code == 0x3000

example : isBlank '\u2003' = true := by decide
example : isBlank '\u200b' = false := by decide

def dropEndWhile (test : α → Bool) (members : List α) : List α :=
  (members.reverse.dropWhile test).reverse

def strip (test : α → Bool) (members : List α) : List α :=
  dropEndWhile test (members.dropWhile test)

/-- A text without the blanks at its ends. -/
def trim (text : String) : String :=
  String.ofList (strip isBlank text.toList)

/-- Nothing but blanks, or nothing at all. -/
def isAllBlank (text : String) : Bool :=
  text.toList.all isBlank

@[simp] theorem toList_trim (text : String) :
    (trim text).toList = strip isBlank text.toList :=
  String.toList_ofList

/-! ## Parts between separators -/

/-- The parts of a list between the members that `test` accepts, in order.
There is one part more than there are separators. -/
def splitWhere (test : α → Bool) : List α → List (List α)
  | [] => [[]]
  | head :: tail =>
      if test head then
        [] :: splitWhere test tail
      else
        match splitWhere test tail with
        | [] => [[head]]
        | part :: parts => (head :: part) :: parts

end PromptClient.Text
