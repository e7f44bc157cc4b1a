import PromptClient.Json.Basic

/-! # Writing JSON

The compact form has no blanks. In a text only the quote, the backslash and the
characters below U+0020 are escaped. A floating-point number has the fewest
digits that read back, always with a point or an exponent.
-/

namespace PromptClient.Json

open Number

def hexDigit (value : Nat) : Char :=
  if value < 10 then Char.ofNat (48 + value) else Char.ofNat (87 + value)

def escape (char : Char) : List Char :=
  if char = '"' then ['\\', '"']
  else if char = '\\' then ['\\', '\\']
  else if char.toNat = 8 then ['\\', 'b']
  else if char.toNat = 9 then ['\\', 't']
  else if char.toNat = 10 then ['\\', 'n']
  else if char.toNat = 12 then ['\\', 'f']
  else if char.toNat = 13 then ['\\', 'r']
  else if char.toNat < 32 then
    ['\\', 'u', '0', '0', hexDigit (char.toNat / 16), hexDigit (char.toNat % 16)]
  else [char]

def quoted (text : String) : List Char :=
  '"' :: (text.toList.flatMap escape ++ ['"'])

/-! ## Numbers -/

/-- Where positional notation gives way to an exponent: the point may stand after
at most sixteen digits, and at most four zeros may follow it. -/
private def positionalLimit : Int := 16
private def leadingZeroLimit : Int := -5

/-- A number that is not whole. -/
def realDigits (value : Binary64) : List Char :=
  let sign := if value.negative then ['-'] else []
  let (coefficient, power) := value.shortest
  let digits := Text.Decimal.digits coefficient
  let length : Int := digits.length
  let point := length + power
  sign ++
    if coefficient = 0 then ['0', '.', '0']
    else if 0 ≤ power && point ≤ positionalLimit then
      digits ++ List.replicate power.toNat '0' ++ ['.', '0']
    else if 0 < point && point ≤ positionalLimit then
      digits.take point.toNat ++ '.' :: digits.drop point.toNat
    else if leadingZeroLimit < point && point ≤ 0 then
      '0' :: '.' :: (List.replicate point.natAbs '0' ++ digits)
    else
      let exponent := 'e' :: Text.Decimal.writeInt (point - 1)
      match digits with
      | [] => []
      | [only] => only :: exponent
      | first :: rest => first :: '.' :: (rest ++ exponent)

def Numeral.chars : Numeral → List Char
  | .whole value => Text.Decimal.writeInt value
  | .real value => realDigits value

/-! ## Values -/

def commaSeparated (parts : List (List Char)) : List Char :=
  List.intercalate [','] parts

mutual

def chars : Json → List Char
  | .null => "null".toList
  | .bool true => "true".toList
  | .bool false => "false".toList
  | .number value => value.chars
  | .text value => quoted value
  | .array items => '[' :: (commaSeparated (itemChars items) ++ [']'])
  | .object members => '\x7b' :: (commaSeparated (memberChars members) ++ ['\x7d'])

def itemChars : List Json → List (List Char)
  | [] => []
  | item :: rest => chars item :: itemChars rest

def memberChars : List (String × Json) → List (List Char)
  | [] => []
  | (name, value) :: rest => (quoted name ++ ':' :: chars value) :: memberChars rest

end

def compact (value : Json) : String :=
  String.ofList value.chars

/-- An object with one member to a line, indented by two blanks. Its values must
not be containers. -/
def indentedObject (members : List (String × Json)) : String :=
  let line (member : String × Json) : List Char :=
    "\n  ".toList ++ quoted member.1 ++ ": ".toList ++ member.2.chars
  String.ofList ('\x7b' :: (commaSeparated (members.map line) ++ ['\n', '\x7d']))

end PromptClient.Json
