import PromptClient.Text.Blank
import PromptClient.Text.Decimal
import PromptClient.Text.Percent

/-! # Hosts of URLs

The host of a URL is a domain, a network address, or, where the scheme gives it no
meaning, any text without separators. Names are taken as they are apart from letter
case; names outside ASCII are not converted.
-/

namespace PromptClient.Url

/-- Why a text is no absolute URL. -/
inductive Fault
  /-- There is no scheme. -/
  | relative
  | emptyHost
  | badPort
  | badAddress
  | badLongAddress
  | badDomain
  | badHost
deriving DecidableEq, Repr

def Fault.message : Fault → String
  | .relative => "relative URL without a base"
  | .emptyHost => "empty host"
  | .badPort => "invalid port number"
  | .badAddress => "invalid IPv4 address"
  | .badLongAddress => "invalid IPv6 address"
  | .badDomain => "invalid international domain name"
  | .badHost => "invalid domain character"

/-- Separates the parts of a URL, or has no place in a host for another reason. -/
def isForbiddenInHost (char : Char) : Bool :=
  "\x00\t\n\r #/:<>?@[\\]^|".toList.contains char

/-- Has no place in a domain. -/
def isForbiddenInDomain (char : Char) : Bool :=
  isForbiddenInHost char || char.toNat < 32 || char = '%' || char.toNat = 127

/-! ## Network addresses -/

/-- The number that digits of a base stand for; no digits stand for zero. -/
def numberInBase (base : Nat) (digits : List Char) : Option Nat :=
  digits.foldlM (fun sum digit =>
    match Text.Percent.hexValue? digit with
    | some value => if value < base then some (sum * base + value) else none
    | none => none) 0

/-- A part of a dotted address: decimal, octal after a zero, hexadecimal after `0x`. -/
def addressPart? : List Char → Option Nat
  | [] => none
  | '0' :: 'x' :: digits => numberInBase 16 digits
  | '0' :: 'X' :: digits => numberInBase 16 digits
  | ['0'] => some 0
  | '0' :: digits => numberInBase 8 digits
  | digits => numberInBase 10 digits

/-- The labels of a name, without an empty one after a closing dot. -/
def labels (name : List Char) : List (List Char) :=
  let parts := Text.splitWhere (· == '.') name
  if parts.length > 1 && parts.getLast? = some [] then parts.dropLast else parts

/-- The last label is a number, so the name can only be a dotted address. -/
def endsInNumber (name : List Char) : Bool :=
  match (labels name).getLast? with
  | none => false
  | some [] => false
  | some last => last.all Text.Decimal.isDigit ||
      ((last.take 2 = ['0', 'x'] || last.take 2 = ['0', 'X']) && (addressPart? last).isSome)

/-- The address that parts make, the last part filling what the others leave. -/
def addressOfParts? (parts : List Nat) : Option Nat :=
  match parts.reverse with
  | [] => none
  | last :: others =>
      let places := others.length
      if places ≤ 3 && others.all (· ≤ 255) && last < Nat.pow 256 (4 - places) then
        some (others.reverse.foldl (fun sum part => sum * 256 + part) 0 *
          Nat.pow 256 (4 - places) + last)
      else none

/-- A dotted address in its usual form. -/
def dotted? (name : List Char) : Option String := do
  let parts ← (labels name).mapM addressPart?
  let address ← addressOfParts? parts
  let byte := fun place => Text.Decimal.ofNat (address / Nat.pow 256 place % 256)
  return byte 3 ++ "." ++ byte 2 ++ "." ++ byte 1 ++ "." ++ byte 0

def isPiece (piece : List Char) : Bool :=
  1 ≤ piece.length && piece.length ≤ 4 &&
    piece.all fun digit => (Text.Percent.hexValue? digit).isSome

/-- A decimal number up to 255 without a leading zero. -/
def isByte (part : List Char) : Bool :=
  match part with
  | ['0'] => true
  | '0' :: _ => false
  | digits => 1 ≤ digits.length && digits.length ≤ 3 && digits.all Text.Decimal.isDigit &&
      (numberInBase 10 digits).getD 256 ≤ 255

def isDotted (name : List Char) : Bool :=
  let parts := Text.splitWhere (· == '.') name
  parts.length = 4 && parts.all isByte

/-- How many pieces a list of them makes; a dotted address at the end makes two. -/
def pieces? (mayEndDotted : Bool) : List (List Char) → Option Nat
  | [] => some 0
  | [last] =>
      if isPiece last then some 1 else if mayEndDotted && isDotted last then some 2 else none
  | piece :: rest =>
      if isPiece piece then (pieces? mayEndDotted rest).map (· + 1) else none

/-- The text before and after the first `::`. -/
def splitGap : List Char → Option (List Char × List Char)
  | [] => none
  | ':' :: ':' :: rest => some ([], rest)
  | char :: rest => (splitGap rest).map fun (before, after) => (char :: before, after)

def colonPieces (text : List Char) : List (List Char) :=
  if text.isEmpty then [] else Text.splitWhere (· == ':') text

/-- The text in brackets is an address of eight pieces, a gap standing for one or
more of them. -/
def isLongAddress (text : List Char) : Bool :=
  match splitGap text with
  | none => pieces? true (colonPieces text) = some 8
  | some (before, after) =>
      match pieces? false (colonPieces before), pieces? true (colonPieces after) with
      | some left, some right => left + right ≤ 7
      | _, _ => false

/-! ## Hosts -/

def bracketed (text : List Char) : Except Fault String :=
  if text.getLast? = some ']' && isLongAddress (text.drop 1).dropLast then
    .ok (String.ofList (text.map Char.toLower))
  else .error .badLongAddress

/-- The bytes of a host in which `%` and two digits stand for one byte. -/
def hostBytes : List Char → List UInt8
  | [] => []
  | '%' :: high :: low :: rest =>
      match Text.Percent.hexValue? high, Text.Percent.hexValue? low with
      | some upper, some lower => UInt8.ofNat (upper * 16 + lower) :: hostBytes rest
      | _, _ => UInt8.ofNat 37 :: hostBytes (high :: low :: rest)
  | char :: rest => Text.Utf8.encode (String.singleton char) ++ hostBytes rest

def namedHost (name : List Char) : Except Fault String :=
  if name.any isForbiddenInDomain then .error .badDomain
  else if name.isEmpty then .error .emptyHost
  else if endsInNumber name then
    match dotted? name with
    | some address => .ok address
    | none => .error .badAddress
  else .ok (String.ofList name)

def specialHost (text : List Char) : Except Fault String :=
  if text.isEmpty then .error .emptyHost
  else if text.head? = some '[' then bracketed text
  else
    match Text.Utf8.decode? (hostBytes text) with
    | none => .error .badDomain
    | some name => namedHost (name.toList.map Char.toLower)

/-- The host of any other URL. -/
def otherHost (text : List Char) : Except Fault String :=
  if text.head? = some '[' then bracketed text
  else if text.any isForbiddenInHost then .error .badHost
  else .ok (String.ofList text)

example : isLongAddress "::1".toList = true := by decide
example : isLongAddress "1::2::3".toList = false := by decide

end PromptClient.Url
