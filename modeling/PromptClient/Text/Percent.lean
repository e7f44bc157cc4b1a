import PromptClient.Text.Utf8

/-! # Percent encoding

Letters, digits and `-`, `_`, `.`, `~` stand for themselves; every other byte of
the UTF-8 form is written as `%` and two upper-case hexadecimal digits.
-/

namespace PromptClient.Text.Percent

def isPlain (byte : UInt8) : Bool :=
  let code := byte.toNat
  (48 ≤ code && code ≤ 57) || (65 ≤ code && code ≤ 90) || (97 ≤ code && code ≤ 122) ||
    code == 45 || code == 46 || code == 95 || code == 126

def hexDigit (value : Nat) : Char :=
  if value < 10 then Char.ofNat (48 + value) else Char.ofNat (55 + value)

def hexValue? (digit : Char) : Option Nat :=
  let code := digit.toNat
  if 48 ≤ code && code ≤ 57 then some (code - 48)
  else if 65 ≤ code && code ≤ 70 then some (code - 55)
  else if 97 ≤ code && code ≤ 102 then some (code - 87)
  else none

def triple (byte : UInt8) : List Char :=
  ['%', hexDigit (byte.toNat / 16), hexDigit (byte.toNat % 16)]

def encodeByte (byte : UInt8) : List Char :=
  if isPlain byte then [Char.ofNat byte.toNat] else triple byte

/-- A text in which nothing but plain characters and triples occurs. -/
def encode (text : String) : String :=
  String.ofList ((Utf8.encode text).flatMap encodeByte)

example : encode "a b/é" = "a%20b%2F%C3%A9" := by cbv

/-- The bytes that an encoded text stands for; `none` where a `%` is not followed
by two digits or a character is not ASCII. -/
def decode? : List Char → Option (List UInt8)
  | [] => some []
  | '%' :: high :: low :: rest => do
      let upper ← hexValue? high
      let lower ← hexValue? low
      let bytes ← decode? rest
      some (UInt8.ofNat (upper * 16 + lower) :: bytes)
  | char :: rest => do
      if char = '%' || char.toNat ≥ 128 then none
      else
        let bytes ← decode? rest
        some (UInt8.ofNat char.toNat :: bytes)

end PromptClient.Text.Percent
