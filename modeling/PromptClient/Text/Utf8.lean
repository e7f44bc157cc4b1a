/-! # UTF-8

Texts as bytes and bytes as texts. Strict decoding refuses anything that is not
well-formed; lenient decoding replaces each maximal ill-formed part by U+FFFD,
as a browser does.
-/

namespace PromptClient.Text.Utf8

def encode (text : String) : List UInt8 :=
  text.toUTF8.data.toList

def decode? (bytes : List UInt8) : Option String :=
  String.fromUTF8? ⟨bytes.toArray⟩

@[simp] theorem decode?_encode (text : String) : decode? (encode text) = some text := by
  simp [decode?, encode, String.fromUTF8?, String.fromUTF8, text.isValidUTF8]

theorem encode_inj {first second : String} : encode first = encode second ↔ first = second := by
  constructor
  · intro same
    have read := congrArg decode? same
    rw [decode?_encode, decode?_encode] at read
    exact Option.some.inj read
  · intro same
    rw [same]

theorem utf8EncodeChar_ofNat {byte : UInt8} (ascii : byte.toNat < 128) :
    String.utf8EncodeChar (Char.ofNat byte.toNat) = [byte] := by
  have codes : ∀ code < 128, (Char.ofNat code).val.toNat = code := by decide
  have code := codes byte.toNat ascii
  have small : byte.toNat ≤ 127 := by omega
  simp [String.utf8EncodeChar, code, small]

/-- A text of characters below U+0080 is written with the bytes of their codes. -/
theorem encode_ofBytes {bytes : List UInt8} (ascii : ∀ byte ∈ bytes, byte.toNat < 128) :
    encode (String.ofList (bytes.map fun byte => Char.ofNat byte.toNat)) = bytes := by
  simp only [encode, String.toUTF8, String.toByteArray_ofList, List.utf8Encode,
    List.toList_data_toByteArray]
  induction bytes with
  | nil => rfl
  | cons byte rest induction =>
      have first := utf8EncodeChar_ofNat (ascii byte List.mem_cons_self)
      have others := induction fun other member => ascii other (List.mem_cons_of_mem _ member)
      simp [first, others]

/-- What stands for a part that is not well-formed. -/
def replacement : Char := '\uFFFD'

/-- A continuation byte, restricted to `low` … `high` where the lead byte says so. -/
private def within (low high : Nat) (byte : UInt8) : Bool :=
  low ≤ byte.toNat && byte.toNat ≤ high

/-- Bounds of the byte after a lead byte, and how many bytes follow in all. -/
private def followers (lead : UInt8) : Option (Nat × Nat × Nat) :=
  let code := lead.toNat
  if 0xC2 ≤ code && code ≤ 0xDF then some (0x80, 0xBF, 1)
  else if code == 0xE0 then some (0xA0, 0xBF, 2)
  else if code == 0xED then some (0x80, 0x9F, 2)
  else if 0xE1 ≤ code && code ≤ 0xEF then some (0x80, 0xBF, 2)
  else if code == 0xF0 then some (0x90, 0xBF, 3)
  else if 0xF1 ≤ code && code ≤ 0xF3 then some (0x80, 0xBF, 3)
  else if code == 0xF4 then some (0x80, 0x8F, 3)
  else none

/-- A character under construction: its bits so far, the bounds of the next
byte, and how many bytes are still to come. -/
private structure Pending where
  bits : Nat
  low : Nat
  high : Nat
  missing : Nat

/-- What a byte means where a character may start. -/
private def start (byte : UInt8) : List Char × Option Pending :=
  if byte.toNat < 0x80 then ([Char.ofNat byte.toNat], none)
  else match followers byte with
    | none => ([replacement], none)
    | some (low, high, count) =>
        let bits := byte.toNat % (if count == 1 then 32 else if count == 2 then 16 else 8)
        ([], some ⟨bits, low, high, count⟩)

/-- Characters of `bytes`, given the character that is under construction. -/
private def lenient (pending : Option Pending) : List UInt8 → List Char
  | [] => if pending.isSome then [replacement] else []
  | byte :: rest =>
      match pending with
      | none =>
          let (chars, next) := start byte
          chars ++ lenient next rest
      | some part =>
          if within part.low part.high byte then
            let bits := part.bits * 64 + byte.toNat % 64
            if part.missing ≤ 1 then
              Char.ofNat bits :: lenient none rest
            else
              lenient (some ⟨bits, 0x80, 0xBF, part.missing - 1⟩) rest
          else
            let (chars, next) := start byte
            replacement :: (chars ++ lenient next rest)

/-- The text of any bytes, U+FFFD standing for each ill-formed part. -/
def decodeLenient (bytes : List UInt8) : String :=
  String.ofList (lenient none bytes)

/-! ## UTF-16 and byte order marks -/

/-- The characters of a sequence of 16-bit units, lone surrogates replaced. -/
private def ofUnits : List Nat → List Char
  | [] => []
  | [unit] => if 0xD800 ≤ unit && unit ≤ 0xDFFF then [replacement] else [Char.ofNat unit]
  | high :: low :: rest =>
      if 0xD800 ≤ high && high ≤ 0xDBFF then
        if 0xDC00 ≤ low && low ≤ 0xDFFF then
          Char.ofNat (0x10000 + (high - 0xD800) * 1024 + (low - 0xDC00)) :: ofUnits rest
        else
          replacement :: ofUnits (low :: rest)
      else if 0xDC00 ≤ high && high ≤ 0xDFFF then
        replacement :: ofUnits (low :: rest)
      else
        Char.ofNat high :: ofUnits (low :: rest)

/-- The 16-bit units of bytes in pairs, and whether one byte is left over. -/
private def units (bigEndian : Bool) : List UInt8 → List Nat × Bool
  | first :: second :: rest =>
      let unit := if bigEndian then first.toNat * 256 + second.toNat
        else second.toNat * 256 + first.toNat
      let (more, odd) := units bigEndian rest
      (unit :: more, odd)
  | [_] => ([], true)
  | [] => ([], false)

private def decodeWide (bigEndian : Bool) (bytes : List UInt8) : String :=
  let (found, odd) := units bigEndian bytes
  String.ofList (ofUnits found ++ if odd then [replacement] else [])

/-- The text of a document whose encoding is UTF-8 unless a byte order mark says
otherwise. The mark itself is no part of the text. -/
def decodeDocument : List UInt8 → String
  | 0xEF :: 0xBB :: 0xBF :: rest => decodeLenient rest
  | 0xFE :: 0xFF :: rest => decodeWide true rest
  | 0xFF :: 0xFE :: rest => decodeWide false rest
  | bytes => decodeLenient bytes

end PromptClient.Text.Utf8
