import PromptClient.Text.Utf8

/-! # Base64

The standard alphabet with mandatory `=` padding. Decoding is strict: no blanks,
no missing padding, and the unused bits of the last symbol must be zero. So each
byte sequence has exactly one written form. A fault names the position at which
reading stopped.
-/

namespace PromptClient.Text.Base64

def symbol (value : Nat) : UInt8 :=
  if value < 26 then UInt8.ofNat (65 + value)
  else if value < 52 then UInt8.ofNat (71 + value)
  else if value < 62 then UInt8.ofNat (value - 4)
  else if value = 62 then 43
  else 47

def value? (byte : UInt8) : Option Nat :=
  let code := byte.toNat
  if 65 ≤ code && code ≤ 90 then some (code - 65)
  else if 97 ≤ code && code ≤ 122 then some (code - 71)
  else if 48 ≤ code && code ≤ 57 then some (code + 4)
  else if code = 43 then some 62
  else if code = 47 then some 63
  else none

/-- The padding byte `=`. -/
def pad : UInt8 := 61

inductive Fault
  /-- A byte outside the alphabet, or padding where a symbol is due. -/
  | invalidSymbol (byte : UInt8) (offset : Nat)
  /-- A single symbol remains after the complete groups. -/
  | invalidLength (length : Nat)
  /-- The last symbol carries bits that belong to no byte. -/
  | invalidLastSymbol (byte : UInt8) (offset : Nat)
  /-- The last group is not filled up to four characters. -/
  | invalidPadding
deriving DecidableEq, Repr

def Fault.message : Fault → String
  | .invalidSymbol byte offset => s!"Invalid symbol {byte.toNat}, offset {offset}."
  | .invalidLength length => s!"Invalid input length: {length}"
  | .invalidLastSymbol byte offset => s!"Invalid last symbol {byte.toNat}, offset {offset}."
  | .invalidPadding => "Invalid padding"

/-! ## Writing -/

def encodeBytes : List UInt8 → List UInt8
  | [] => []
  | [first] =>
      let bits := first.toNat * 16
      [symbol (bits / 64), symbol (bits % 64), pad, pad]
  | [first, second] =>
      let bits := (first.toNat * 256 + second.toNat) * 4
      [symbol (bits / 4096), symbol (bits / 64 % 64), symbol (bits % 64), pad]
  | first :: second :: third :: rest =>
      let bits := (first.toNat * 256 + second.toNat) * 256 + third.toNat
      symbol (bits / 262144) :: symbol (bits / 4096 % 64) :: symbol (bits / 64 % 64) ::
        symbol (bits % 64) :: encodeBytes rest

def encode (text : String) : String :=
  String.ofList ((encodeBytes (Utf8.encode text)).map fun byte => Char.ofNat byte.toNat)

example : encode "ab" = "YWI=" := by cbv

/-! ## Reading -/

private def valueAt (offset : Nat) (byte : UInt8) : Except Fault Nat :=
  match value? byte with
  | some value => .ok value
  | none => .error (.invalidSymbol byte offset)

/-- The symbols of the last group, each with its value. Padding may only follow
two or more symbols, and only padding may follow padding. -/
private def lastSymbols (offset : Nat) :
    (index : Nat) → (firstPad : Option Nat) → List UInt8 → Except Fault (List (UInt8 × Nat))
  | _, _, [] => .ok []
  | index, firstPad, byte :: rest =>
      if byte = pad then
        if index < 2 then .error (.invalidSymbol byte (offset + index))
        else lastSymbols offset (index + 1) (some (firstPad.getD index)) rest
      else match firstPad with
        | some early => .error (.invalidSymbol pad (offset + early))
        | none => do
            let value ← valueAt (offset + index) byte
            let more ← lastSymbols offset (index + 1) none rest
            .ok ((byte, value) :: more)

/-- The bytes of the last group, which has at most four characters and starts at
`offset`. -/
private def decodeLast (offset : Nat) (group : List UInt8) : Except Fault (List UInt8) := do
  let symbols ← lastSymbols offset 0 none group
  if !group.isEmpty && symbols.length < 2 then
    throw (.invalidLength (offset + symbols.length))
  if group.length % 4 ≠ 0 then
    throw .invalidPadding
  match symbols with
  | [(_, first), (last, second)] =>
      if second % 16 ≠ 0 then throw (.invalidLastSymbol last (offset + 1))
      return [UInt8.ofNat (first * 4 + second / 16)]
  | [(_, first), (_, second), (last, third)] =>
      if third % 4 ≠ 0 then throw (.invalidLastSymbol last (offset + 2))
      return [UInt8.ofNat (first * 4 + second / 16),
        UInt8.ofNat (second % 16 * 16 + third / 4)]
  | [(_, first), (_, second), (_, third), (_, fourth)] =>
      return [UInt8.ofNat (first * 4 + second / 16),
        UInt8.ofNat (second % 16 * 16 + third / 4),
        UInt8.ofNat (third % 4 * 64 + fourth)]
  | _ => return []

/-- The bytes of the groups from `offset` on. -/
private def decodeGroups (offset : Nat) : List UInt8 → Except Fault (List UInt8)
  | a :: b :: c :: d :: next :: rest => do
      let first ← valueAt offset a
      let second ← valueAt (offset + 1) b
      let third ← valueAt (offset + 2) c
      let fourth ← valueAt (offset + 3) d
      let more ← decodeGroups (offset + 4) (next :: rest)
      return UInt8.ofNat (first * 4 + second / 16) ::
        UInt8.ofNat (second % 16 * 16 + third / 4) ::
        UInt8.ofNat (third % 4 * 64 + fourth) :: more
  | group => decodeLast offset group

/-- The bytes that a written form stands for. A stray last byte, such as a line
break, is reported before anything else is looked at. -/
def decodeBytes (written : List UInt8) : Except Fault (List UInt8) :=
  match written.getLast? with
  | some last =>
      if written.length % 4 = 1 && last ≠ pad && (value? last).isNone then
        .error (.invalidSymbol last (written.length - 1))
      else decodeGroups 0 written
  | none => .ok []

/-- The bytes that a text stands for; positions count the text's UTF-8 bytes. -/
def decode (text : String) : Except Fault (List UInt8) :=
  decodeBytes (Utf8.encode text)

example : decodeBytes [89, 81, 61, 61] = .ok [97] := by cbv

/-! ## Round trip -/

/-- What holds of every symbol and of the padding holds throughout a written form. -/
theorem encodeBytes_forall {P : UInt8 → Prop} (symbols : ∀ value < 64, P (symbol value))
    (padding : P pad) (bytes : List UInt8) : ∀ byte ∈ encodeBytes bytes, P byte := by
  induction bytes using encodeBytes.induct with
  | case1 => simp [encodeBytes]
  | case2 first =>
      have bound := first.toNat_lt
      simp only [encodeBytes, List.forall_mem_cons]
      exact ⟨symbols _ (by omega), symbols _ (by omega), padding, padding, by simp⟩
  | case3 first second =>
      have bound := first.toNat_lt
      have other := second.toNat_lt
      simp only [encodeBytes, List.forall_mem_cons]
      exact ⟨symbols _ (by omega), symbols _ (by omega), symbols _ (by omega), padding,
        by simp⟩
  | case4 first second third rest induction =>
      have bound := first.toNat_lt
      have other := second.toNat_lt
      have last := third.toNat_lt
      simp only [encodeBytes, List.forall_mem_cons]
      exact ⟨symbols _ (by omega), symbols _ (by omega), symbols _ (by omega),
        symbols _ (by omega), induction⟩

theorem length_encodeBytes_mod (bytes : List UInt8) : (encodeBytes bytes).length % 4 = 0 := by
  induction bytes using encodeBytes.induct with
  | case1 | case2 first | case3 first second => simp [encodeBytes]
  | case4 first second third rest induction =>
      simp only [encodeBytes, List.length_cons]
      omega

theorem value?_symbol : ∀ value < 64, value? (symbol value) = some value := by
  decide

theorem symbol_ne_pad : ∀ value < 64, symbol value ≠ pad := by
  decide

theorem symbol_ascii : ∀ value < 64, (symbol value).toNat < 128 := by
  decide

private theorem valueAt_symbol (offset : Nat) {value : Nat} (bound : value < 64) :
    valueAt offset (symbol value) = .ok value := by
  simp [valueAt, value?_symbol value bound]

private theorem lastSymbols_symbol (offset index : Nat) {value : Nat} (bound : value < 64)
    (rest : List UInt8) :
    lastSymbols offset index none (symbol value :: rest) =
      (lastSymbols offset (index + 1) none rest).map fun more =>
        (symbol value, value) :: more := by
  simp only [lastSymbols, symbol_ne_pad value bound, if_false, valueAt_symbol _ bound]
  cases lastSymbols offset (index + 1) none rest <;> rfl

/-- A last group of two symbols stands for one byte, one of three for two bytes. -/
private theorem decodeLast_two (offset : Nat) {first second : Nat} (left : first < 64)
    (right : second < 64) (spare : second % 16 = 0) :
    decodeLast offset [symbol first, symbol second, pad, pad] =
      .ok [UInt8.ofNat (first * 4 + second / 16)] := by
  have read : lastSymbols offset 0 none [symbol first, symbol second, pad, pad] =
      .ok [(symbol first, first), (symbol second, second)] := by
    rw [lastSymbols_symbol _ _ left, lastSymbols_symbol _ _ right]
    simp [lastSymbols, Except.map]
  simp only [decodeLast, read]
  simp [bind, Except.bind, spare, pure, Except.pure]

private theorem decodeLast_three (offset : Nat) {first second third : Nat}
    (left : first < 64) (middle : second < 64) (right : third < 64)
    (spare : third % 4 = 0) :
    decodeLast offset [symbol first, symbol second, symbol third, pad] =
      .ok [UInt8.ofNat (first * 4 + second / 16),
        UInt8.ofNat (second % 16 * 16 + third / 4)] := by
  have read : lastSymbols offset 0 none [symbol first, symbol second, symbol third, pad] =
      .ok [(symbol first, first), (symbol second, second), (symbol third, third)] := by
    rw [lastSymbols_symbol _ _ left, lastSymbols_symbol _ _ middle,
      lastSymbols_symbol _ _ right]
    simp [lastSymbols, Except.map]
  simp only [decodeLast, read]
  simp [bind, Except.bind, spare, pure, Except.pure]

private theorem decodeLast_four (offset : Nat) {first second third fourth : Nat}
    (left : first < 64) (inner : second < 64) (outer : third < 64) (right : fourth < 64) :
    decodeLast offset [symbol first, symbol second, symbol third, symbol fourth] =
      .ok [UInt8.ofNat (first * 4 + second / 16),
        UInt8.ofNat (second % 16 * 16 + third / 4),
        UInt8.ofNat (third % 4 * 64 + fourth)] := by
  have read : lastSymbols offset 0 none
      [symbol first, symbol second, symbol third, symbol fourth] =
      .ok [(symbol first, first), (symbol second, second), (symbol third, third),
        (symbol fourth, fourth)] := by
    rw [lastSymbols_symbol _ _ left, lastSymbols_symbol _ _ inner,
      lastSymbols_symbol _ _ outer, lastSymbols_symbol _ _ right]
    simp [lastSymbols, Except.map]
  simp only [decodeLast, read]
  simp [bind, Except.bind, pure, Except.pure]

private theorem decodeGroups_cons (offset : Nat) {first second third fourth : Nat}
    (left : first < 64) (inner : second < 64) (outer : third < 64) (right : fourth < 64)
    {written bytes : List UInt8} (rest : decodeGroups (offset + 4) written = .ok bytes) :
    decodeGroups offset
        (symbol first :: symbol second :: symbol third :: symbol fourth :: written) =
      .ok (UInt8.ofNat (first * 4 + second / 16) ::
        UInt8.ofNat (second % 16 * 16 + third / 4) ::
        UInt8.ofNat (third % 4 * 64 + fourth) :: bytes) := by
  cases written with
  | nil =>
      have none : bytes = [] := by
        simpa [decodeGroups, decodeLast, lastSymbols, bind, Except.bind, pure, Except.pure,
          eq_comm] using rest
      rw [none]
      exact decodeLast_four offset left inner outer right
  | cons next written =>
      simp only [decodeGroups, valueAt_symbol _ left, valueAt_symbol _ inner,
        valueAt_symbol _ outer, valueAt_symbol _ right, rest]
      rfl

private theorem ofNat_eq {code : Nat} (byte : UInt8) (same : code = byte.toNat) :
    UInt8.ofNat code = byte := by
  rw [same, UInt8.ofNat_toNat]

private theorem decodeGroups_encodeBytes (bytes : List UInt8) :
    ∀ offset, decodeGroups offset (encodeBytes bytes) = .ok bytes := by
  induction bytes using encodeBytes.induct with
  | case1 => intro offset; rfl
  | case2 first =>
      intro offset
      have bound := first.toNat_lt
      simp only [encodeBytes, decodeGroups]
      rw [decodeLast_two offset (by omega) (by omega) (by omega),
        ofNat_eq first (by omega)]
  | case3 first second =>
      intro offset
      have bound := first.toNat_lt
      have other := second.toNat_lt
      simp only [encodeBytes, decodeGroups]
      rw [decodeLast_three offset (by omega) (by omega) (by omega) (by omega),
        ofNat_eq first (by omega), ofNat_eq second (by omega)]
  | case4 first second third rest induction =>
      intro offset
      have bound := first.toNat_lt
      have other := second.toNat_lt
      have last := third.toNat_lt
      simp only [encodeBytes]
      rw [decodeGroups_cons offset (by omega) (by omega) (by omega) (by omega)
        (induction (offset + 4)), ofNat_eq first (by omega),
        ofNat_eq second (by omega), ofNat_eq third (by omega)]

/-- What is written for bytes is read as these bytes. -/
theorem decodeBytes_encodeBytes (bytes : List UInt8) :
    decodeBytes (encodeBytes bytes) = .ok bytes := by
  have whole := length_encodeBytes_mod bytes
  have groups := decodeGroups_encodeBytes bytes 0
  unfold decodeBytes
  split
  -- The length is a multiple of four, so there is no stray last byte.
  · rw [if_neg (by simp [whole]), groups]
  · rename_i empty
    rw [List.getLast?_eq_none_iff.mp empty] at groups
    exact groups

theorem decode_encode (text : String) : decode (encode text) = .ok (Utf8.encode text) := by
  have ascii : ∀ byte ∈ encodeBytes (Utf8.encode text), byte.toNat < 128 :=
    encodeBytes_forall symbol_ascii (by decide) _
  rw [decode, encode, Utf8.encode_ofBytes ascii, decodeBytes_encodeBytes]

/-! ## Strictness

Whatever is read without a fault is what is written for the bytes that it stands for. -/

theorem value?_some {byte : UInt8} {value : Nat} (known : value? byte = some value) :
    value < 64 ∧ byte = symbol value := by
  have table : ∀ code < 256, ∀ value ∈ value? (UInt8.ofNat code),
      value < 64 ∧ UInt8.ofNat code = symbol value := by decide +kernel
  have entry := table byte.toNat byte.toNat_lt value
  rw [UInt8.ofNat_toNat] at entry
  exact entry known

private theorem valueAt_ok {offset value : Nat} {byte : UInt8}
    (read : valueAt offset byte = .ok value) : value < 64 ∧ byte = symbol value := by
  unfold valueAt at read
  split at read
  case h_1 known =>
    cases read
    exact value?_some known
  case h_2 => cases read

/-- A last group is symbols and after them padding. -/
private theorem lastSymbols_ok (offset : Nat) (group : List UInt8) :
    ∀ index firstPad symbols, lastSymbols offset index firstPad group = .ok symbols →
      (firstPad ≠ none → symbols = []) ∧
      ∃ (values : List Nat) (pads : Nat), (∀ value ∈ values, value < 64) ∧
        symbols = values.map (fun value => (symbol value, value)) ∧
        group = values.map symbol ++ List.replicate pads pad := by
  induction group with
  | nil =>
      intro index firstPad symbols read
      cases read
      exact ⟨fun _ => rfl, [], 0, by simp, rfl, rfl⟩
  | cons byte rest induction =>
      intro index firstPad symbols read
      unfold lastSymbols at read
      split at read
      case isTrue padding =>
        split at read
        case isTrue => cases read
        case isFalse =>
          rcases induction _ _ _ read with ⟨closed, values, pads, -, named, written⟩
          have none : symbols = [] := closed (by simp)
          rw [none, eq_comm, List.map_eq_nil_iff] at named
          rw [named] at written
          refine ⟨fun _ => none, [], pads + 1, by simp, none, ?_⟩
          rw [padding, written]
          rfl
      case isFalse =>
        cases firstPad with
        | some early => cases read
        | none =>
            cases first : valueAt (offset + index) byte with
            | error fault => simp [first, bind, Except.bind] at read
            | ok value =>
                cases later : lastSymbols offset (index + 1) none rest with
                | error fault => simp [first, later, bind, Except.bind] at read
                | ok more =>
                    simp only [first, later, bind, Except.bind, Except.ok.injEq] at read
                    rcases valueAt_ok first with ⟨bound, known⟩
                    rcases induction _ _ _ later with ⟨-, values, pads, bounds, named, written⟩
                    refine ⟨by simp, value :: values, pads, ?_, ?_, ?_⟩
                    · exact List.forall_mem_cons.mpr ⟨bound, bounds⟩
                    · rw [← read, named, known]
                      rfl
                    · rw [written, known]
                      rfl

/-- The symbols for one byte are the ones that have it for their bits. -/
private theorem encodeBytes_two {first second : Nat} (left : first < 64) (right : second < 64)
    (spare : second % 16 = 0) :
    encodeBytes [UInt8.ofNat (first * 4 + second / 16)] =
      [symbol first, symbol second, pad, pad] := by
  have code : (UInt8.ofNat (first * 4 + second / 16)).toNat = first * 4 + second / 16 :=
    UInt8.toNat_ofNat_of_lt' (by simp only [UInt8.size]; omega)
  have one : (first * 4 + second / 16) * 16 / 64 = first := by omega
  have two : (first * 4 + second / 16) * 16 % 64 = second := by omega
  simp only [encodeBytes, code, one, two]

private theorem encodeBytes_three {first second third : Nat} (left : first < 64)
    (middle : second < 64) (right : third < 64) (spare : third % 4 = 0) :
    encodeBytes [UInt8.ofNat (first * 4 + second / 16),
        UInt8.ofNat (second % 16 * 16 + third / 4)] =
      [symbol first, symbol second, symbol third, pad] := by
  have code : (UInt8.ofNat (first * 4 + second / 16)).toNat = first * 4 + second / 16 :=
    UInt8.toNat_ofNat_of_lt' (by simp only [UInt8.size]; omega)
  have next : (UInt8.ofNat (second % 16 * 16 + third / 4)).toNat =
      second % 16 * 16 + third / 4 :=
    UInt8.toNat_ofNat_of_lt' (by simp only [UInt8.size]; omega)
  have bits : ((first * 4 + second / 16) * 256 + (second % 16 * 16 + third / 4)) * 4 =
      first * 4096 + second * 64 + third := by omega
  have one : (first * 4096 + second * 64 + third) / 4096 = first := by omega
  have two : (first * 4096 + second * 64 + third) / 64 % 64 = second := by omega
  have three : (first * 4096 + second * 64 + third) % 64 = third := by omega
  simp only [encodeBytes, code, next, bits, one, two, three]

private theorem encodeBytes_four {first second third fourth : Nat} (left : first < 64)
    (inner : second < 64) (outer : third < 64) (right : fourth < 64) (rest : List UInt8) :
    encodeBytes (UInt8.ofNat (first * 4 + second / 16) ::
        UInt8.ofNat (second % 16 * 16 + third / 4) ::
        UInt8.ofNat (third % 4 * 64 + fourth) :: rest) =
      symbol first :: symbol second :: symbol third :: symbol fourth :: encodeBytes rest := by
  have code : (UInt8.ofNat (first * 4 + second / 16)).toNat = first * 4 + second / 16 :=
    UInt8.toNat_ofNat_of_lt' (by simp only [UInt8.size]; omega)
  have next : (UInt8.ofNat (second % 16 * 16 + third / 4)).toNat =
      second % 16 * 16 + third / 4 :=
    UInt8.toNat_ofNat_of_lt' (by simp only [UInt8.size]; omega)
  have last : (UInt8.ofNat (third % 4 * 64 + fourth)).toNat = third % 4 * 64 + fourth :=
    UInt8.toNat_ofNat_of_lt' (by simp only [UInt8.size]; omega)
  have bits : ((first * 4 + second / 16) * 256 + (second % 16 * 16 + third / 4)) * 256 +
      (third % 4 * 64 + fourth) =
      first * 262144 + second * 4096 + third * 64 + fourth := by omega
  have one : (first * 262144 + second * 4096 + third * 64 + fourth) / 262144 = first := by
    omega
  have two : (first * 262144 + second * 4096 + third * 64 + fourth) / 4096 % 64 = second := by
    omega
  have three : (first * 262144 + second * 4096 + third * 64 + fourth) / 64 % 64 = third := by
    omega
  have four : (first * 262144 + second * 4096 + third * 64 + fourth) % 64 = fourth := by omega
  simp only [encodeBytes, code, next, last, bits, one, two, three, four]

private theorem decodeLast_ok {offset : Nat} {group bytes : List UInt8}
    (few : group.length ≤ 4) (read : decodeLast offset group = .ok bytes) :
    group = encodeBytes bytes := by
  unfold decodeLast at read
  cases found : lastSymbols offset 0 none group with
  | error fault => simp [found, bind, Except.bind] at read
  | ok symbols =>
      rcases lastSymbols_ok offset group 0 none symbols found with
        ⟨-, values, pads, bounds, named, written⟩
      have length : group.length = values.length + pads := by simp [written]
      have count : symbols.length = values.length := by simp [named]
      simp only [found, bind, Except.bind, count] at read
      split at read
      case isTrue => cases read
      case isFalse enough =>
        split at read
        case isTrue => cases read
        case isFalse filled =>
          subst named
          -- There are no symbols at all, or two to four of them and padding up to four.
          match values, bounds with
          | [], _ =>
              cases read
              have empty : pads = 0 := by
                simp [written] at enough
                exact enough
              rw [written, empty]
              rfl
          | [first], _ => simp [written] at enough
          | [first, second], bounds =>
              have two : pads = 2 := by
                simp only [List.length_cons, List.length_nil] at length
                omega
              simp only [List.forall_mem_cons] at bounds
              simp only [List.map_cons, List.map_nil] at read
              split at read
              case isTrue => cases read
              case isFalse spare =>
                cases read
                rw [encodeBytes_two bounds.1 bounds.2.1 (by omega), written, two]
                rfl
          | [first, second, third], bounds =>
              have one : pads = 1 := by
                simp only [List.length_cons, List.length_nil] at length
                omega
              simp only [List.forall_mem_cons] at bounds
              simp only [List.map_cons, List.map_nil] at read
              split at read
              case isTrue => cases read
              case isFalse spare =>
                cases read
                rw [encodeBytes_three bounds.1 bounds.2.1 bounds.2.2.1 (by omega), written, one]
                rfl
          | [first, second, third, fourth], bounds =>
              have none : pads = 0 := by
                simp only [List.length_cons, List.length_nil] at length
                omega
              simp only [List.forall_mem_cons] at bounds
              cases read
              rw [encodeBytes_four bounds.1 bounds.2.1 bounds.2.2.1 bounds.2.2.2.1, written, none]
              rfl
          | _ :: _ :: _ :: _ :: _ :: _, _ =>
              simp only [List.length_cons] at length
              omega

private theorem bind_ok {α β : Type} {first : Except Fault α} {next : α → Except Fault β}
    {result : β} (read : first >>= next = .ok result) :
    ∃ value, first = .ok value ∧ next value = .ok result := by
  cases first with
  | error fault => cases read
  | ok value => exact ⟨value, rfl, read⟩

private theorem decodeGroups_ok (offset : Nat) (written : List UInt8) :
    ∀ bytes, decodeGroups offset written = .ok bytes → written = encodeBytes bytes := by
  induction offset, written using decodeGroups.induct with
  | case1 offset a b c d next rest induction =>
      intro bytes read
      rw [decodeGroups] at read
      rcases bind_ok read with ⟨one, first, read⟩
      rcases bind_ok read with ⟨two, second, read⟩
      rcases bind_ok read with ⟨three, third, read⟩
      rcases bind_ok read with ⟨four, fourth, read⟩
      rcases bind_ok read with ⟨more, later, read⟩
      rcases valueAt_ok first with ⟨left, first⟩
      rcases valueAt_ok second with ⟨inner, second⟩
      rcases valueAt_ok third with ⟨outer, third⟩
      rcases valueAt_ok fourth with ⟨right, fourth⟩
      cases read
      rw [encodeBytes_four left inner outer right, ← induction more later, first, second, third,
        fourth]
  | case2 offset group few =>
      intro bytes read
      rw [decodeGroups] at read
      · apply decodeLast_ok _ read
        match group, few with
        | [], _ | [_], _ | [_, _], _ | [_, _, _], _ | [_, _, _, _], _ => simp
        | a :: b :: c :: d :: next :: rest, few => exact absurd rfl (few a b c d next rest)
      · exact few

/-- A form is read exactly if it is the one that is written for some bytes, and as these. -/
theorem decodeBytes_ok_iff {written bytes : List UInt8} :
    decodeBytes written = .ok bytes ↔ written = encodeBytes bytes := by
  constructor
  · intro read
    unfold decodeBytes at read
    split at read
    · split at read
      · cases read
      · exact decodeGroups_ok 0 written bytes read
    case h_2 empty =>
      cases read
      exact List.getLast?_eq_none_iff.mp empty
  · intro same
    rw [same]
    exact decodeBytes_encodeBytes bytes

/-- The text that is written for bytes. -/
def ofBytes (bytes : List UInt8) : String :=
  String.ofList ((encodeBytes bytes).map fun byte => Char.ofNat byte.toNat)

/-- A text is read exactly if it is the one that is written for some bytes, and as these. -/
theorem decode_ok_iff {text : String} {bytes : List UInt8} :
    decode text = .ok bytes ↔ text = ofBytes bytes := by
  have ascii : ∀ byte ∈ encodeBytes bytes, byte.toNat < 128 :=
    encodeBytes_forall symbol_ascii (by decide) _
  have known : Utf8.encode (ofBytes bytes) = encodeBytes bytes := Utf8.encode_ofBytes ascii
  rw [decode, decodeBytes_ok_iff, ← known]
  exact Utf8.encode_inj

end PromptClient.Text.Base64
