import Mathlib.Data.List.ModifyLast
import PromptClient.Backend
import PromptClient.Proofs.Trimming

/-! # Encoded texts in URLs

An encoded text holds no character that parts a URL. At the end of one it only makes the last part
longer, and what has been encoded can be read off that part again. -/

namespace PromptClient

namespace Text.Percent

/-! ## Encoding -/

/-- A letter, a digit or one of the marks that stand for themselves. -/
def isUnreserved (char : Char) : Bool :=
  char.isAlphanum || char = '-' || char = '_' || char = '.' || char = '~'

def isUpperHex (char : Char) : Bool :=
  char.isDigit || "ABCDEF".toList.contains char

/-- Nothing but unreserved characters and triples. -/
inductive Encoded : List Char → Prop
  | nil : Encoded []
  | plain {char : Char} {rest : List Char} (unreserved : isUnreserved char = true)
      (later : Encoded rest) : Encoded (char :: rest)
  | triple {high low : Char} {rest : List Char} (upper : isUpperHex high = true)
      (lower : isUpperHex low = true) (later : Encoded rest) :
      Encoded ('%' :: high :: low :: rest)

theorem isUpperHex_hexDigit : ∀ value < 16, isUpperHex (hexDigit value) = true := by
  decide

theorem hexValue?_hexDigit : ∀ value < 16, hexValue? (hexDigit value) = some value := by
  decide

/-- Plain bytes are the codes of unreserved characters. -/
theorem isPlain_unreserved {byte : UInt8} (plain : isPlain byte = true) :
    isUnreserved (Char.ofNat byte.toNat) = true := by
  have each : ∀ code < 256, isPlain (UInt8.ofNat code) = true →
      isUnreserved (Char.ofNat code) = true := by
    decide +kernel
  apply each byte.toNat byte.toNat_lt
  rwa [UInt8.ofNat_toNat]

theorem encoded_encodeByte (byte : UInt8) {rest : List Char} (later : Encoded rest) :
    Encoded (encodeByte byte ++ rest) := by
  have small := byte.toNat_lt
  unfold encodeByte
  split
  · exact .plain (isPlain_unreserved ‹_›) later
  · exact .triple (isUpperHex_hexDigit _ (by omega)) (isUpperHex_hexDigit _ (by omega)) later

theorem encoded_encode (text : String) : Encoded (encode text).toList := by
  rw [encode, String.toList_ofList]
  induction Utf8.encode text with
  | nil => exact .nil
  | cons byte bytes induction =>
      rw [List.flatMap_cons]
      exact encoded_encodeByte byte induction

theorem isUnreserved_of_isUpperHex {char : Char} (hex : isUpperHex char = true) :
    isUnreserved char = true := by
  rcases Bool.or_eq_true_iff.mp hex with digit | letter
  · simp [isUnreserved, Char.isAlphanum, digit]
  · have letters : "ABCDEF".toList.all isUnreserved = true := by decide
    exact List.all_eq_true.mp letters char (List.contains_iff_mem.mp letter)

theorem Encoded.unreserved {text : List Char} (encoded : Encoded text) :
    ∀ char ∈ text, isUnreserved char = true ∨ char = '%' := by
  induction encoded with
  | nil => simp
  | plain unreserved _ induction => exact List.forall_mem_cons.mpr ⟨.inl unreserved, induction⟩
  | triple upper lower _ induction =>
      rw [List.forall_mem_cons, List.forall_mem_cons, List.forall_mem_cons]
      exact ⟨.inr rfl, .inl (isUnreserved_of_isUpperHex upper),
        .inl (isUnreserved_of_isUpperHex lower), induction⟩

/-- No other character occurs in an encoded text. -/
theorem Encoded.not_mem {text : List Char} (encoded : Encoded text) {char : Char}
    (reserved : isUnreserved char = false) (notPercent : char ≠ '%') : char ∉ text := by
  intro found
  rcases encoded.unreserved char found with unreserved | percent
  · rw [reserved] at unreserved
    cases unreserved
  · exact notPercent percent

/-! ## Decoding -/

theorem decode?_plain {char : Char} (ascii : char.toNat < 128) (notPercent : char ≠ '%')
    (rest : List Char) :
    decode? (char :: rest) = (decode? rest).map (UInt8.ofNat char.toNat :: ·) := by
  rw [decode?]
  · simp only [notPercent, Nat.not_le.mpr ascii, decide_false, Bool.or_false,
      Bool.false_eq_true, if_false]
    cases decode? rest <;> rfl
  · rintro high low after rfl
    exact absurd rfl notPercent

theorem decode?_triple (byte : UInt8) (rest : List Char) :
    decode? (triple byte ++ rest) = (decode? rest).map (byte :: ·) := by
  have small := byte.toNat_lt
  have upper := hexValue?_hexDigit (byte.toNat / 16) (by omega)
  have lower := hexValue?_hexDigit (byte.toNat % 16) (by omega)
  have whole : byte.toNat / 16 * 16 + byte.toNat % 16 = byte.toNat := by omega
  simp only [triple, List.cons_append, List.nil_append, decode?, upper, lower, bind,
    Option.bind_some, whole, UInt8.ofNat_toNat]
  cases decode? rest <;> rfl

theorem decode?_encodeByte (byte : UInt8) (rest : List Char) :
    decode? (encodeByte byte ++ rest) = (decode? rest).map (byte :: ·) := by
  unfold encodeByte
  split
  case isTrue plain =>
    have each : ∀ code < 256, isPlain (UInt8.ofNat code) = true →
        (Char.ofNat code).toNat = code ∧ code < 128 ∧ Char.ofNat code ≠ '%' := by
      decide +kernel
    rcases each byte.toNat byte.toNat_lt (by rwa [UInt8.ofNat_toNat]) with ⟨code, ascii, apart⟩
    rw [List.cons_append, List.nil_append, decode?_plain (by rwa [code]) apart, code,
      UInt8.ofNat_toNat]
  case isFalse => exact decode?_triple byte rest

theorem decode?_encode (text : String) :
    decode? (encode text).toList = some (Utf8.encode text) := by
  rw [encode, String.toList_ofList]
  induction Utf8.encode text with
  | nil => rfl
  | cons byte bytes induction =>
      rw [List.flatMap_cons, decode?_encodeByte, induction]
      rfl

theorem encode_inj {first second : String} : encode first = encode second ↔ first = second := by
  constructor
  · intro same
    have read := congrArg (fun text => decode? text.toList) same
    rw [decode?_encode, decode?_encode] at read
    exact Utf8.encode_inj.mp (Option.some.inj read)
  · intro same
    rw [same]

/-- A text that is written for another one and stands for it. -/
structure Spells (value text : String) : Prop where
  encoded : Encoded value.toList
  decoded : decode? value.toList = some (Utf8.encode text)

theorem spells_encode (text : String) : Spells (encode text) text where
  encoded := encoded_encode text
  decoded := decode?_encode text

end Text.Percent

/-! ## The parts of a URL -/

namespace Text

/-- What stands before a character, and what stands after it if it occurs. -/
def cutAt (stop : Char) : List Char → List Char × Option (List Char)
  | [] => ([], none)
  | char :: rest =>
      if char = stop then ([], some rest)
      else
        let (before, after) := cutAt stop rest
        (char :: before, after)

theorem cutAt_of_not_mem {stop : Char} {text : List Char} (free : stop ∉ text) :
    cutAt stop text = (text, none) := by
  induction text with
  | nil => rfl
  | cons char rest induction =>
      rw [List.mem_cons, not_or] at free
      simp [cutAt, Ne.symm free.1, induction free.2]

theorem cutAt_append_stop {stop : Char} {before : List Char} (free : stop ∉ before)
    (after : List Char) : cutAt stop (before ++ stop :: after) = (before, some after) := by
  induction before with
  | nil => simp [cutAt]
  | cons char rest induction =>
      rw [List.mem_cons, not_or] at free
      simp [cutAt, Ne.symm free.1, induction free.2]

/-- A text without the character is added to whatever comes last. -/
theorem cutAt_append {stop : Char} {more : List Char} (free : stop ∉ more) (text : List Char) :
    cutAt stop (text ++ more) =
      match cutAt stop text with
      | (before, none) => (before ++ more, none)
      | (before, some after) => (before, some (after ++ more)) := by
  induction text with
  | nil => exact cutAt_of_not_mem free
  | cons char rest induction =>
      by_cases stops : char = stop
      · simp [cutAt, stops]
      · rw [List.cons_append, cutAt, cutAt, induction, if_neg stops, if_neg stops]
        rcases cutAt stop rest with ⟨before, _ | after⟩ <;> rfl

theorem splitWhere_append {test : Char → Bool} {more : List Char}
    (free : ∀ char ∈ more, test char = false) (text : List Char) :
    splitWhere test (text ++ more) = (splitWhere test text).modifyLast (· ++ more) := by
  induction text with
  | nil => exact splitWhere_of_forall free
  | cons char rest induction =>
      have some := splitWhere_ne_nil test rest
      rw [List.cons_append, splitWhere, splitWhere, induction]
      cases test char with
      | true => exact (List.modifyLast_append_of_right_ne_nil _ [[]] _ some).symm
      | false =>
          cases parts : splitWhere test rest with
          | nil => exact absurd parts some
          | cons part others =>
              cases others with
              | nil => rfl
              | cons next others =>
                  have front := List.modifyLast_append_of_right_ne_nil (· ++ more) [part]
                    (next :: others) (List.cons_ne_nil _ _)
                  have changed := List.modifyLast_append_of_right_ne_nil (· ++ more)
                    [char :: part] (next :: others) (List.cons_ne_nil _ _)
                  simp only [List.singleton_append] at front changed
                  simp [front, changed]

end Text

/-- A name, and its value if there is an equals sign. -/
abbrev QueryParameter : Type := List Char × Option (List Char)

/-- What a URL tells. The first segments are its scheme and its server. -/
structure UrlParts where
  segments : List (List Char)
  parameters : Option (List QueryParameter)
  fragment : Option (List Char)
deriving DecidableEq

namespace UrlParts

def parametersOf (query : List Char) : List QueryParameter :=
  (Text.splitWhere (· = '&') query).map (Text.cutAt '=')

def ofText (text : List Char) : UrlParts :=
  let (shown, fragment) := Text.cutAt '#' text
  let (path, query) := Text.cutAt '?' shown
  ⟨Text.splitWhere (· = '/') path, query.map parametersOf, fragment⟩

/-- How many segments there are, which parameters have a value, and whether there is a fragment. -/
def shape (parts : UrlParts) : Nat × Option (List Bool) × Bool :=
  (parts.segments.length, parts.parameters.map (·.map (·.2.isSome)), parts.fragment.isSome)

def lengthenParameter (more : List Char) : QueryParameter → QueryParameter
  | (name, none) => (name ++ more, none)
  | (name, some value) => (name, some (value ++ more))

/-- The parts with something added to the last one. -/
def lengthen (more : List Char) : UrlParts → UrlParts
  | ⟨segments, parameters, some fragment⟩ => ⟨segments, parameters, some (fragment ++ more)⟩
  | ⟨segments, some parameters, none⟩ =>
      ⟨segments, some (parameters.modifyLast (lengthenParameter more)), none⟩
  | ⟨segments, none, none⟩ => ⟨segments.modifyLast (· ++ more), none, none⟩

theorem shape_lengthen (more : List Char) (parts : UrlParts) :
    (parts.lengthen more).shape = parts.shape := by
  rcases parts with ⟨segments, _ | parameters, _ | fragment⟩
  case none.none =>
    have count : (segments.modifyLast (· ++ more)).length = segments.length := by
      rcases List.eq_nil_or_concat segments with rfl | ⟨front, last, rfl⟩
      · rfl
      · simp [List.modifyLast_concat]
    simp [lengthen, shape, count]
  case some.none =>
    have valued : ∀ parameter, (lengthenParameter more parameter).2.isSome =
        parameter.2.isSome := by
      rintro ⟨name, _ | value⟩ <;> rfl
    have marks : (parameters.modifyLast (lengthenParameter more)).map (·.2.isSome) =
        parameters.map (·.2.isSome) := by
      rcases List.eq_nil_or_concat parameters with rfl | ⟨front, last, rfl⟩
      · rfl
      · simp [List.modifyLast_concat, valued]
    simp [lengthen, shape, marks]
  case none.some => rfl
  case some.some => rfl

/-- The characters that part a URL. -/
def delimiters : List Char :=
  "#?/&=".toList

/-- A text that parts nothing. -/
def Inert (more : List Char) : Prop :=
  ∀ char ∈ more, char ∉ delimiters

theorem inert_of_encoded {more : List Char} (encoded : Text.Percent.Encoded more) : Inert more := by
  intro char found parts
  have all : delimiters.all (fun char => !Text.Percent.isUnreserved char && char != '%') = true := by
    decide
  rcases Bool.and_eq_true_iff.mp (List.all_eq_true.mp all char parts) with ⟨reserved, notPercent⟩
  exact encoded.not_mem (by simpa using reserved) (by simpa using notPercent) found

theorem Inert.not_mem {more : List Char} (inert : Inert more) {char : Char}
    (parts : char ∈ delimiters) : char ∉ more :=
  fun found => inert char found parts

theorem Inert.apart {more : List Char} (inert : Inert more) {stop : Char}
    (parts : stop ∈ delimiters) : ∀ char ∈ more, decide (char = stop) = false := by
  intro char found
  apply decide_eq_false
  rintro rfl
  exact inert char found parts

theorem parametersOf_append {more : List Char} (inert : Inert more) (query : List Char) :
    parametersOf (query ++ more) =
      (parametersOf query).modifyLast (lengthenParameter more) := by
  have added : ∀ part, Text.cutAt '=' (part ++ more) =
      lengthenParameter more (Text.cutAt '=' part) := by
    intro part
    rw [Text.cutAt_append (inert.not_mem (by decide))]
    rcases Text.cutAt '=' part with ⟨name, _ | value⟩ <;> rfl
  rw [parametersOf, Text.splitWhere_append (inert.apart (by decide)), parametersOf]
  rcases List.eq_nil_or_concat (Text.splitWhere (· = '&') query) with none | ⟨front, last, whole⟩
  · exact absurd none (Text.splitWhere_ne_nil _ _)
  · rw [whole]
    simp [List.modifyLast_concat, added]

/-- What is added to a text without a character that parts it only lengthens its last part. -/
theorem ofText_append {more : List Char} (inert : Inert more) (text : List Char) :
    ofText (text ++ more) = (ofText text).lengthen more := by
  rw [ofText, ofText, Text.cutAt_append (inert.not_mem (by decide))]
  rcases Text.cutAt '#' text with ⟨shown, _ | fragment⟩
  case some =>
    rcases Text.cutAt '?' shown with ⟨path, _ | query⟩ <;> rfl
  case none =>
    dsimp only
    rw [Text.cutAt_append (inert.not_mem (by decide))]
    rcases Text.cutAt '?' shown with ⟨path, _ | query⟩
    case none =>
      have free := inert.apart (by decide : '/' ∈ delimiters)
      simp [lengthen, Text.splitWhere_append free]
    case some => simp [lengthen, parametersOf_append inert]

end UrlParts

/-! ## The URLs of the backend -/

namespace Backend

def slashes (count : Nat) : String :=
  String.ofList (List.replicate count '/')

theorem toList_base (address : String) :
    (ofAddress address).base.toList = Text.dropEndWhile (· == '/') address.toList :=
  String.toList_ofList

/-- The base is the address without the slashes at its end. -/
theorem address_eq_base (address : String) :
    ∃ count, address = (ofAddress address).base ++ slashes count := by
  generalize ended : (address.toList.reverse.takeWhile (· == '/')).reverse = after
  have whole : address.toList = Text.dropEndWhile (· == '/') address.toList ++ after := by
    rw [← ended, Text.dropEndWhile, ← List.reverse_append, List.takeWhile_append_dropWhile,
      List.reverse_reverse]
  have only : ∀ char ∈ after, char = '/' := by
    intro char found
    rw [← ended, List.mem_reverse] at found
    exact beq_iff_eq.mp (List.all_eq_true.mp List.all_takeWhile char found)
  refine ⟨after.length, ?_⟩
  rw [← String.toList_inj, String.toList_append, toList_base, slashes, String.toList_ofList,
    ← List.eq_replicate_of_mem only]
  exact whole

theorem base_last (address : String) : (ofAddress address).base.toList.getLast? ≠ some '/' := by
  intro last
  rw [toList_base, Text.dropEndWhile, List.getLast?_reverse] at last
  have stops := Text.dropWhile_head (· == '/') address.toList.reverse '/' last
  cases stops

theorem ofAddress_slashes (address : String) (count : Nat) :
    ofAddress (address ++ slashes count) = ofAddress address := by
  have ended : ∀ char ∈ List.replicate count '/', (char == '/') = true := by
    intro char found
    simp [List.eq_of_mem_replicate found]
  rw [ofAddress, ofAddress, String.toList_append, slashes, String.toList_ofList,
    Text.dropEndWhile_append_of_forall ended]

/-- Texts are written at the end of a URL so that they are held apart from what is in front. -/
structure HoldsApart (front : String) (url : String → String) : Prop where
  written : ∀ text, url text = front ++ Text.Percent.encode text
  last : ∀ text, UrlParts.ofText (url text).toList =
    (UrlParts.ofText front.toList).lengthen (Text.Percent.encode text).toList
  shape : ∀ text other,
    (UrlParts.ofText (url text).toList).shape = (UrlParts.ofText (url other).toList).shape
  different : ∀ text other, url text = url other ↔ text = other

theorem holdsApart_encode (front : String) :
    HoldsApart front fun text => front ++ Text.Percent.encode text := by
  have last : ∀ text, UrlParts.ofText (front ++ Text.Percent.encode text).toList =
      (UrlParts.ofText front.toList).lengthen (Text.Percent.encode text).toList := by
    intro text
    have inert := UrlParts.inert_of_encoded (Text.Percent.encoded_encode text)
    rw [String.toList_append, UrlParts.ofText_append inert]
  refine ⟨fun _ => rfl, last, ?shape, ?different⟩
  case shape =>
    intro text other
    rw [last, last, UrlParts.shape_lengthen, UrlParts.shape_lengthen]
  case different =>
    intro text other
    rw [← String.toList_inj, String.toList_append, String.toList_append,
      List.append_cancel_left_eq, String.toList_inj, Text.Percent.encode_inj]

/-- In front of the prompt there is a parameter without anything in it yet. -/
theorem ofText_submitFront {base : List Char} (noFragment : '#' ∉ base) (noQuery : '?' ∉ base) :
    UrlParts.ofText (base ++ "/api/promptweb?prompt=".toList) =
      ⟨Text.splitWhere (· = '/') base ++ ["api".toList, "promptweb".toList],
        some [("prompt".toList, some [])], none⟩ := by
  have spelt : base ++ "/api/promptweb?prompt=".toList =
      (base ++ '/' :: "api/promptweb".toList) ++ '?' :: "prompt=".toList := by simp
  have shown : '#' ∉ base ++ "/api/promptweb?prompt=".toList := by simp [noFragment]
  have path : '?' ∉ base ++ '/' :: "api/promptweb".toList := by simp [noQuery]
  have segments : Text.splitWhere (· = '/') "api/promptweb".toList =
      ["api".toList, "promptweb".toList] := by decide
  have parameters : UrlParts.parametersOf "prompt=".toList = [("prompt".toList, some [])] := by
    decide
  simp only [UrlParts.ofText, Text.cutAt_of_not_mem shown]
  rw [spelt]
  simp only [Text.cutAt_append_stop path, Option.map_some, parameters]
  rw [Text.splitWhere_append_stop (by decide), segments]

/-- In front of the key there is a segment without anything in it yet. -/
theorem ofText_resultFront {base : List Char} (noFragment : '#' ∉ base) (noQuery : '?' ∉ base) :
    UrlParts.ofText (base ++ "/api/results/".toList) =
      ⟨Text.splitWhere (· = '/') base ++ ["api".toList, "results".toList, []], none, none⟩ := by
  have shown : '#' ∉ base ++ "/api/results/".toList := by simp [noFragment]
  have path : '?' ∉ base ++ "/api/results/".toList := by simp [noQuery]
  have segments : Text.splitWhere (· = '/') "api/results/".toList =
      ["api".toList, "results".toList, []] := by decide
  simp only [UrlParts.ofText, Text.cutAt_of_not_mem shown, Text.cutAt_of_not_mem path,
    Option.map_none]
  rw [show "/api/results/".toList = '/' :: "api/results/".toList from rfl,
    Text.splitWhere_append_stop (by decide), segments]

/-- Prompts and keys are held apart from the rest of their URLs.

In front of one are always the address without the slashes at its end and a fixed text. At the end
is the encoded prompt or key, from which it can be read again. This only makes the last part of
the URL longer, so that all URLs have as many segments and parameters. Different prompts or keys
have different URLs, and more slashes at the end of the address make no difference. If the address
has neither parameters nor a fragment, the prompt is the value of the only parameter, and the key
is the last segment. -/
theorem urls_hold_texts_apart (address : String) :
    let backend := ofAddress address
    ((∃ count, address = backend.base ++ slashes count) ∧
      backend.base.toList.getLast? ≠ some '/' ∧
      ∀ count, ofAddress (address ++ slashes count) = backend) ∧
    (∀ text, Text.Percent.Spells (Text.Percent.encode text) text) ∧
    HoldsApart (backend.base ++ "/api/promptweb?prompt=") backend.submitUrl ∧
    HoldsApart (backend.base ++ "/api/results/") backend.resultUrl ∧
    ('#' ∉ backend.base.toList → '?' ∉ backend.base.toList → ∀ text,
      let value := (Text.Percent.encode text).toList
      let segments := Text.splitWhere (· = '/') backend.base.toList
      UrlParts.ofText (backend.submitUrl text).toList =
        ⟨segments ++ ["api".toList, "promptweb".toList], some [("prompt".toList, some value)],
          none⟩ ∧
      UrlParts.ofText (backend.resultUrl text).toList =
        ⟨segments ++ ["api".toList, "results".toList, value], none, none⟩) := by
  intro backend
  have prompts := holdsApart_encode (backend.base ++ "/api/promptweb?prompt=")
  have keys := holdsApart_encode (backend.base ++ "/api/results/")
  refine ⟨⟨address_eq_base address, base_last address, ofAddress_slashes address⟩,
    Text.Percent.spells_encode, prompts, keys, ?_⟩
  intro noFragment noQuery text value segments
  constructor
  · rw [submitUrl, prompts.last, String.toList_append, ofText_submitFront noFragment noQuery]
    rfl
  · rw [resultUrl, keys.last, String.toList_append, ofText_resultFront noFragment noQuery]
    simp only [UrlParts.lengthen]
    rw [List.modifyLast_append_of_right_ne_nil _ _ _ (List.cons_ne_nil _ _)]
    rfl

/-- A prompt that would be a parameter and a fragment of its own is all of one parameter. -/
theorem urls_hold_texts_apart_local :
    let backend := ofAddress "http://localhost:8181//"
    let prompt := "é&key=%2F#+"
    backend.submitUrl prompt =
        "http://localhost:8181/api/promptweb?prompt=%C3%A9%26key%3D%252F%23%2B" ∧
      (UrlParts.ofText (backend.submitUrl prompt).toList).parameters =
        some [("prompt".toList, some "%C3%A9%26key%3D%252F%23%2B".toList)] ∧
      (UrlParts.ofText (backend.resultUrl "a/b?").toList).segments =
        ["http:", "", "localhost:8181", "api", "results", "a%2Fb%3F"].map String.toList ∧
      backend.submitUrl "a" ≠ backend.submitUrl "b" := by
  intro backend prompt
  rcases urls_hold_texts_apart "http://localhost:8181//" with ⟨-, -, prompts, -, plain⟩
  have base : backend.base = "http://localhost:8181" := by decide +kernel
  have apart := plain (by rw [base]; decide) (by rw [base]; decide)
  have written : Text.Percent.encode prompt = "%C3%A9%26key%3D%252F%23%2B" := by decide +kernel
  have key : Text.Percent.encode "a/b?" = "a%2Fb%3F" := by decide +kernel
  refine ⟨?_, ?_, ?_, ?_⟩
  · rw [prompts.written, base, written]
    rfl
  · rw [(apart prompt).1, written]
  · rw [(apart "a/b?").2, key, base]
    decide
  · intro same
    exact absurd ((prompts.different "a" "b").mp same) (by decide)

end Backend

end PromptClient
