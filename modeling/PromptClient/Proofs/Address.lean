import PromptClient.Backend
import PromptClient.Proofs.Trimming

/-! # Where requests go

The address of a request is put together from the address of the backend and an encoded text.
To which server it leads is settled by the slashes in between, before that text begins. -/

namespace PromptClient

namespace Text.Percent

/-- Nothing in an encoded text is blank or a control character. -/
theorem encodeByte_printable (byte : UInt8) : ∀ char ∈ encodeByte byte, 32 < char.toNat := by
  have each : ∀ code < 256,
      (encodeByte (UInt8.ofNat code)).all (fun char => 32 < char.toNat) = true := by
    decide +kernel
  have printable := each byte.toNat byte.toNat_lt
  rw [UInt8.ofNat_toNat] at printable
  intro char found
  exact of_decide_eq_true (List.all_eq_true.mp printable char found)

theorem encode_printable (text : String) : ∀ char ∈ (encode text).toList, 32 < char.toNat := by
  intro char found
  rw [encode, String.toList_ofList] at found
  rcases List.mem_flatMap.mp found with ⟨byte, -, found⟩
  exact encodeByte_printable byte char found

end Text.Percent

namespace Url

/-! ## Texts that end after a slash -/

section Stops

variable {test : Char → Bool} {stop : Char}

theorem takeWhile_stop (stops : test stop = false) (before after : List Char) :
    (before ++ stop :: after).takeWhile test = before.takeWhile test := by
  induction before with
  | nil => simp [stops]
  | cons first before induction =>
      rw [List.cons_append, List.takeWhile_cons, List.takeWhile_cons, induction]

theorem dropWhile_stop (stops : test stop = false) (before after : List Char) :
    (before ++ stop :: after).dropWhile test = before.dropWhile test ++ stop :: after := by
  induction before with
  | nil => simp [stops]
  | cons first before induction =>
      rw [List.cons_append, List.dropWhile_cons, List.dropWhile_cons, induction]
      split <;> rfl

end Stops

/-- What counts of the address in front of a text. -/
def opening (base : String) : List Char :=
  (base.toList.dropWhile fun char => char.toNat ≤ 32).filter fun char =>
    char ≠ '\t' && char ≠ '\n' && char ≠ '\r'

theorem significant_append (base : String) {text : String} {first : Char} {rest : List Char}
    (spelt : text.toList = first :: rest) (printable : ∀ char ∈ first :: rest, 32 < char.toNat) :
    significant (base ++ text) = opening base ++ first :: rest := by
  have visible : ∀ char ∈ first :: rest, decide (char.toNat ≤ 32) = false := by
    intro char found
    simpa using printable char found
  have stripped : Text.strip (fun char => decide (char.toNat ≤ 32))
      (base.toList ++ first :: rest) =
      base.toList.dropWhile (fun char => decide (char.toNat ≤ 32)) ++ first :: rest := by
    rw [Text.strip, dropWhile_stop (visible first List.mem_cons_self)]
    apply Text.dropEndWhile_of_last
    intro char found
    have same : (base.toList.dropWhile (fun char => decide (char.toNat ≤ 32)) ++
        first :: rest).getLast? = (first :: rest).getLast? := by
      rw [List.getLast?_append, List.getLast?_cons]
      rfl
    rw [same] at found
    exact visible char (List.mem_of_mem_getLast? found)
  have kept : (first :: rest).filter
      (fun char => char ≠ '\t' && char ≠ '\n' && char ≠ '\r') = first :: rest := by
    rw [List.filter_eq_self]
    intro char found
    have above := printable char found
    have apart : ∀ other : Char, other.toNat ≤ 32 → char ≠ other := by
      rintro other below rfl
      omega
    simp [apart '\t' (by decide), apart '\n' (by decide), apart '\r' (by decide)]
  rw [significant, String.toList_append, spelt, stripped, List.filter_append, kept, opening]

/-- A scheme ends before the first slash. -/
theorem schemeRest?_slash (before after : List Char) :
    schemeRest? (before ++ '/' :: after) =
      (schemeRest? before).map fun (scheme, rest) => (scheme, rest ++ '/' :: after) := by
  induction before with
  | nil => rfl
  | cons first before induction =>
      by_cases colon : first = ':'
      · subst colon
        rfl
      · have apart : ∀ rest, schemeRest? (first :: rest) =
            if first.isAlphanum || first = '+' || first = '-' || first = '.' then
              (schemeRest? rest).map fun (scheme, after) => (first.toLower :: scheme, after)
            else none := by
          intro rest
          rw [schemeRest?]
          exact colon
        rw [List.cons_append, apart, apart, induction]
        split
        · simp [Option.map_map, Function.comp_def]
        · rfl

theorem scheme?_slash (before after : List Char) :
    scheme? (before ++ '/' :: after) =
      (scheme? before).map fun (scheme, rest) => (scheme, rest ++ '/' :: after) := by
  cases before with
  | nil => rfl
  | cons first before =>
      have continued := schemeRest?_slash (first :: before) after
      rw [List.cons_append] at continued ⊢
      rw [scheme?, scheme?, continued]
      split
      · simp [Option.map_map, Function.comp_def]
      · rfl

/-! ## The server -/

/-- To which server a URL leads. -/
def origin (url : Url) : String × Option String × Option Nat :=
  (url.scheme, url.host, url.port)

theorem withAuthority_origin (scheme : String) (special : Bool) (before after : List Char) :
    (withAuthority scheme special (before ++ '/' :: after)).map origin =
      (hostAndPort scheme special (before.takeWhile (!endsAuthority special ·))).map
        fun (host, port) => (scheme, host, port) := by
  have stops : (!endsAuthority special '/') = false := by simp [endsAuthority]
  rw [withAuthority, takeWhile_stop stops]
  cases hostAndPort scheme special (before.takeWhile (!endsAuthority special ·)) with
  | error fault => rfl
  | ok found => rfl

/-- To which server an address leads, by what counts of it, when a path follows. -/
def server (opening : List Char) : Except Fault (String × Option String × Option Nat) :=
  match scheme? opening with
  | none => .error .relative
  | some (scheme, rest) =>
      let found := fun (special : Bool) (before : List Char) =>
        (hostAndPort scheme special (before.takeWhile (!endsAuthority special ·))).map
          fun (host, port) => (scheme, host, port)
      if (defaultPort? scheme).isSome then
        found true ((rest ++ ['/']).dropWhile isSlash ++ ['a', 'p', 'i'])
      else if scheme = "file" then .ok (scheme, none, none)
      else if (rest ++ "/api".toList).take 2 = ['/', '/'] then
        found false ((rest ++ "/api".toList).drop 2)
      else .ok (scheme, none, none)

/-- The rest of a path cannot change to which server an address leads. -/
theorem parse_origin (base : String) {rest : String}
    (printable : ∀ char ∈ rest.toList, 32 < char.toNat) :
    (parse (base ++ ("/api/" ++ rest))).map origin = server (opening base) := by
  have spelt : ("/api/" ++ rest).toList = '/' :: ('a' :: 'p' :: 'i' :: '/' :: rest.toList) := by
    rw [String.toList_append]
    rfl
  have counts : significant (base ++ ("/api/" ++ rest)) =
      opening base ++ '/' :: ('a' :: 'p' :: 'i' :: '/' :: rest.toList) := by
    apply significant_append base spelt
    intro char found
    rw [← spelt, String.toList_append] at found
    rcases List.mem_append.mp found with fixed | found
    · have each : ∀ char ∈ "/api/".toList, 32 < char.toNat := by simp
      exact each char fixed
    · exact printable char found
  rw [parse, counts, scheme?_slash, server]
  cases scheme? (opening base) with
  | none => rfl
  | some found =>
      rcases found with ⟨scheme, after⟩
      -- The slash in front of the rest ends the authority, wherever that begins.
      have far : after ++ '/' :: 'a' :: 'p' :: 'i' :: '/' :: rest.toList =
          (after ++ "/api".toList) ++ '/' :: rest.toList := by simp
      have near : after ++ '/' :: 'a' :: 'p' :: 'i' :: '/' :: rest.toList =
          (after ++ ['/']) ++ 'a' :: 'p' :: 'i' :: '/' :: rest.toList := by simp
      have long : 2 ≤ (after ++ "/api".toList).length := by simp
      simp only [Option.map_some]
      split
      · rw [near, dropWhile_stop (by decide)]
        have split : (after ++ ['/']).dropWhile isSlash ++ 'a' :: 'p' :: 'i' :: '/' :: rest.toList =
            ((after ++ ['/']).dropWhile isSlash ++ ['a', 'p', 'i']) ++ '/' :: rest.toList := by simp
        rw [split]
        exact withAuthority_origin scheme true _ rest.toList
      · split
        · rename_i file
          rw [file]
          rfl
        · rw [far, List.take_append_of_le_length long]
          split
          · rw [List.drop_append_of_le_length long]
            exact withAuthority_origin scheme false _ rest.toList
          · rfl

end Url

namespace Backend

theorem urlOf_ok_iff {address : String} {url : Url} :
    urlOf address = .ok url ↔ Url.parse address = .ok url ∧ url.host.isSome = true := by
  unfold urlOf
  cases parsed : Url.parse address with
  | error fault => simp
  | ok found =>
      simp only [Except.ok.injEq]
      split
      case isTrue has =>
        constructor
        · intro same
          cases same
          exact ⟨rfl, has⟩
        · rintro ⟨rfl, -⟩
          rfl
      case isFalse hasNot =>
        constructor
        · intro same
          cases same
        · rintro ⟨rfl, has⟩
          exact absurd has hasNot

/-- Requests can be made if the address of the backend leads to a server, whatever the rest of
the path is. -/
theorem urlOf_api_iff (base : String) {rest : String}
    (printable : ∀ char ∈ rest.toList, 32 < char.toNat) :
    (∃ url, urlOf (base ++ ("/api/" ++ rest)) = .ok url) ↔
      ∃ scheme host port, Url.server (Url.opening base) = .ok (scheme, some host, port) := by
  rw [← Url.parse_origin base printable]
  constructor
  · rintro ⟨url, made⟩
    rcases urlOf_ok_iff.mp made with ⟨parsed, has⟩
    rcases Option.isSome_iff_exists.mp has with ⟨host, same⟩
    refine ⟨url.scheme, host, url.port, ?_⟩
    rw [parsed, ← same]
    rfl
  · rintro ⟨scheme, host, port, leads⟩
    cases parsed : Url.parse (base ++ ("/api/" ++ rest)) with
    | error fault =>
        rw [parsed] at leads
        cases leads
    | ok url =>
        rw [parsed] at leads
        refine ⟨url, urlOf_ok_iff.mpr ⟨parsed, ?_⟩⟩
        have same : url.origin = (scheme, some host, port) := Except.ok.inj leads
        have named : url.host = some host := congrArg (·.2.1) same
        rw [named]
        rfl

/-- The address to which a call goes. -/
def address (backend : Backend) : BackendCall → String
  | .create submission => backend.submitUrl submission.prompt
  | .fetch key => backend.resultUrl key

theorem printable_append (fixed text : String)
    (first : ∀ char ∈ fixed.toList, 32 < char.toNat) :
    ∀ char ∈ (fixed ++ Text.Percent.encode text).toList, 32 < char.toNat := by
  intro char found
  rw [String.toList_append] at found
  rcases List.mem_append.mp found with found | found
  · exact first char found
  · exact Text.Percent.encode_printable text char found

theorem address_eq (backend : Backend) (call : BackendCall) :
    ∃ rest : String, (∀ char ∈ rest.toList, 32 < char.toNat) ∧
      backend.address call = backend.base ++ ("/api/" ++ rest) := by
  cases call with
  | create submission =>
      have path : "/api/promptweb?prompt=" = "/api/" ++ "promptweb?prompt=" := by decide +kernel
      refine ⟨_, printable_append "promptweb?prompt=" submission.prompt (by simp), ?_⟩
      rw [address, submitUrl, path, String.append_assoc, String.append_assoc]
  | fetch key =>
      have path : "/api/results/" = "/api/" ++ "results/" := by decide +kernel
      refine ⟨_, printable_append "results/" key (by simp), ?_⟩
      rw [address, resultUrl, path, String.append_assoc, String.append_assoc]

theorem bind_ok {α γ : Type} {first : Except String α} {later : α → Except String γ} {result : γ}
    (succeeds : first >>= later = .ok result) :
    ∃ value, first = .ok value ∧ later value = .ok result := by
  cases first with
  | error fault => cases succeeds
  | ok value => exact ⟨value, rfl, succeeds⟩

theorem request_create {backend : Backend} {submission : Submission} {post : HttpRequest}
    (sendable : backend.request (.create submission) = .ok post) :
    ∃ url cookie, urlOf (backend.submitUrl submission.prompt) = .ok url ∧
      cookieHeader submission.cookie = .ok cookie ∧
      post = ⟨.post, url, cookie, some "application/json", submission.context.body⟩ := by
  rcases bind_ok sendable with ⟨url, made, sendable⟩
  rcases bind_ok sendable with ⟨cookie, header, same⟩
  cases same
  exact ⟨url, cookie, made, header, rfl⟩

theorem request_fetch_iff {backend : Backend} {key : String} {get : HttpRequest} :
    backend.request (.fetch key) = .ok get ↔
      ∃ url, urlOf (backend.resultUrl key) = .ok url ∧ get = ⟨.get, url, none, none, ""⟩ := by
  constructor
  · intro sendable
    rcases bind_ok sendable with ⟨url, made, same⟩
    cases same
    exact ⟨url, made, rfl⟩
  · rintro ⟨url, made, rfl⟩
    simp only [request, made]
    rfl

theorem request_url {backend : Backend} {call : BackendCall} {request : HttpRequest}
    (sendable : backend.request call = .ok request) :
    urlOf (backend.address call) = .ok request.url := by
  cases call with
  | create submission =>
      rcases request_create sendable with ⟨url, cookie, made, -, rfl⟩
      exact made
  | fetch key =>
      rcases request_fetch_iff.mp sendable with ⟨url, made, rfl⟩
      exact made

/-- All requests go to one server, whatever is asked of it. -/
theorem request_origin {backend : Backend} {call : BackendCall} {request : HttpRequest}
    (sendable : backend.request call = .ok request) :
    Url.server (Url.opening backend.base) = .ok request.url.origin := by
  rcases backend.address_eq call with ⟨rest, printable, same⟩
  have parsed := (urlOf_ok_iff.mp (request_url sendable)).1
  rw [same] at parsed
  rw [← Url.parse_origin backend.base printable, parsed]
  rfl

/-- Where one call can be made, any result can be looked up. -/
theorem fetch_of_request {backend : Backend} {call : BackendCall} {request : HttpRequest}
    (sendable : backend.request call = .ok request) (key : String) :
    ∃ url, urlOf (backend.resultUrl key) = .ok url := by
  rcases backend.address_eq call with ⟨rest, printable, same⟩
  rcases backend.address_eq (.fetch key) with ⟨other, otherPrintable, otherSame⟩
  have made : ∃ url, urlOf (backend.address call) = .ok url := ⟨_, request_url sendable⟩
  rw [same, urlOf_api_iff _ printable] at made
  change ∃ url, urlOf (backend.address (.fetch key)) = .ok url
  rw [otherSame, urlOf_api_iff _ otherPrintable]
  exact made

end Backend

end PromptClient
