import PromptClient.Proofs.Json
import PromptClient.Proofs.Login
import PromptClient.Proofs.Trimming

/-! # Sessions in cookies

A session written into a cookie is read from it again by its own provider, whatever blanks and
quotes have come around it, and is nothing to the other provider. -/

namespace PromptClient

theorem Provider.accessTokenKey_inj {first second : Provider} :
    first.accessTokenKey = second.accessTokenKey ↔ first = second := by
  cases first <;> cases second <;> decide

theorem Provider.accessTokenKey_ne_expiresKey (first second : Provider) :
    first.accessTokenKey ≠ second.expiresKey := by
  cases first <;> cases second <;> decide

namespace Session

open Number

/-! ## What is written -/

/-- The expiry is a signed 64-bit number, if there is one. -/
def ExpiryFits (session : Session) : Prop :=
  ∀ time ∈ session.expiresAt, fitsInt64 time = true

theorem expiryOfText?_writeInt {time : Int} (fits : fitsInt64 time = true) :
    expiryOfText? (Text.Decimal.writeInt time) = some time := by
  have full : ∀ char ∈ Text.Decimal.writeInt time, Text.isBlank char = false :=
    Text.Decimal.writeInt_forall (by decide) (by decide) time
  have bare := Text.strip_of_bare (Text.bare_of_forall full)
  simp [expiryOfText?, bare, Text.Decimal.integer?_writeInt, Option.filter, fits]

theorem expiry?_ofInt {time : Int} (fits : fitsInt64 time = true) :
    expiry? (.text (Text.Decimal.ofInt time)) = some time := by
  rw [expiry?, Text.Decimal.ofInt, String.toList_ofList, expiryOfText?_writeInt fits]

theorem ofMembers_members (provider : Provider) {session : Session} (fits : session.ExpiryFits) :
    ofMembers provider (session.members provider) = .ok (some session) := by
  have apart := Provider.accessTokenKey_ne_expiresKey provider provider
  obtain ⟨token, expires⟩ := session
  cases expires with
  | none => simp [ofMembers, members, Json.member?, apart]
  | some time =>
      simp [ofMembers, members, Json.member?, apart.symm, expiry?_ofInt (fits time rfl)]

theorem ofMembers_other {provider other : Provider} (different : other ≠ provider)
    (session : Session) : ofMembers other (session.members provider) = .ok none := by
  have token : provider.accessTokenKey ≠ other.accessTokenKey := fun same =>
    different (Provider.accessTokenKey_inj.mp same).symm
  have apart := (Provider.accessTokenKey_ne_expiresKey other provider).symm
  obtain ⟨secret, expires⟩ := session
  cases expires <;> simp [ofMembers, members, Json.member?, token, apart]

/-! ## What is read -/

theorem objectOfBytes?_compact (provider : Provider) (session : Session) :
    objectOfBytes? (Text.Utf8.encode (Json.object (session.members provider)).compact) =
      some (session.members provider) := by
  have texts : ∀ member ∈ session.members provider, ∃ text, member.2 = .text text := by
    obtain ⟨token, expires⟩ := session
    cases expires <;> simp [members]
  have back : (Json.object (session.members provider)).ReadsBack Json.depthLimit := by
    apply Json.object_readsBack
    intro member found
    obtain ⟨text, written⟩ := texts member found
    rw [written]
    exact Json.text_readsBack _ text
  simp [objectOfBytes?, Json.parse?_compact back]

/-- The written form of bytes is made up of symbols and padding, none of them a blank or a
quote. -/
theorem ofBytes_forall (bytes : List UInt8) :
    ∀ char ∈ (Text.Base64.ofBytes bytes).toList,
      Text.isBlank char = false ∧ (char == '"') = false := by
  have symbols := Text.Base64.encodeBytes_forall
    (P := fun byte => Text.isBlank (Char.ofNat byte.toNat) = false ∧
      (Char.ofNat byte.toNat == '"') = false)
    (by decide) (by decide) bytes
  intro char found
  rw [Text.Base64.ofBytes, String.toList_ofList] at found
  rcases List.mem_map.mp found with ⟨byte, present, rfl⟩
  exact symbols byte present

theorem encode_forall (provider : Provider) (session : Session) :
    ∀ char ∈ (session.encode provider).toList,
      Text.isBlank char = false ∧ (char == '"') = false :=
  ofBytes_forall (Text.Utf8.encode (Json.object (session.members provider)).compact)

/-- Blanks around a cookie and quotes inside of these are not part of it. -/
theorem bareCookie_surrounded (leading opening closing trailing : String) {text : String}
    (plain : ∀ char ∈ text.toList, Text.isBlank char = false ∧ (char == '"') = false)
    (blankBefore : Text.isAllBlank leading = true)
    (blankAfter : Text.isAllBlank trailing = true)
    (quoteBefore : ∀ char ∈ opening.toList, char = '"')
    (quoteAfter : ∀ char ∈ closing.toList, char = '"') :
    bareCookie (leading ++ opening ++ text ++ closing ++ trailing) = text := by
  have inner : ∀ char ∈ opening.toList ++ text.toList ++ closing.toList,
      Text.isBlank char = false := by
    intro char found
    rcases List.mem_append.mp found with found | found
    · rcases List.mem_append.mp found with found | found
      · rw [quoteBefore char found]
        decide
      · exact (plain char found).1
    · rw [quoteAfter char found]
      decide
  -- The blanks come off first, down to the quotes, which are no blanks; then the quotes do.
  have trimmed := Text.strip_append (List.all_eq_true.mp blankBefore)
    (List.all_eq_true.mp blankAfter) (Text.bare_of_forall inner)
  have unquoted : Text.strip (· == '"')
      (opening.toList ++ text.toList ++ closing.toList) = text.toList :=
    Text.strip_append (fun char found => beq_iff_eq.mpr (quoteBefore char found))
      (fun char found => beq_iff_eq.mpr (quoteAfter char found))
      (Text.bare_of_forall fun char found => (plain char found).2)
  simp only [bareCookie, String.toList_append]
  simp only [List.append_assoc] at trimmed unquoted ⊢
  rw [trimmed, unquoted, String.ofList_toList]

theorem decode_of_bareCookie {provider reader : Provider} {session : Session} {raw : String}
    (bare : bareCookie raw = session.encode provider) :
    decode reader raw = ofMembers reader (session.members provider) := by
  rw [decode, bare, encode, Text.Base64.decode_encode]
  simp only [objectOfBytes?_compact]

theorem bareCookie_ofBytes (bytes : List UInt8) :
    bareCookie (Text.Base64.ofBytes bytes) = Text.Base64.ofBytes bytes := by
  have bare := bareCookie_surrounded "" "" "" "" (ofBytes_forall bytes) rfl rfl
    (by simp) (by simp)
  simpa using bare

theorem bareCookie_encode (provider : Provider) (session : Session) :
    bareCookie (session.encode provider) = session.encode provider :=
  bareCookie_ofBytes (Text.Utf8.encode (Json.object (session.members provider)).compact)

/-- A written session is not the empty text, which stands for no cookie. -/
theorem encode_ne_empty (provider : Provider) (session : Session) :
    session.encode provider ≠ "" := by
  intro empty
  -- The empty text would stand for no bytes, and no bytes are no JSON.
  have read := Text.Base64.decode_encode (Json.object (session.members provider)).compact
  have known := objectOfBytes?_compact provider session
  rw [show Text.Base64.encode _ = "" from empty] at read
  have nothing : Text.Utf8.encode (Json.object (session.members provider)).compact = [] :=
    Except.ok.inj read.symm
  have none : objectOfBytes? [] = none := by decide +kernel
  rw [nothing, none] at known
  cases known

/-! ## Back and forth -/

theorem decode_encode_surrounded {provider : Provider} {session : Session}
    (fits : session.ExpiryFits) {leading opening closing trailing : String}
    (blankBefore : Text.isAllBlank leading = true)
    (blankAfter : Text.isAllBlank trailing = true)
    (quoteBefore : ∀ char ∈ opening.toList, char = '"')
    (quoteAfter : ∀ char ∈ closing.toList, char = '"') :
    decode provider (leading ++ opening ++ session.encode provider ++ closing ++ trailing) =
      .ok (some session) := by
  rw [decode_of_bareCookie (bareCookie_surrounded leading opening closing trailing
    (encode_forall provider session) blankBefore blankAfter quoteBefore quoteAfter),
    ofMembers_members provider fits]

theorem decode_encode_self {provider : Provider} {session : Session}
    (fits : session.ExpiryFits) :
    decode provider (session.encode provider) = .ok (some session) := by
  rw [decode_of_bareCookie (bareCookie_encode provider session), ofMembers_members provider fits]

theorem decode_encode_other {provider other : Provider} (different : other ≠ provider)
    (session : Session) : decode other (session.encode provider) = .ok none := by
  rw [decode_of_bareCookie (bareCookie_encode provider session),
    ofMembers_other different session]

theorem trim_encode (provider : Provider) (session : Session) :
    Text.trim (session.encode provider) = session.encode provider := by
  rw [Text.trim, Text.strip_of_bare (Text.bare_of_forall fun char found =>
    (encode_forall provider session char found).1), String.ofList_toList]

end Session

namespace Login

variable {σ : Type} [Storage σ]

theorem sessionCookie?_of_encode {login : Login σ} {session : Session}
    (found : Storage.cookie? login.storage =
      some (.lasting (session.encode login.tool.provider))) :
    login.sessionCookie? = some (session.encode login.tool.provider) := by
  have live : (Cookie.lasting (session.encode login.tool.provider)).isLiveAt login.clock =
      true := by
    simp [Cookie.isLiveAt, Cookie.lasting, Session.outlives, Session.encode_ne_empty]
  rw [sessionCookie?_of_cookie found, if_pos live]
  rfl

theorem currentSession?_of_encode {login : Login σ} {session : Session}
    (fits : session.ExpiryFits)
    (found : Storage.cookie? login.storage =
      some (.lasting (session.encode login.tool.provider))) :
    login.currentSession? = some session := by
  rw [currentSession?, sessionCookie?_of_encode found]
  simp only [Session.decode_encode_self fits]

theorem hasSession_of_encode {login : Login σ} {session : Session} (fits : session.ExpiryFits)
    (found : Storage.cookie? login.storage =
      some (.lasting (session.encode login.tool.provider))) :
    login.hasSession = session.isValidAt login.clock := by
  rw [hasSession, currentSession?_of_encode fits found]
  rfl

/-- Once a login has taken the cookie of a session, it has that session and no other, and is
logged in exactly if the session is valid. -/
theorem completeLogin_encode {login : Login σ} {session : Session} (fits : session.ExpiryFits)
    (kept : Storage.Keeps (.lasting (session.encode login.tool.provider)) login.storage) :
    let after := login.completeLogin (session.encode login.tool.provider)
    (after.state = .loggedIn ↔ session.isValidAt login.clock = true) ∧
    after.currentSession? = some session ∧
    after.sessionCookie? = some (session.encode login.tool.provider) := by
  intro after
  let saved := login.withCookie (.lasting (session.encode login.tool.provider))
  have taken : after = saved.moveTo (if saved.hasSession then .loggedIn else .loggedOut) := by
    simp only [after, completeLogin, Session.trim_encode]
    rfl
  have holds : Storage.cookie? saved.storage =
      some (.lasting (session.encode saved.tool.provider)) := kept
  have valid : saved.hasSession = session.isValidAt login.clock :=
    hasSession_of_encode fits holds
  rw [taken, moveTo_state, valid, moveTo_currentSession?, moveTo_sessionCookie?]
  refine ⟨?_, currentSession?_of_encode fits holds, sessionCookie?_of_encode holds⟩
  split <;> simp [*]

end Login

namespace Session

/-- What is written for a provider is read by that provider, with any blanks around it and any
quotes inside of these, and says nothing to the other one. A login that takes it as its cookie
has exactly this session, keeps the cookie as it was written, and is logged in exactly if the
session is valid at the time. -/
theorem encode_readBack (provider : Provider) (session : Session)
    (fits : session.ExpiryFits) :
    (∀ leading opening closing trailing : String,
      Text.isAllBlank leading = true → Text.isAllBlank trailing = true →
      (∀ char ∈ opening.toList, char = '"') → (∀ char ∈ closing.toList, char = '"') →
      decode provider (leading ++ opening ++ session.encode provider ++ closing ++ trailing) =
        .ok (some session)) ∧
    (∀ other, other ≠ provider → decode other (session.encode provider) = .ok none) ∧
    ∀ {σ : Type} [Storage σ] (login : Login σ), login.tool.provider = provider →
      Storage.Keeps (.lasting (session.encode provider)) login.storage →
      let after := login.completeLogin (session.encode provider)
      (after.state = .loggedIn ↔ session.isValidAt login.clock = true) ∧
      after.currentSession? = some session ∧
      after.sessionCookie? = some (session.encode provider) := by
  refine ⟨?surrounded, fun other different => decode_encode_other different session, ?login⟩
  case surrounded =>
    intro leading opening closing trailing blankBefore blankAfter quoteBefore quoteAfter
    exact decode_encode_surrounded fits blankBefore blankAfter quoteBefore quoteAfter
  case login =>
    intro σ _ login same kept
    subst same
    exact Login.completeLogin_encode fits kept

/-- A token with a quote, a line break and a letter outside of ASCII, and the last time that
there is. -/
theorem encode_readBack_last :
    let session : Session := ⟨"a\"ö\n", some 9223372036854775807⟩
    let login : Login MemoryStorage :=
      .start .slackChannel ⟨"", "", "", "", none⟩ ⟨none, ⟨[]⟩, ⟨[]⟩⟩ 0 true
    session.ExpiryFits ∧
      decode .slack ("\u2003\n" ++ "\"" ++ session.encode .slack ++ "\"\"" ++ " ") =
        .ok (some session) ∧
      decode .google (session.encode .slack) = .ok none ∧
      (login.completeLogin (session.encode .slack)).state = .loggedIn := by
  intro session login
  have fits : session.ExpiryFits := by
    intro time found
    cases found
    decide
  obtain ⟨surrounded, others, taken⟩ := encode_readBack .slack session fits
  have valid : session.isValidAt login.clock = true := by decide +kernel
  exact ⟨fits, surrounded _ _ _ _ (by decide) (by decide) (by simp) (by simp),
    others .google (by decide), (taken login rfl rfl).1.mpr valid⟩

end Session

end PromptClient
