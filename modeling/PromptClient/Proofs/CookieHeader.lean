import PromptClient.Proofs.HttpJobs
import PromptClient.Proofs.Import
import PromptClient.Proofs.Vouching

/-! # The cookie in the header

The text of the session cookie goes into the header of a request as it is stored, and not as it
has been decoded. What can stand there is settled by the decoder all the same, for only a cookie
with a session in it is sent: it is Base64, and quotes around that. -/

namespace PromptClient

namespace Text.Base64

/-- The symbols in the order of their values. -/
def alphabet : List Char :=
  "ABCDEFGHIJKLMNOPQRSTUVWXYZabcdefghijklmnopqrstuvwxyz0123456789+/".toList

/-- Symbols, one at least, and after them the padding. Any number of quotes may come before and
any other number of them afterwards. -/
def Quoted (text : String) : Prop :=
  ∃ opening symbols padding closing : List Char,
    text = String.ofList (opening ++ symbols ++ padding ++ closing) ∧
    (∀ char ∈ opening, char = '"') ∧
    symbols ≠ [] ∧ (∀ char ∈ symbols, char ∈ alphabet) ∧
    padding ∈ [[], ['='], ['=', '=']] ∧
    ∀ char ∈ closing, char = '"'

/-- A character that is seen, and ends neither a cookie nor the value of one. -/
structure Harmless (char : Char) : Prop where
  visible : 32 < char.toNat ∧ char.toNat < 127
  noSemicolon : char ≠ ';'
  noComma : char ≠ ','

theorem symbol_mem_alphabet :
    ∀ value < 64, Char.ofNat (symbol value).toNat ∈ alphabet := by
  decide

/-- What is written for bytes is symbols and padding, with some symbols if there are bytes. -/
theorem ofBytes_split (bytes : List UInt8) :
    ∃ symbols padding, ofBytes bytes = String.ofList (symbols ++ padding) ∧
      (∀ char ∈ symbols, char ∈ alphabet) ∧ padding ∈ [[], ['='], ['=', '=']] ∧
      (bytes ≠ [] → symbols ≠ []) := by
  induction bytes using encodeBytes.induct with
  | case1 => exact ⟨[], [], rfl, by simp, by simp, fun some => absurd rfl some⟩
  | case2 first =>
      have bound := first.toNat_lt
      refine ⟨[_, _], ['=', '='], rfl, ?_, by simp, fun _ => List.cons_ne_nil _ _⟩
      simp only [List.forall_mem_cons]
      exact ⟨symbol_mem_alphabet _ (by omega), symbol_mem_alphabet _ (by omega), by simp⟩
  | case3 first second =>
      have bound := first.toNat_lt
      have other := second.toNat_lt
      refine ⟨[_, _, _], ['='], rfl, ?_, by simp, fun _ => List.cons_ne_nil _ _⟩
      simp only [List.forall_mem_cons]
      exact ⟨symbol_mem_alphabet _ (by omega), symbol_mem_alphabet _ (by omega),
        symbol_mem_alphabet _ (by omega), by simp⟩
  | case4 first second third rest induction =>
      have bound := first.toNat_lt
      have other := second.toNat_lt
      have last := third.toNat_lt
      let bits := (first.toNat * 256 + second.toNat) * 256 + third.toNat
      let written value := Char.ofNat (symbol value).toNat
      rcases induction with ⟨symbols, padding, same, known, closed, -⟩
      refine ⟨written (bits / 262144) :: written (bits / 4096 % 64) ::
        written (bits / 64 % 64) :: written (bits % 64) :: symbols, padding, ?_, ?_, closed,
        fun _ => List.cons_ne_nil _ _⟩
      · have same := congrArg String.toList same
        rw [ofBytes, String.toList_ofList, String.toList_ofList] at same
        rw [ofBytes, encodeBytes, List.map_cons, List.map_cons, List.map_cons, List.map_cons, same]
        rfl
      · simp only [List.forall_mem_cons]
        exact ⟨symbol_mem_alphabet _ (by omega), symbol_mem_alphabet _ (by omega),
          symbol_mem_alphabet _ (by omega), symbol_mem_alphabet _ (by omega), known⟩

theorem Quoted.harmless {text : String} (quoted : Quoted text) :
    ∀ char ∈ text.toList, Harmless char := by
  have quote : Harmless '"' := ⟨by decide, by decide, by decide⟩
  have equals : Harmless '=' := ⟨by decide, by decide, by decide⟩
  have symbol : ∀ char ∈ alphabet, Harmless char := by
    have all : (alphabet.all fun char =>
        (32 < char.toNat ∧ char.toNat < 127) ∧ char ≠ ';' ∧ char ≠ ',') = true := by decide
    intro char known
    rcases of_decide_eq_true (List.all_eq_true.mp all char known) with
      ⟨visible, semicolon, comma⟩
    exact ⟨visible, semicolon, comma⟩
  rcases quoted with ⟨opening, symbols, padding, closing, rfl, opens, -, known, pads, closes⟩
  have paddings : ∀ padding ∈ [[], ['='], ['=', '=']], ∀ char ∈ padding, char = '=' := by
    simp
  rw [String.toList_ofList]
  intro char found
  simp only [List.mem_append] at found
  rcases found with ((inOpening | inSymbols) | inPadding) | inClosing
  · rw [opens char inOpening]
    exact quote
  · exact symbol char (known char inSymbols)
  · rw [paddings padding pads char inPadding]
    exact equals
  · rw [closes char inClosing]
    exact quote

end Text.Base64

open Text.Base64 (Quoted Harmless)

namespace Session

/-- Whatever can be read as a session is Base64, once the blanks around it are gone, with
nothing but quotes before and after it. -/
theorem quoted_of_decode {provider : Provider} {raw : String} {session : Option Session}
    (decoded : decode provider raw = .ok session) : Quoted (Text.trim raw) := by
  unfold decode at decoded
  split at decoded
  case h_1 => cases decoded
  case h_2 bytes read =>
    -- No bytes at all would be no JSON.
    have some : bytes ≠ [] := by
      intro none
      have nothing : objectOfBytes? [] = Option.none := by decide +kernel
      rw [none, nothing] at decoded
      cases decoded
    rcases Text.Base64.ofBytes_split bytes with ⟨symbols, padding, written, known, pads, enough⟩
    rcases Text.strip_split (· == '"') (Text.strip Text.isBlank raw.toList) with
      ⟨opening, closing, whole, opens, closes⟩
    have bare : Text.strip (· == '"') (Text.strip Text.isBlank raw.toList) = symbols ++ padding := by
      have same := Text.Base64.decode_ok_iff.mp read
      rw [written, bareCookie] at same
      exact String.ofList_injective same
    refine ⟨opening, symbols, padding, closing, ?_, ?_, enough some, known, pads, ?_⟩
    · rw [Text.trim, whole, bare, ← List.append_assoc opening]
    · intro char found
      exact beq_iff_eq.mp (opens char found)
    · intro char found
      exact beq_iff_eq.mp (closes char found)

end Session

namespace Backend

/-- A harmless cookie is no obstacle to a request. -/
theorem cookieHeader_of_harmless {cookie : String}
    (harmless : ∀ char ∈ cookie.toList, Harmless char) :
    cookieHeader (some cookie) = .ok (some ("session=" ++ cookie)) := by
  have valid : cookie.toList.all isHeaderChar = true := by
    rw [List.all_eq_true]
    intro char found
    have visible := (harmless char found).visible
    simp only [isHeaderChar, Bool.or_eq_true, Bool.and_eq_true, decide_eq_true_eq]
    omega
  rw [cookieHeader, if_pos valid]

end Backend

namespace Login

variable {σ : Type} [Storage σ]

/-- The cookie in the storage is what some login has taken from a callback, whatever the callback
said. -/
def HasTaken (login : Login σ) : Prop :=
  ∃ (earlier : Login σ) (value : String),
    Storage.Keeps (.lasting (Text.trim value)) earlier.storage ∧
    Storage.cookie? login.storage = Storage.cookie? (earlier.completeLogin value).storage

theorem quoted_of_resolve {login : Login σ} {manual : ManualCredential} {credential : Credential}
    (resolved : login.resolveCredential .session manual = .ok credential) :
    ∃ cookie, credential = .session cookie ∧ Quoted (Text.trim cookie) := by
  rw [resolveCredential_session] at resolved
  rcases sessionCredential_ok resolved with ⟨cookie, session, -, -, decoded, -, same⟩
  exact ⟨cookie.value, same, Session.quoted_of_decode decoded⟩

/-- The blanks around a cookie go when a login takes it. -/
theorem trim_of_taken {login : Login σ} {manual : ManualCredential} {cookie : String}
    (taken : login.HasTaken)
    (resolved : login.resolveCredential .session manual = .ok (.session cookie)) :
    Text.trim cookie = cookie := by
  rcases taken with ⟨earlier, value, keeps, same⟩
  rw [resolveCredential_session] at resolved
  rcases sessionCredential_ok resolved with ⟨stored, session, found, -, -, -, sent⟩
  rw [found, completeLogin_storage, keeps] at same
  cases same
  cases sent
  exact Text.trim_trim value

end Login

namespace Desk

variable {σ : Type} [Storage σ]

theorem Authenticates.resolve {first last : Desk σ} {submission : Submission}
    (authenticates : first.Authenticates last submission) (mode : first.mode = .session) :
    ∃ cookie, first.login.resolveCredential .session first.manual = .ok (.session cookie) ∧
      submission.cookie = some cookie := by
  unfold Authenticates at authenticates
  rw [mode] at authenticates
  rcases authenticates with ⟨cookie, session, stored, live, decoded, valid, sent, -⟩
  refine ⟨cookie.value, ?_, sent⟩
  rw [Login.resolveCredential_session, Login.sessionCredential_iff]
  exact ⟨cookie, stored, ⟨live, session, decoded, valid⟩, rfl⟩

end Desk

namespace Crowd

variable {σ : Type} [Storage σ]

/-! ## Where an attempt begins -/

theorem length_le_move (crowd : Crowd σ) (move : Move σ) :
    crowd.seats.length ≤ (crowd.move move).seats.length := by
  cases move with
  | enter values => simp [Crowd.move, join]
  | proceed number reply | callOff number =>
      simp only [Crowd.move]
      split <;> simp [settle]
  | outside login mode manual layout => exact Nat.le_refl _

theorem length_le_run (moves : List (Move σ)) :
    ∀ crowd : Crowd σ, crowd.seats.length ≤ (crowd.run moves).seats.length := by
  induction moves with
  | nil => exact fun crowd => Nat.le_refl _
  | cons move rest induction =>
      intro crowd
      exact Nat.le_trans (crowd.length_le_move move) (induction (crowd.move move))

/-- Every attempt has a number of its own, since there are more seats once it has begun. -/
theorem length_lt_of_entered (crowd : Crowd σ) (before : List (Move σ)) (values : FormValues)
    (later : List (Move σ)) :
    (crowd.run before).seats.length <
      (crowd.run (before ++ .enter values :: later)).seats.length := by
  have entered : (crowd.run before).seats.length <
      ((crowd.run before).move (.enter values)).seats.length := by
    simp [move, join]
  have whole : crowd.run (before ++ .enter values :: later) =
      ((crowd.run before).move (.enter values)).run later := by
    simp [run]
  rw [whole]
  exact Nat.lt_of_lt_of_le entered (length_le_run later _)

/-- An attempt begins once, on one desk. -/
theorem Spans.first_eq {start first last begun ended : Desk σ} {moves : List (Move σ)}
    {number : Nat} (spans : Spans start moves number first last)
    (other : Spans start moves number begun ended) : first = begun := by
  rcases spans with ⟨before, values, between, after, whole, count, rfl, -⟩
  rcases other with ⟨earlier, given, middle, rest, same, equal, rfl, -⟩
  rw [whole, List.append_assoc, List.append_assoc, List.append_eq_append_iff] at same
  rcases same with ⟨gap, rfl, rejoined⟩ | ⟨gap, rfl, rejoined⟩
  · cases gap with
    | nil => rw [List.append_nil]
    | cons head tail =>
        rcases List.cons.inj rejoined with ⟨rfl, -⟩
        have less := length_lt_of_entered (opened start) before values tail
        omega
  · cases gap with
    | nil => rw [List.append_nil]
    | cons head tail =>
        rcases List.cons.inj rejoined with ⟨rfl, -⟩
        have less := length_lt_of_entered (opened start) earlier given tail
        omega

/-! ## What goes into the header -/

/-- Whatever is stored and whatever time it is, a cookie that is used is Base64 in quotes or
without, with blanks around it at the most: nothing in it ends a cookie or a header. If it is a
cookie that a login has taken, then there are no blanks either; and of however many attempts, an
attempt that begins with such a cookie sends a header with just that cookie. -/
theorem cookie_in_header :
    (∀ (login : Login σ) manual credential,
      login.resolveCredential .session manual = .ok credential →
      ∃ cookie, credential = .session cookie ∧ Quoted (Text.trim cookie) ∧
        ∀ char ∈ (Text.trim cookie).toList, Harmless char) ∧
    (∀ (login : Login σ) manual cookie, login.HasTaken →
      login.resolveCredential .session manual = .ok (.session cookie) →
      Text.trim cookie = cookie) ∧
    ∀ (start : Desk σ) moves number submission,
      (number, .create submission) ∈ ((opened start).run moves).calls →
      ∀ first last, Spans start moves number first last →
        first.mode = .session → first.login.HasTaken →
        ∃ cookie, first.login.resolveCredential .session first.manual = .ok (.session cookie) ∧
          Quoted cookie ∧ (∀ char ∈ cookie.toList, Harmless char) ∧
          Backend.cookieHeader submission.cookie = .ok (some ("session=" ++ cookie)) ∧
          ∀ (backend : Backend) request, backend.request (.create submission) = .ok request →
            request.cookie = some ("session=" ++ cookie) := by
  refine ⟨?shape, ?_, ?sent⟩
  case shape =>
    intro login manual credential resolved
    rcases Login.quoted_of_resolve resolved with ⟨cookie, same, quoted⟩
    exact ⟨cookie, same, quoted, quoted.harmless⟩
  · intro login manual cookie taken resolved
    exact Login.trim_of_taken taken resolved
  case sent =>
    intro start moves number submission sent first last spans mode taken
    rcases (accounted_run start moves).calls number submission sent with
      ⟨begun, ended, other, authenticates⟩
    cases other.first_eq spans
    rcases authenticates.resolve mode with ⟨cookie, resolved, carried⟩
    rcases Login.quoted_of_resolve resolved with ⟨same, equal, quoted⟩
    cases equal
    rw [Login.trim_of_taken taken resolved] at quoted
    have header := Backend.cookieHeader_of_harmless quoted.harmless
    refine ⟨cookie, resolved, quoted, quoted.harmless, carried ▸ header, ?_⟩
    intro backend request sendable
    rcases Backend.request_create sendable with ⟨url, field, -, valid, rfl⟩
    rw [carried, header] at valid
    cases valid
    rfl

/-- A callback brings a cookie in quotes, two of them before it, with blanks all around. -/
theorem cookie_in_header_quoted :
    let cookie := "\"\"eyJzbGFja19hY2Nlc3NfdG9rZW4iOiJ4b3hwIn0=\""
    let earlier : Login MemoryStorage :=
      ⟨.slackChannel, ⟨"", "", "", "", none⟩, ⟨none, ⟨[]⟩, ⟨[]⟩⟩, 0, true, .awaitingCallback, 1⟩
    let login : Login MemoryStorage :=
      { earlier with storage := ⟨some (.lasting cookie), ⟨[]⟩, ⟨[]⟩⟩, state := .loggedIn }
    let desk : Desk MemoryStorage :=
      ⟨login, .initial, .session, .absent, .standard, ⟨fun text => text, fun text => text⟩⟩
    let values : FormValues := ⟨"What is new?", "", "", false, []⟩
    let moves : List (Move MemoryStorage) :=
      [.enter values, .proceed 0 .rested, .proceed 0 .rested]
    let submission : Submission :=
      ⟨"What is new?", ⟨"SlackChannel", "", "", false, []⟩, some cookie⟩
    login.resolveCredential .session .absent = .ok (.session cookie) ∧ login.HasTaken ∧
      (0, .create submission) ∈ ((opened desk).run moves).calls ∧
      Quoted (Text.trim cookie) ∧ Text.trim cookie = cookie ∧
      Spans desk moves 0 desk ((opened desk).run moves).desk ∧
      Backend.cookieHeader submission.cookie = .ok (some ("session=" ++ cookie)) := by
  intro cookie earlier login desk values moves submission
  rcases cookie_in_header (σ := MemoryStorage) with ⟨shape, trimmed, crowded⟩
  have resolved : login.resolveCredential .session .absent = .ok (.session cookie) := by
    decide +kernel
  have taken : login.HasTaken := by
    refine ⟨earlier, " \t" ++ cookie ++ "\r\n", Storage.keeps_memory _ _, ?_⟩
    decide +kernel
  have sent : (0, .create submission) ∈ ((opened desk).run moves).calls := by
    decide +kernel
  have spans : Spans desk moves 0 desk ((opened desk).run moves).desk :=
    ⟨[], values, [.proceed 0 .rested, .proceed 0 .rested], [], rfl, rfl, rfl, rfl⟩
  rcases shape login .absent _ resolved with ⟨used, same, quoted, -⟩
  rw [← Credential.session.inj same] at quoted
  rcases crowded desk moves 0 submission sent desk _ spans rfl taken with
    ⟨carried, resolves, -, -, header, -⟩
  have equal : cookie = carried := Credential.session.inj (Except.ok.inj (resolved.symm.trans resolves))
  rw [← equal] at header
  exact ⟨resolved, taken, sent, quoted, trimmed login .absent cookie taken resolved, spans, header⟩

end Crowd

end PromptClient
