import PromptClient.Proofs.Login
import PromptClient.Proofs.Submission
import PromptClient.Proofs.Trimming

/-! # What a submission carries

A request carries secrets under keys of their own, and the cookie beside its body. Whatever is
prepared carries one credential: the session of the cookie or the secret that the user gives. -/

namespace PromptClient

/-! ## Secrets in a request -/

namespace Json

variable {α : Type} {test : String → Bool} {name : String}

theorem filter_putMember_other (plain : test name = false) (value : α)
    (members : List (String × α)) :
    (putMember name value members).filter (test ·.1) = members.filter (test ·.1) := by
  induction members with
  | nil => simp [putMember, plain]
  | cons member rest induction =>
      obtain ⟨key, other⟩ := member
      rw [putMember]
      split
      case isTrue same => simp [plain, same]
      case isFalse =>
        split
        · simp [List.filter_cons, plain]
        · simp [List.filter_cons, induction]

theorem filter_putMember_new (known : test name = true) (value : α)
    {members : List (String × α)} (none : members.filter (test ·.1) = []) :
    (putMember name value members).filter (test ·.1) = [(name, value)] := by
  induction members with
  | nil => simp [putMember, known]
  | cons member rest induction =>
      obtain ⟨key, other⟩ := member
      have plain : test key = false := by
        simpa using List.filter_eq_nil_iff.mp none (key, other) List.mem_cons_self
      have rest_none : rest.filter (test ·.1) = [] := by simpa [plain] using none
      have apart : key ≠ name := by
        rintro rfl
        rw [known] at plain
        cases plain
      rw [putMember, if_neg apart]
      split
      · simp [known, plain, rest_none]
      · simp [plain, induction rest_none]

end Json

/-- A key under which a request may carry a secret, whatever the provider. -/
def isSecretKey (key : String) : Bool :=
  [Provider.google, Provider.slack].any fun provider =>
    key = provider.accessTokenKey || key = provider.serviceAccountKey

theorem isSecretKey_accessTokenKey (provider : Provider) :
    isSecretKey provider.accessTokenKey = true := by
  cases provider <;> decide

theorem isSecretKey_serviceAccountKey (provider : Provider) :
    isSecretKey provider.serviceAccountKey = true := by
  cases provider <;> decide

theorem Tool.isSecretKey_payloadKey (tool : Tool) :
    ∀ field ∈ tool.fields, isSecretKey field.payloadKey = false := by
  cases tool <;> decide

namespace JobContext

/-- The members of the body that carry a secret. -/
def secrets (context : JobContext) : List (String × Json) :=
  context.members.filter (isSecretKey ·.1)

theorem secrets_eq (context : JobContext) :
    context.secrets =
      (context.fields.filter (isSecretKey ·.1)).map fun (key, value) => (key, .text value) := by
  have shared : isSecretKey "tool" = false ∧ isSecretKey "custom_model" = false ∧
      isSecretKey "context_window" = false ∧ isSecretKey "argument_debugging" = false := by
    decide
  simp only [secrets, members, List.filter_append, List.filter_map]
  simp [shared]
  rfl

theorem secrets_withField_other {key : String} (plain : isSecretKey key = false)
    (context : JobContext) (value : String) :
    (context.withField key value).secrets = context.secrets := by
  unfold withField
  split
  · rfl
  · simp only [secrets_eq, Json.filter_putMember_other plain]

theorem secrets_withField_new {key value : String} (known : isSecretKey key = true)
    (full : Text.isAllBlank value = false) {context : JobContext} (none : context.secrets = []) :
    (context.withField key value).secrets = [(key, .text value)] := by
  have none : context.fields.filter (isSecretKey ·.1) = [] := by
    simpa [secrets_eq] using none
  simp [withField, full, secrets_eq, Json.filter_putMember_new known value none]

/-- What a form holds is no secret, whatever it is. -/
theorem secrets_ofForm (tool : Tool) (values : FormValues) :
    (ofForm tool values).secrets = [] := by
  unfold ofForm
  refine List.foldlRecOn (motive := fun context : JobContext => context.secrets = [])
    tool.fields _ ?_ ?_
  · rw [secrets_eq]
    rfl
  · intro context none field found
    split
    · rw [secrets_withField_other (tool.isSecretKey_payloadKey field found), none]
    · exact none

end JobContext

/-! ## The credential chosen -/

namespace Login

theorem sessionCredential_ok {σ : Type} [Storage σ] {login : Login σ} {credential : Credential}
    (resolved : login.sessionCredential = .ok credential) :
    ∃ cookie session, Storage.cookie? login.storage = some cookie ∧
      cookie.isLiveAt login.clock = true ∧
      Session.decode login.tool.provider cookie.value = .ok (some session) ∧
      session.isValidAt login.clock = true ∧ credential = .session cookie.value := by
  unfold sessionCredential at resolved
  cases raw : login.sessionCookie? with
  | none => simp [raw] at resolved
  | some value =>
      obtain ⟨cookie, found, rfl⟩ := Option.map_eq_some_iff.mp raw
      obtain ⟨stored, live⟩ := Option.filter_eq_some_iff.mp found
      cases decoded : Session.decode login.tool.provider cookie.value with
      | error fault => simp [raw, decoded] at resolved
      | ok session? =>
          cases session? with
          | none => simp [raw, decoded, isValid] at resolved
          | some session =>
              cases valid : session.isValidAt login.clock with
              | false => simp [raw, decoded, isValid, valid] at resolved
              | true =>
                  have same : credential = .session cookie.value := by
                    simpa [raw, decoded, isValid, valid] using resolved.symm
                  exact ⟨cookie, session, stored, live, decoded, valid, same⟩

theorem manualCredential_ok {tool : Tool} {manual : ManualCredential} {credential : Credential}
    (resolved : manualCredential tool manual = .ok credential) :
    (∃ text, manual = .token text ∧ Text.isAllBlank text = false ∧
      credential = .token (Text.trim text)) ∨
    ∃ path, manual = .file path ∧ credential = .file path := by
  cases manual with
  | absent => cases resolved
  | file path =>
      cases resolved
      exact .inr ⟨path, rfl, rfl⟩
  | token text =>
      cases blank : Text.isAllBlank text with
      | true => simp [manualCredential, blank] at resolved
      | false =>
          have same : credential = .token (Text.trim text) := by
            simpa [manualCredential, blank] using resolved.symm
          exact .inl ⟨text, rfl, blank, same⟩

end Login

/-! ## What a submission carries -/

namespace Desk

variable {σ : Type} [Storage σ]

/-- The submission carries the credential that the desk gave at first, one single secret: a
live cookie with a session that was valid at that time, or else the token as trimmed, or else
the content that the chosen file had at last. -/
def Authenticates (first last : Desk σ) (submission : Submission) : Prop :=
  match first.mode with
  | .session => ∃ cookie session,
      Storage.cookie? first.storage = some cookie ∧ cookie.isLiveAt first.login.clock = true ∧
      Session.decode first.tool.provider cookie.value = .ok (some session) ∧
      session.isValidAt first.login.clock = true ∧
      submission.cookie = some cookie.value ∧ submission.context.secrets = []
  | .manual => submission.cookie = none ∧
      ((∃ text, first.manual = .token text ∧ Text.isAllBlank (Text.trim text) = false ∧
        submission.context.secrets =
          [(first.tool.provider.accessTokenKey, .text (Text.trim text))]) ∨
      ∃ path content, first.manual = .file path ∧
        Storage.readText last.storage path = .ok content ∧ Text.isAllBlank content = false ∧
        submission.context.secrets = [(last.tool.provider.serviceAccountKey, .text content)])

theorem secrets_of_token (tool : Tool) (values : FormValues) {text : String}
    (full : Text.isAllBlank text = false) :
    (submissionWith tool values (.token text)).context.secrets =
      [(tool.provider.accessTokenKey, .text text)] := by
  simp only [submissionWith]
  exact JobContext.secrets_withField_new (isSecretKey_accessTokenKey tool.provider) full
    (JobContext.secrets_ofForm tool values)

theorem secrets_of_file (tool : Tool) (values : FormValues) {content : String}
    (full : Text.isAllBlank content = false) :
    (submissionWith tool values (.file content)).context.secrets =
      [(tool.provider.serviceAccountKey, .text content)] := by
  simp only [submissionWith]
  exact JobContext.secrets_withField_new (isSecretKey_serviceAccountKey tool.provider) full
    (JobContext.secrets_ofForm tool values)

/-- A credential that is not in a file authenticates at once. -/
theorem authenticates_of_credential {desk : Desk σ} (values : FormValues)
    {credential : Credential}
    (resolved : desk.login.resolveCredential desk.mode desk.manual = .ok credential)
    (notFile : ∀ path, credential ≠ .file path) (last : Desk σ) :
    desk.Authenticates last (submissionWith desk.tool values credential) := by
  unfold Authenticates
  cases mode : desk.mode with
  | session =>
      rw [mode, Login.resolveCredential_session] at resolved
      obtain ⟨cookie, session, stored, live, decoded, valid, rfl⟩ := Login.sessionCredential_ok resolved
      exact ⟨cookie, session, stored, live, decoded, valid, rfl,
        JobContext.secrets_ofForm desk.tool values⟩
  | manual =>
      rw [mode, Login.resolveCredential_manual] at resolved
      obtain ⟨text, given, full, rfl⟩ | ⟨path, -, rfl⟩ := Login.manualCredential_ok resolved
      · have full := Text.isAllBlank_trim full
        exact ⟨rfl, .inl ⟨text, given, full, secrets_of_token desk.tool values full⟩⟩
      · exact absurd rfl (notFile path)

/-- The content of a file authenticates once it has been read. -/
theorem authenticates_of_file {first last : Desk σ} (values : FormValues) {path content : String}
    (resolved : first.login.resolveCredential first.mode first.manual = .ok (.file path))
    (read : Storage.readText last.storage path = .ok content)
    (full : Text.isAllBlank content = false) :
    first.Authenticates last (submissionWith last.tool values (.file content)) := by
  unfold Authenticates
  cases mode : first.mode with
  | session =>
      rw [mode, Login.resolveCredential_session] at resolved
      obtain ⟨cookie, session, -, -, -, -, other⟩ := Login.sessionCredential_ok resolved
      cases other
  | manual =>
      rw [mode, Login.resolveCredential_manual] at resolved
      obtain ⟨text, -, -, other⟩ | ⟨chosen, given, same⟩ := Login.manualCredential_ok resolved
      · cases other
      · cases same
        exact ⟨rfl, .inr ⟨path, content, given, read, full,
          secrets_of_file last.tool values full⟩⟩

/-! ## One submission alone -/

theorem prepare_authenticates {desk : Desk σ} {values : FormValues} {submission : Submission}
    (prepared : desk.prepare values = .ok submission) : desk.Authenticates desk submission := by
  rcases prepare_ok prepared with ⟨-, credential, supplies, rfl⟩
  cases supplies with
  | chosen resolved notFile => exact authenticates_of_credential values resolved notFile desk
  | content resolved read full => exact authenticates_of_file values resolved read full

end Desk

end PromptClient
