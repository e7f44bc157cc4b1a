import Mathlib.Data.List.Induction
import Mathlib.Data.List.Nodup
import PromptClient.Proofs.Json
import PromptClient.Proofs.Secrets

/-! # The body of a request

Fields are put into a request one after the other, each under its key. What is written in the
end is an object in which every key stands once, with the last text that was not blank. -/

namespace PromptClient

/-! ## Members in order -/

namespace Json

variable {α : Type} {name : String} {value : α} {members : List (String × α)}

/-- Every name stands once, and the names are in order. -/
def Ascending (members : List (String × α)) : Prop :=
  members.Pairwise (·.1 < ·.1)

theorem lookup_putMember_same (name : String) (value : α) (members : List (String × α)) :
    (putMember name value members).lookup name = some value := by
  induction members with
  | nil => simp [putMember]
  | cons member rest induction =>
      obtain ⟨key, other⟩ := member
      rw [putMember]
      split
      case isTrue => simp
      case isFalse different =>
        split
        · simp
        · have apart : (name == key) = false := by simpa using Ne.symm different
          rw [List.lookup_cons, apart, induction]

theorem lookup_putMember_other {query : String} (different : query ≠ name) (value : α)
    (members : List (String × α)) :
    (putMember name value members).lookup query = members.lookup query := by
  have apart : (query == name) = false := by simpa using different
  induction members with
  | nil => simp [putMember, different]
  | cons member rest induction =>
      obtain ⟨key, other⟩ := member
      rw [putMember]
      split
      case isTrue same => simp [List.lookup_cons, apart, same]
      case isFalse =>
        split
        · rw [List.lookup_cons, apart]
        · simp only [List.lookup_cons, induction]

theorem mem_putMember {member : String × α}
    (found : member ∈ putMember name value members) : member = (name, value) ∨ member ∈ members := by
  induction members with
  | nil => exact .inl (List.mem_singleton.mp found)
  | cons first rest induction =>
      obtain ⟨key, other⟩ := first
      rw [putMember] at found
      split at found
      case isTrue =>
        rcases List.mem_cons.mp found with same | found
        · exact .inl same
        · exact .inr (List.mem_cons_of_mem _ found)
      case isFalse =>
        split at found
        · exact List.mem_cons.mp found
        · rcases List.mem_cons.mp found with same | found
          · exact .inr (same ▸ List.mem_cons_self)
          · exact (induction found).imp_right (List.mem_cons_of_mem _)

theorem putMember_ascending (ascending : Ascending members) (name : String) (value : α) :
    Ascending (putMember name value members) := by
  induction members with
  | nil => exact List.pairwise_singleton _ _
  | cons member rest induction =>
      obtain ⟨key, other⟩ := member
      obtain ⟨above, rest_ascending⟩ := List.pairwise_cons.mp ascending
      rw [putMember]
      split
      case isTrue same =>
        subst same
        exact List.pairwise_cons.mpr ⟨above, rest_ascending⟩
      case isFalse different =>
        split
        case isTrue before =>
          refine List.pairwise_cons.mpr ⟨?_, ascending⟩
          intro later found
          rcases List.mem_cons.mp found with rfl | found
          · exact before
          · exact String.lt_trans before (above later found)
        case isFalse notBefore =>
          refine List.pairwise_cons.mpr ⟨?_, induction rest_ascending⟩
          intro later found
          rcases mem_putMember found with rfl | found
          · exact String.not_le.mp fun le =>
              different (String.le_antisymm (String.not_lt.mp notBefore) le)
          · exact above later found

/-- Where every name stands once, looking it up finds its member. -/
theorem mem_iff_lookup (ascending : Ascending members) :
    (name, value) ∈ members ↔ members.lookup name = some value := by
  induction members with
  | nil => simp
  | cons member rest induction =>
      obtain ⟨key, other⟩ := member
      obtain ⟨above, rest_ascending⟩ := List.pairwise_cons.mp ascending
      by_cases same : name = key
      · subst same
        have absent : ∀ value, (name, value) ∉ rest := fun value found =>
          String.lt_irrefl name (above (name, value) found)
        simp [absent, eq_comm]
      · have apart : (name == key) = false := by simpa using same
        rw [List.lookup_cons, apart, List.mem_cons, ← induction rest_ascending]
        simp [same]

end Json

/-! ## Fields one after the other -/

namespace JobContext

/-- Add fields in turn. -/
def withFields (context : JobContext) (writes : List (String × String)) : JobContext :=
  writes.foldl (fun context write => context.withField write.1 write.2) context

/-- The last text given for a key that is not blank. -/
def lastFull? (key : String) (writes : List (String × String)) : Option String :=
  ((writes.filter fun write => write.1 = key && !Text.isAllBlank write.2).getLast?).map (·.2)

theorem withField_lookup (context : JobContext) (name value key : String) :
    (context.withField name value).fields.lookup key =
      if name = key && !Text.isAllBlank value then some value else context.fields.lookup key := by
  unfold withField
  cases blank : Text.isAllBlank value with
  | true => simp
  | false =>
      by_cases same : name = key
      · subst same
        simp [Json.lookup_putMember_same]
      · simp [same, Json.lookup_putMember_other (Ne.symm same)]

theorem withFields_concat (context : JobContext) (writes : List (String × String))
    (last : String × String) :
    context.withFields (writes ++ [last]) = (context.withFields writes).withField last.1 last.2 := by
  simp [withFields]

/-- What a key holds after fields have been added is the last text given for it that is not
blank, or else what it held before. -/
theorem withFields_lookup (context : JobContext) (writes : List (String × String))
    (key : String) :
    (context.withFields writes).fields.lookup key =
      (lastFull? key writes).or (context.fields.lookup key) := by
  induction writes using List.reverseRecOn with
  | nil => rfl
  | append_singleton writes last induction =>
      rw [withFields_concat, withField_lookup, induction]
      cases kept : (last.1 = key && !Text.isAllBlank last.2 : Bool) with
      | true => simp [lastFull?, List.filter_append, kept]
      | false => simp [lastFull?, List.filter_append, kept]

theorem withFields_ascending {context : JobContext} (ascending : Json.Ascending context.fields)
    (writes : List (String × String)) : Json.Ascending (context.withFields writes).fields := by
  induction writes using List.reverseRecOn with
  | nil => exact ascending
  | append_singleton writes last induction =>
      rw [withFields_concat, withField]
      split
      · exact induction
      · exact Json.putMember_ascending induction _ _

/-- The members that every request has. -/
def shared (context : JobContext) : List (String × Json) :=
  [("tool", .text context.tool), ("custom_model", .text context.customModel),
    ("context_window", .text context.contextWindow),
    ("argument_debugging", .bool context.argumentDebugging)]

def sharedKeys : List String :=
  ["tool", "custom_model", "context_window", "argument_debugging"]

theorem withFields_shared (context : JobContext) (writes : List (String × String)) :
    (context.withFields writes).shared = context.shared := by
  induction writes using List.reverseRecOn with
  | nil => rfl
  | append_singleton writes last induction =>
      rw [withFields_concat, ← induction, withField]
      split <;> rfl

/-- Where no key is written twice, a key holds what is written under it unless that is blank. -/
theorem lastFull?_of_nodup {writes : List (String × String)}
    (once : (writes.map (·.1)).Nodup) {key value : String} :
    lastFull? key writes = some value ↔
      (key, value) ∈ writes ∧ Text.isAllBlank value = false := by
  have written : ∀ write, write ∈ writes.filter
      (fun write => write.1 = key && !Text.isAllBlank write.2) ↔
      write ∈ writes ∧ write.1 = key ∧ Text.isAllBlank write.2 = false := by
    simp
  constructor
  · intro held
    obtain ⟨⟨name, text⟩, last, same⟩ := Option.map_eq_some_iff.mp held
    obtain ⟨found, named, full⟩ := (written _).mp (List.mem_of_getLast? last)
    have named : name = key := named
    have same : text = value := same
    subst named same
    exact ⟨found, full⟩
  · rintro ⟨found, full⟩
    have present := (written (key, value)).mpr ⟨found, rfl, full⟩
    rw [lastFull?]
    cases isLast : (writes.filter fun write =>
        write.1 = key && !Text.isAllBlank write.2).getLast? with
    | none =>
        rw [List.getLast?_eq_none_iff.mp isLast] at present
        cases present
    | some last =>
        obtain ⟨lastFound, named, -⟩ := (written last).mp (List.mem_of_getLast? isLast)
        have same : last = (key, value) := List.inj_on_of_nodup_map once lastFound found named
        rw [same]
        rfl

/-! ## Reading a body -/

/-- Whatever the fields are, the body is read as the object with the members put into it. -/
theorem parse?_body (context : JobContext) :
    Json.parse? context.body = some (.object context.members) := by
  apply Json.parse?_compact
  apply Json.object_readsBack
  intro member found
  simp only [members, List.mem_append, List.mem_cons, List.not_mem_nil, or_false] at found
  rcases found with (rfl | rfl | rfl | rfl) | found
  · exact Json.text_readsBack _ _
  · exact Json.text_readsBack _ _
  · exact Json.text_readsBack _ _
  · exact Json.bool_readsBack _ _
  · obtain ⟨field, -, rfl⟩ := List.mem_map.mp found
    exact Json.text_readsBack _ _

/-! ## What a form writes -/

/-- What a request starts from. -/
def plain (tool : Tool) (values : FormValues) : JobContext :=
  { tool := tool.id
    customModel := values.customModel
    contextWindow := values.contextWindow
    argumentDebugging := values.argumentDebugging
    fields := [] }

def formWrites (tool : Tool) (values : FormValues) : List (String × String) :=
  tool.fields.filterMap fun field =>
    (values.toolFields.lookup field.name).map fun value => (field.payloadKey, value)

theorem mem_formWrites {tool : Tool} {values : FormValues} {key value : String} :
    (key, value) ∈ formWrites tool values ↔
      ∃ field ∈ tool.fields, field.payloadKey = key ∧
        values.toolFields.lookup field.name = some value := by
  simp only [formWrites, List.mem_filterMap, Option.map_eq_some_iff, Prod.mk.injEq]
  constructor
  · rintro ⟨field, known, text, held, named, rfl⟩
    exact ⟨field, known, named, held⟩
  · rintro ⟨field, known, named, held⟩
    exact ⟨field, known, value, held, named, rfl⟩

theorem ofForm_eq (tool : Tool) (values : FormValues) :
    ofForm tool values = (plain tool values).withFields (formWrites tool values) := by
  rw [ofForm, withFields, formWrites, List.foldl_filterMap]
  congr 1
  funext context field
  cases values.toolFields.lookup field.name <;> rfl

/-- The keys written are those of the tool's fields, each as often as it has a value. -/
theorem formWrites_keys (tool : Tool) (values : FormValues) :
    ((formWrites tool values).map (·.1)).Sublist (tool.fields.map (·.payloadKey)) := by
  unfold formWrites
  induction tool.fields with
  | nil => exact List.Sublist.refl _
  | cons field rest induction =>
      cases held : values.toolFields.lookup field.name with
      | none => simpa [List.filterMap_cons, held] using induction.cons _
      | some value => simpa [List.filterMap_cons, held] using induction.cons_cons field.payloadKey

end JobContext

/-! ## What a submission writes -/

/-- What a credential adds to a request, the content of a file in place of its path. -/
def Credential.writes (tool : Tool) : Credential → List (String × String)
  | .session _ => []
  | .token text => [(tool.provider.accessTokenKey, text)]
  | .file content => [(tool.provider.serviceAccountKey, content)]

/-- The keys under which a request may carry anything beside what every request has. -/
def Tool.ownKeys (tool : Tool) : List String :=
  tool.fields.map (·.payloadKey) ++
    [tool.provider.accessTokenKey, tool.provider.serviceAccountKey]

theorem Tool.ownKeys_nodup (tool : Tool) : (JobContext.sharedKeys ++ tool.ownKeys).Nodup := by
  cases tool <;> decide

/-- Among these keys the order of the characters is that of the bytes. -/
theorem Tool.ownKeys_order (tool : Tool) :
    ∀ first ∈ tool.ownKeys, ∀ second ∈ tool.ownKeys,
      first < second → Text.Utf8.encode first < Text.Utf8.encode second := by
  cases tool <;> decide +kernel

namespace JobContext

theorem submissionWith_context (tool : Tool) (values : FormValues) (credential : Credential) :
    (Desk.submissionWith tool values credential).context =
      (plain tool values).withFields (formWrites tool values ++ credential.writes tool) := by
  have form : (plain tool values).withFields (formWrites tool values ++ credential.writes tool) =
      (ofForm tool values).withFields (credential.writes tool) := by
    simp only [ofForm_eq, withFields, List.foldl_append]
  rw [form]
  cases credential <;> rfl

theorem writes_keys (tool : Tool) (values : FormValues) (credential : Credential) :
    ((formWrites tool values ++ credential.writes tool).map (·.1)).Sublist tool.ownKeys := by
  rw [List.map_append]
  refine (formWrites_keys tool values).append ?_
  cases credential with
  | session cookie => exact List.nil_sublist _
  | token text => exact (List.nil_sublist _).cons_cons _
  | file content => exact (List.Sublist.refl _).cons _

theorem writes_nodup (tool : Tool) (values : FormValues) (credential : Credential) :
    ((formWrites tool values ++ credential.writes tool).map (·.1)).Nodup :=
  (List.nodup_append.mp (tool.ownKeys_nodup)).2.1.sublist
    (writes_keys tool values credential)

theorem submissionWith_ascending (tool : Tool) (values : FormValues) (credential : Credential) :
    Json.Ascending (Desk.submissionWith tool values credential).context.fields := by
  rw [submissionWith_context]
  have empty : Json.Ascending (plain tool values).fields := List.Pairwise.nil
  exact withFields_ascending empty _

/-- A request carries what is written into it, apart from what is blank. -/
theorem mem_submissionWith {tool : Tool} {values : FormValues} {credential : Credential}
    {key value : String} :
    (key, value) ∈ (Desk.submissionWith tool values credential).context.fields ↔
      (key, value) ∈ formWrites tool values ++ credential.writes tool ∧
        Text.isAllBlank value = false := by
  rw [Json.mem_iff_lookup (submissionWith_ascending tool values credential),
    submissionWith_context, withFields_lookup, ← lastFull?_of_nodup
      (writes_nodup tool values credential)]
  simp [plain]

theorem submissionWith_key {tool : Tool} {values : FormValues} {credential : Credential}
    {member : String × String}
    (found : member ∈ (Desk.submissionWith tool values credential).context.fields) :
    member.1 ∈ tool.ownKeys :=
  (writes_keys tool values credential).subset
    (List.mem_map_of_mem (mem_submissionWith.mp found).1)

theorem submissionWith_keys_nodup (tool : Tool) (values : FormValues) (credential : Credential) :
    (sharedKeys ++
      (Desk.submissionWith tool values credential).context.fields.map (·.1)).Nodup := by
  obtain ⟨shared, own, apart⟩ := List.nodup_append.mp (tool.ownKeys_nodup)
  refine List.nodup_append.mpr ⟨shared, ?_, ?_⟩
  · refine List.pairwise_map.mpr ((submissionWith_ascending tool values credential).imp ?_)
    intro first second before same
    exact String.lt_irrefl _ (same ▸ before)
  · intro key known other found
    obtain ⟨member, present, rfl⟩ := List.mem_map.mp found
    exact apart key known member.1 (submissionWith_key present)

theorem submissionWith_byteOrder (tool : Tool) (values : FormValues) (credential : Credential) :
    (Desk.submissionWith tool values credential).context.fields.Pairwise
      fun first second => Text.Utf8.encode first.1 < Text.Utf8.encode second.1 := by
  refine (submissionWith_ascending tool values credential).imp_of_mem ?_
  intro first second firstFound secondFound before
  exact tool.ownKeys_order first.1 (submissionWith_key firstFound) second.1
    (submissionWith_key secondFound) before

end JobContext

namespace Desk

variable {σ : Type} [Storage σ]

/-- The credential with which a desk makes a request, the content of a file in place of its
path. -/
inductive Provides (desk : Desk σ) : Credential → Prop
  | session {cookie : String} (mode : desk.mode = .session) : Provides desk (.session cookie)
  | token {text : String} (mode : desk.mode = .manual) (given : desk.manual = .token text)
      (full : Text.isAllBlank (Text.trim text) = false) : Provides desk (.token (Text.trim text))
  | file {path content : String} (mode : desk.mode = .manual) (given : desk.manual = .file path)
      (read : Storage.readText desk.storage path = .ok content)
      (full : Text.isAllBlank content = false) : Provides desk (.file content)

theorem provides_of_supplies {desk : Desk σ} {credential : Credential}
    (supplies : desk.Supplies credential) : desk.Provides credential := by
  cases mode : desk.mode with
  | session =>
      cases supplies with
      | chosen resolved notFile =>
          rw [mode, Login.resolveCredential_session] at resolved
          rcases Login.sessionCredential_ok resolved with ⟨cookie, session, -, -, -, -, rfl⟩
          exact .session mode
      | content resolved read full =>
          rw [mode, Login.resolveCredential_session] at resolved
          rcases Login.sessionCredential_ok resolved with ⟨cookie, session, -, -, -, -, other⟩
          cases other
  | manual =>
      cases supplies with
      | chosen resolved notFile =>
          rw [mode, Login.resolveCredential_manual] at resolved
          rcases Login.manualCredential_ok resolved with
            ⟨text, given, full, rfl⟩ | ⟨path, -, rfl⟩
          · exact .token mode given (Text.isAllBlank_trim full)
          · exact absurd rfl (notFile path)
      | content resolved read full =>
          rw [mode, Login.resolveCredential_manual] at resolved
          rcases Login.manualCredential_ok resolved with
            ⟨text, -, -, other⟩ | ⟨chosen, given, same⟩
          · cases other
          · cases same
            exact .file mode given read full

/-- What a desk provides is never blank. -/
theorem Provides.full {desk : Desk σ} {credential : Credential}
    (provides : desk.Provides credential) :
    ∀ write ∈ credential.writes desk.tool, Text.isAllBlank write.2 = false := by
  intro write found
  cases provides with
  | session mode => cases found
  | token mode given full | file mode given read full =>
      rw [List.mem_singleton.mp found]
      exact full

/-- Form values differ at most in entries that are no fields of the tool. -/
structure SameFields (tool : Tool) (first second : FormValues) : Prop where
  prompt : first.prompt = second.prompt
  customModel : first.customModel = second.customModel
  contextWindow : first.contextWindow = second.contextWindow
  argumentDebugging : first.argumentDebugging = second.argumentDebugging
  fields : ∀ field ∈ tool.fields,
    first.toolFields.lookup field.name = second.toolFields.lookup field.name

theorem SameFields.submissionWith {tool : Tool} {first second : FormValues}
    (same : SameFields tool first second) (credential : Credential) :
    Desk.submissionWith tool first credential = Desk.submissionWith tool second credential := by
  have writes : JobContext.formWrites tool first = JobContext.formWrites tool second := by
    apply List.filterMap_congr
    intro field known
    rw [same.fields field known]
  have form : JobContext.ofForm tool first = JobContext.ofForm tool second := by
    simp only [JobContext.ofForm_eq, writes, JobContext.plain, same.customModel,
      same.contextWindow, same.argumentDebugging]
  cases credential <;> simp only [Desk.submissionWith, form, same.prompt]

theorem SameFields.prepare {desk : Desk σ} {first second : FormValues}
    (same : SameFields desk.tool first second) : desk.prepare first = desk.prepare second := by
  simp only [Desk.prepare, prepareFile, same.prompt, same.submissionWith]

/-- The body of whatever is prepared is read as an object in which every key stands once: the
four members of every request, and then, in the order of their bytes, the tool's fields that
have a value which is not blank, each with that value, and the secret that the user gives
instead of a session. What else a form holds makes no difference. However fields are put into a
request, a key holds in the end the last text given for it that is not blank. -/
theorem prepare_body {desk : Desk σ} {values : FormValues} {submission : Submission}
    (prepared : desk.prepare values = .ok submission) :
    (∃ (credential : Credential) (extras : List (String × String)),
      desk.Provides credential ∧
      Json.parse? submission.context.body = some (.object
        ([("tool", .text desk.tool.id), ("custom_model", .text values.customModel),
            ("context_window", .text values.contextWindow),
            ("argument_debugging", .bool values.argumentDebugging)] ++
          extras.map fun (key, value) => (key, .text value))) ∧
      (JobContext.sharedKeys ++ extras.map (·.1)).Nodup ∧
      (extras.Pairwise fun first second =>
        Text.Utf8.encode first.1 < Text.Utf8.encode second.1) ∧
      ∀ key value, (key, value) ∈ extras ↔
        (∃ field ∈ desk.tool.fields, field.payloadKey = key ∧
          values.toolFields.lookup field.name = some value ∧ Text.isAllBlank value = false) ∨
        (key, value) ∈ credential.writes desk.tool) ∧
    (∀ others, SameFields desk.tool others values → desk.prepare others = .ok submission) ∧
    ∀ (context : JobContext) writes,
      (context.withFields writes).shared = context.shared ∧
      ∀ key, (context.withFields writes).fields.lookup key =
        (JobContext.lastFull? key writes).or (context.fields.lookup key) := by
  refine ⟨?body, fun others same => same.prepare.trans prepared, ?writes⟩
  case writes =>
    exact fun context writes =>
      ⟨context.withFields_shared writes, context.withFields_lookup writes⟩
  case body =>
    rcases prepare_ok prepared with ⟨-, credential, supplies, rfl⟩
    have provides := provides_of_supplies supplies
    have shared : (submissionWith desk.tool values credential).context.shared =
        (JobContext.plain desk.tool values).shared := by
      rw [JobContext.submissionWith_context, JobContext.withFields_shared]
    have read := JobContext.parse?_body (submissionWith desk.tool values credential).context
    rw [show JobContext.members _ = JobContext.shared _ ++ _ from rfl, shared] at read
    refine ⟨credential, _, provides, read,
      JobContext.submissionWith_keys_nodup desk.tool values credential,
      JobContext.submissionWith_byteOrder desk.tool values credential, ?_⟩
    intro key value
    rw [JobContext.mem_submissionWith, List.mem_append, JobContext.mem_formWrites]
    constructor
    · rintro ⟨⟨field, known, named, held⟩ | written, full⟩
      · exact .inl ⟨field, known, named, held, full⟩
      · exact .inr written
    · rintro (⟨field, known, named, held, full⟩ | written)
      · exact ⟨.inl ⟨field, known, named, held⟩, full⟩
      · exact ⟨.inr written, provides.full _ written⟩

theorem prepare_body_token :
    let login : Login MemoryStorage :=
      { tool := .slackChannel
        settings := ⟨"", "", "", "", none⟩
        storage := ⟨none, ⟨[]⟩, ⟨[]⟩⟩
        clock := 0
        browserOpens := true
        state := .loggedOut
        changes := 0 }
    let desk : Desk MemoryStorage :=
      { login := login
        form := .initial
        mode := .manual
        manual := .token " xoxp-1 "
        policy := .standard
        presenter := ⟨fun text => text, fun text => text⟩ }
    let values : FormValues :=
      ⟨"What is new?", "llama", "", true, [("channel", "general"), ("days", " "), ("other", "x")]⟩
    let others : FormValues :=
      { values with toolFields := [("days", " "), ("channel", "general")] }
    ∃ submission,
      desk.prepare values = .ok submission ∧
      desk.prepare others = .ok submission ∧
      ∃ extras : List (String × String),
        Json.parse? submission.context.body = some (.object
          ([("tool", .text "SlackChannel"), ("custom_model", .text "llama"),
              ("context_window", .text ""), ("argument_debugging", .bool true)] ++
            extras.map fun (key, value) => (key, .text value))) ∧
        ("slack_channel", "general") ∈ extras := by
  intro login desk values others
  have full : Prompt.normalize "What is new?" ≠ "" := by decide +kernel
  have present : Text.isAllBlank " xoxp-1 " = false := by decide +kernel
  have given : desk.login.resolveCredential desk.mode desk.manual =
      .ok (.token (Text.trim " xoxp-1 ")) := by
    simp [desk, Login.resolveCredential, Login.manualCredential, present]
  obtain ⟨submission, prepared⟩ : ∃ submission, desk.prepare values = .ok submission := by
    refine ⟨submissionWith desk.tool values (.token (Text.trim " xoxp-1 ")), ?_⟩
    simp only [prepare, values, if_neg full, given]
  have same : SameFields desk.tool others values := by
    refine ⟨rfl, rfl, rfl, rfl, ?_⟩
    decide
  obtain ⟨⟨credential, extras, provides, read, -, -, carried⟩, stable, -⟩ := prepare_body prepared
  refine ⟨submission, prepared, stable others same, extras, read, ?_⟩
  refine (carried _ _).mpr (.inl ?_)
  decide +kernel

end Desk

end PromptClient
