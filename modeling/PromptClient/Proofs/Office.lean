import PromptClient.Proofs.Fields
import PromptClient.Proofs.Recording

/-! # Both tools on one storage

Each tool has a desk of its own, and all that they have in common is the storage. Fields are
edited, entries of the history are copied and submissions go on at both desks, in any order and
each step by itself. What is found in the storage afterwards can be told from what was done at
the tool's own desk: the texts that were written last, and the prompts whose jobs were asked
for. -/

namespace PromptClient

/-- What may be done at the desk of a tool. -/
inductive Deed (σ : Type)
  | update (name value : String)
  | select (index : Nat)
  | load (substitute : Option String)
  | enter (values : FormValues)
  | proceed (number : Nat) (reply : Reply)
  | callOff (number : Nat)
  /-- Session, credentials and layout change, and time passes; tool and storage stay. -/
  | arrange (login : Login σ) (mode : CredentialMode) (manual : ManualCredential)
      (layout : CredentialLayout)

namespace Crowd

variable {σ : Type}

def onDesk (crowd : Crowd σ) (desk : Desk σ) : Crowd σ :=
  { crowd with desk := desk }

def withStorage (crowd : Crowd σ) (storage : σ) : Crowd σ :=
  crowd.onDesk (crowd.desk.withStorage storage)

variable [Storage σ]

def serve (crowd : Crowd σ) : Deed σ → Crowd σ
  | .update name value =>
      match crowd.desk.updateField name value with
      | .ok desk => crowd.onDesk desk
      | .error _ => crowd
  | .select index => crowd.onDesk (crowd.desk.select index).2
  | .load _ => crowd
  | .enter values => crowd.move (.enter values)
  | .proceed number reply => crowd.move (.proceed number reply)
  | .callOff number => crowd.move (.callOff number)
  | .arrange login mode manual layout =>
      crowd.move (.outside
        { login with tool := crowd.desk.tool, storage := crowd.desk.storage } mode manual layout)

/-- The field that a deed writes, and its new text. -/
def written? (crowd : Crowd σ) : Deed σ → Option (String × String)
  | .update name value =>
      if name ∈ crowd.desk.tool.fieldNames then some (name, value) else none
  | .select index => crowd.desk.history[index]?.map fun entry => (promptField, entry)
  | _ => none

/-! ## One deed -/

variable (crowd : Crowd σ)

/-- To the attempts, other storage is something that changes outside. -/
theorem withStorage_eq_run (storage : σ) :
    crowd.withStorage storage = crowd.run [.outside (crowd.desk.withStorage storage).login
      crowd.desk.mode crowd.desk.manual crowd.desk.form.layout] :=
  rfl

theorem serve_update (name value : String) :
    crowd.serve (.update name value) =
      if name ∈ crowd.desk.tool.fieldNames then
        crowd.withStorage (FieldStore.setField crowd.desk.tool.storageSpace name value
          crowd.desk.storage)
      else crowd := by
  by_cases named : name ∈ crowd.desk.tool.fieldNames
  · simp only [serve, crowd.desk.updateField_of_mem named, if_pos named]
    rfl
  · simp only [serve, crowd.desk.updateField_of_not_mem named, if_neg named]

theorem serve_select (index : Nat) :
    crowd.serve (.select index) =
      match crowd.desk.history[index]? with
      | none => crowd
      | some entry =>
          crowd.withStorage (FieldStore.setField crowd.desk.tool.storageSpace promptField entry
            crowd.desk.storage) := by
  cases found : crowd.desk.history[index]? with
  | none =>
      simp only [serve, crowd.desk.select_of_none found]
      rfl
  | some entry =>
      simp only [serve, crowd.desk.select_of_some found]
      rfl

theorem serve_eq_run (deed : Deed σ) : ∃ moves, crowd.serve deed = crowd.run moves := by
  cases deed with
  | update name value =>
      rw [serve_update]
      split
      · exact ⟨_, crowd.withStorage_eq_run _⟩
      · exact ⟨[], rfl⟩
  | select index =>
      rw [serve_select]
      split
      · exact ⟨[], rfl⟩
      · exact ⟨_, crowd.withStorage_eq_run _⟩
  | load substitute => exact ⟨[], rfl⟩
  | enter values => exact ⟨[.enter values], rfl⟩
  | proceed number reply => exact ⟨[.proceed number reply], rfl⟩
  | callOff number => exact ⟨[.callOff number], rfl⟩
  | arrange login mode manual layout => exact ⟨[.outside _ mode manual layout], rfl⟩

variable {crowd}

/-- A deed writes one field, or else jobs are asked for and recorded. -/
theorem serve_cases (orderly : crowd.Orderly) (fits : crowd.Fits) (deed : Deed σ) :
    (∃ name value, crowd.written? deed = some (name, value) ∧
      name ∈ crowd.desk.tool.fieldNames ∧
      crowd.serve deed = crowd.withStorage (FieldStore.setField crowd.desk.tool.storageSpace name
        value crowd.desk.storage)) ∨
    (crowd.written? deed = none ∧ ∃ jobs, crowd.Records (crowd.serve deed) jobs) := by
  cases deed with
  | update name value =>
      by_cases named : name ∈ crowd.desk.tool.fieldNames
      · exact .inl ⟨name, value, by simp [written?, named], named,
          by rw [serve_update, if_pos named]⟩
      · refine .inr ⟨by simp [written?, named], [], ?_⟩
        rw [serve_update, if_neg named]
        exact records_of_same fits
  | select index =>
      cases found : crowd.desk.history[index]? with
      | none =>
          refine .inr ⟨by simp [written?, found], [], ?_⟩
          simp only [serve_select, found]
          exact records_of_same fits
      | some entry =>
          exact .inl ⟨promptField, entry, by simp [written?, found],
            crowd.desk.tool.promptField_mem_fieldNames, by simp only [serve_select, found]⟩
  | load substitute => exact .inr ⟨rfl, [], records_of_same fits⟩
  | enter values => exact .inr ⟨rfl, enter_records orderly fits values⟩
  | proceed number reply => exact .inr ⟨rfl, proceed_records orderly fits number reply⟩
  | callOff number => exact .inr ⟨rfl, callOff_records orderly fits number⟩
  | arrange login mode manual layout =>
      let inside : Login σ :=
        { login with tool := crowd.desk.tool, storage := crowd.desk.storage }
      exact .inr ⟨rfl, [], outside_records fits inside rfl rfl mode manual layout⟩

theorem serve_tool (orderly : crowd.Orderly) (fits : crowd.Fits) (deed : Deed σ) :
    (crowd.serve deed).desk.tool = crowd.desk.tool := by
  rcases serve_cases orderly fits deed with ⟨_, _, -, -, same⟩ | ⟨-, _, records⟩
  · rw [same]
    rfl
  · exact records.tool

theorem Fits.withStorage (fits : crowd.Fits) {storage : σ}
    (same : FieldStore.field? storage crowd.desk.tool.storageSpace History.field =
      FieldStore.field? crowd.desk.storage crowd.desk.tool.storageSpace History.field) :
    (crowd.withStorage storage).Fits := by
  intro number attempt found
  have history : (crowd.withStorage storage).desk.history = crowd.desk.history :=
    History.list_congr same
  rw [history]
  exact fits number attempt found

theorem Fits.serve (fits : crowd.Fits) {atWork : σ → Prop}
    (faithful : FieldStore.Faithful atWork) (ready : atWork crowd.desk.storage)
    (orderly : crowd.Orderly) (deed : Deed σ) : (crowd.serve deed).Fits := by
  rcases serve_cases orderly fits deed with ⟨name, value, -, named, served⟩ | ⟨-, _, records⟩
  · rw [served]
    apply fits.withStorage
    apply faithful.others value ready
    rintro ⟨-, rfl⟩
    exact crowd.desk.tool.history_not_mem_fieldNames named
  · exact records.fits

end Crowd

/-! ## Two desks -/

/-- A storage, and each tool's desk with the attempts begun on it. -/
structure Office (σ : Type) where
  storage : σ
  crowds : Tool → Crowd σ

namespace Office

variable {σ : Type}

/-- The desks, on one storage, before anything has been done. -/
def opened (storage : σ) (desks : Tool → Desk σ) : Office σ where
  storage := storage
  crowds tool := .opened { desks tool with
    login := { (desks tool).login with tool := tool, storage := storage } }

def desk (office : Office σ) (tool : Tool) : Desk σ :=
  (office.crowds tool).desk

variable [Storage σ]

def act (office : Office σ) (tool : Tool) (deed : Deed σ) : Office σ :=
  let after := (office.crowds tool).serve deed
  { storage := after.desk.storage
    crowds := fun other =>
      if other = tool then after else (office.crowds other).withStorage after.desk.storage }

def run (office : Office σ) (acts : List (Tool × Deed σ)) : Office σ :=
  acts.foldl (fun office act => office.act act.1 act.2) office

/-- The fields that are written, each under its tool and name with its new text, in order. -/
def writes (office : Office σ) : List (Tool × Deed σ) → List ((Tool × String) × String)
  | [] => []
  | (tool, deed) :: rest =>
      (((office.crowds tool).written? deed).toList.map fun write => ((tool, write.1), write.2)) ++
        writes (office.act tool deed) rest

/-- The text that was written last into a field of a tool, or else the text stored at first. -/
def kept? (office : Office σ) (acts : List (Tool × Deed σ)) (tool : Tool) (name : String) :
    Option String :=
  ((office.writes acts).reverse.lookup (tool, name)).or
    (FieldStore.field? office.storage tool.storageSpace name)

/-- The prompts of the jobs that have been asked for at a tool's desk, in order. -/
def sent (office : Office σ) (tool : Tool) : List String :=
  (office.crowds tool).sent.map (·.prompt)

/-! ## One act -/

variable {office : Office σ} {atWork : σ → Prop} {tool other : Tool}

@[simp] theorem act_same (office : Office σ) (tool : Tool) (deed : Deed σ) :
    (office.act tool deed).crowds tool = (office.crowds tool).serve deed := by
  simp [act]

theorem act_other (different : other ≠ tool) (deed : Deed σ) :
    (office.act tool deed).crowds other =
      (office.crowds other).withStorage (office.act tool deed).storage := by
  simp [act, different]

/-- The desks serve their tools on the one storage, and whoever waits at one has in hand what
fits its history. -/
structure Sound (atWork : σ → Prop) (office : Office σ) : Prop where
  ready : atWork office.storage
  serves : ∀ tool, (office.desk tool).tool = tool
  shares : ∀ tool, (office.desk tool).storage = office.storage
  orderly : ∀ tool, (office.crowds tool).Orderly
  fits : ∀ tool, (office.crowds tool).Fits

/-- What an act does to the storage: a field of the tool is written, or prompts are recorded. -/
inductive Effect (office : Office σ) (tool : Tool) (deed : Deed σ) : σ → List Submission → Prop
  | write {name value : String} (written : (office.crowds tool).written? deed = some (name, value))
      (named : name ∈ tool.fieldNames) :
      Effect office tool deed
        (FieldStore.setField tool.storageSpace name value office.storage) []
  | record {jobs : List Submission} (unwritten : (office.crowds tool).written? deed = none)
      (full : ∀ job ∈ jobs, Prompt.normalize job.prompt ≠ "") :
      Effect office tool deed
        (History.recordAll office.storage tool.storageSpace (jobs.map (·.prompt))) jobs

theorem Sound.effect (sound : office.Sound atWork) (tool : Tool) (deed : Deed σ) :
    ∃ jobs, office.Effect tool deed (office.act tool deed).storage jobs ∧
      ((office.crowds tool).serve deed).sent = (office.crowds tool).sent ++ jobs := by
  have serves : (office.crowds tool).desk.tool = tool := sound.serves tool
  have shares : (office.crowds tool).desk.storage = office.storage := sound.shares tool
  rcases Crowd.serve_cases (sound.orderly tool) (sound.fits tool) deed with
    ⟨name, value, written, named, served⟩ | ⟨unwritten, jobs, records⟩
  · have stored : (office.act tool deed).storage =
        FieldStore.setField tool.storageSpace name value office.storage := by
      simp only [act, served]
      rw [serves, shares]
      rfl
    rw [stored, served]
    exact ⟨[], .write written (serves ▸ named), (List.append_nil _).symm⟩
  · have stored : (office.act tool deed).storage =
        History.recordAll office.storage tool.storageSpace (jobs.map (·.prompt)) := by
      have recorded := records.storage
      rw [serves, shares] at recorded
      exact recorded
    rw [stored]
    exact ⟨jobs, .record unwritten records.full, records.sent⟩

/-- Where a tool keeps a text and where a tool keeps another are different places, unless both
tool and name are the same. -/
theorem place_ne {name query : String} (different : (other, query) ≠ (tool, name)) :
    ¬(other.storageSpace = tool.storageSpace ∧ query = name) := by
  rintro ⟨space, rfl⟩
  exact different (by rw [Tool.storageSpace_inj.mp space])

namespace Effect

variable {deed : Deed σ} {after : σ} {jobs : List Submission}

theorem full (effect : office.Effect tool deed after jobs) :
    ∀ job ∈ jobs, Prompt.normalize job.prompt ≠ "" := by
  cases effect with
  | write written named => simp
  | record unwritten full => exact full

theorem stays (effect : office.Effect tool deed after jobs)
    (faithful : FieldStore.Faithful atWork) (ready : atWork office.storage) : atWork after := by
  cases effect with
  | write written named => exact faithful.stays _ _ _ ready
  | record unwritten full => exact History.recordAll_stays faithful.toWorking ready _ _

/-- Nothing changes in the space of another tool. -/
theorem frame (effect : office.Effect tool deed after jobs)
    (faithful : FieldStore.Faithful atWork) (ready : atWork office.storage)
    (different : other ≠ tool) (name : String) :
    FieldStore.field? after other.storageSpace name =
      FieldStore.field? office.storage other.storageSpace name := by
  have apart : ∀ query, ¬(other.storageSpace = tool.storageSpace ∧ name = query) :=
    fun query => place_ne fun same => different (Prod.mk.inj same).1
  cases effect with
  | write written named => exact faithful.others _ ready (apart _)
  | record unwritten full => exact History.recordAll_other faithful ready (apart _) _

/-- A field of the tool changes only if it is written. -/
theorem field (effect : office.Effect tool deed after jobs)
    (faithful : FieldStore.Faithful atWork) (ready : atWork office.storage) {name : String}
    (named : name ∈ tool.fieldNames) :
    FieldStore.field? after tool.storageSpace name =
      (((office.crowds tool).written? deed).toList.lookup name).or
        (FieldStore.field? office.storage tool.storageSpace name) := by
  cases effect with
  | @write field value written _ =>
      rw [written]
      by_cases same : name = field
      · subst same
        simp [faithful.finds tool.storageSpace name value ready]
      · have apart : (name == field) = false := beq_eq_false_iff_ne.mpr same
        simp [List.lookup_cons, apart, faithful.others value ready
          (place_ne fun equal => same (Prod.mk.inj equal).2)]
  | record unwritten full =>
      have different : name ≠ History.field := by
        rintro rfl
        exact tool.history_not_mem_fieldNames named
      rw [unwritten, History.recordAll_other faithful ready
        (place_ne fun equal => different (Prod.mk.inj equal).2)]
      rfl

/-- The history changes as if the prompts of the jobs asked for had been recorded. -/
theorem history (effect : office.Effect tool deed after jobs)
    (faithful : FieldStore.Faithful atWork) (ready : atWork office.storage) :
    FieldStore.field? after tool.storageSpace History.field =
      FieldStore.field? (History.recordAll office.storage tool.storageSpace
        (jobs.map (·.prompt))) tool.storageSpace History.field := by
  cases effect with
  | @write field value written named =>
      have different : History.field ≠ field := by
        rintro rfl
        exact tool.history_not_mem_fieldNames named
      exact faithful.others value ready
        (place_ne fun equal => different (Prod.mk.inj equal).2)
  | record unwritten full => rfl

end Effect

theorem Sound.act (sound : office.Sound atWork) (faithful : FieldStore.Faithful atWork)
    (tool : Tool) (deed : Deed σ) : (office.act tool deed).Sound atWork := by
  rcases sound.effect tool deed with ⟨jobs, effect, -⟩
  refine ⟨effect.stays faithful sound.ready, ?serves, ?shares, ?orderly, ?fits⟩
  case serves =>
    intro other
    unfold desk
    by_cases same : other = tool
    · subst same
      rw [act_same, Crowd.serve_tool (sound.orderly other) (sound.fits other)]
      exact sound.serves other
    · rw [act_other same]
      exact sound.serves other
  case shares =>
    intro other
    unfold desk
    by_cases same : other = tool
    · subst same
      rw [act_same]
      rfl
    · rw [act_other same]
      rfl
  case orderly =>
    intro other
    by_cases same : other = tool
    · subst same
      rcases (office.crowds other).serve_eq_run deed with ⟨moves, served⟩
      rw [act_same, served]
      exact (sound.orderly other).run moves
    · rw [act_other same, Crowd.withStorage_eq_run]
      exact (sound.orderly other).run _
  case fits =>
    intro other
    by_cases same : other = tool
    · subst same
      have ready : atWork (office.crowds other).desk.storage := by
        have shares := sound.shares other
        unfold desk at shares
        rw [shares]
        exact sound.ready
      rw [act_same]
      exact (sound.fits other).serve faithful ready (sound.orderly other) deed
    · rw [act_other same]
      apply (sound.fits other).withStorage
      have serves : (office.crowds other).desk.tool = other := sound.serves other
      have shares : (office.crowds other).desk.storage = office.storage := sound.shares other
      rw [serves, shares]
      exact effect.frame faithful sound.ready same History.field

/-! ## Any number of acts -/

theorem run_concat (office : Office σ) (acts : List (Tool × Deed σ)) (last : Tool × Deed σ) :
    office.run (acts ++ [last]) = (office.run acts).act last.1 last.2 := by
  simp [run]

theorem writes_concat (office : Office σ) (acts : List (Tool × Deed σ)) (tool : Tool)
    (deed : Deed σ) :
    office.writes (acts ++ [(tool, deed)]) =
      office.writes acts ++ (((office.run acts).crowds tool).written? deed).toList.map
        fun write => ((tool, write.1), write.2) := by
  induction acts generalizing office with
  | nil => simp [writes, run]
  | cons act acts induction =>
      rcases act with ⟨first, deed⟩
      rw [List.cons_append, writes, writes, induction, List.append_assoc]
      rfl

theorem kept?_concat (office : Office σ) (acts : List (Tool × Deed σ)) (tool : Tool)
    (deed : Deed σ) (other : Tool) (name : String) :
    office.kept? (acts ++ [(tool, deed)]) other name =
      if other = tool then
        ((((office.run acts).crowds tool).written? deed).toList.lookup name).or
          (office.kept? acts other name)
      else office.kept? acts other name := by
  unfold kept?
  rw [writes_concat, List.reverse_append, List.lookup_append, Option.or_assoc]
  cases ((office.run acts).crowds tool).written? deed with
  | none => simp
  | some write =>
      rcases write with ⟨field, value⟩
      by_cases same : other = tool
      · subst same
        by_cases equal : name = field
        · subst equal
          simp
        · have apart : ((other, name) == (other, field)) = false := by simpa using equal
          have apartName : (name == field) = false := by simpa using equal
          simp [List.lookup_cons, apart, apartName]
      · have apart : ((other, name) == (tool, field)) = false :=
          beq_eq_false_iff_ne.mpr fun equal => same (Prod.mk.inj equal).1
        simp [List.lookup_cons, apart, same]

/-- What has become of an office can be told from what was done. -/
structure Follows (atWork : σ → Prop) (start : Office σ) (acts : List (Tool × Deed σ)) :
    Prop where
  sound : (start.run acts).Sound atWork
  fields : ∀ tool : Tool, ∀ name ∈ tool.fieldNames,
    FieldStore.field? (start.run acts).storage tool.storageSpace name = start.kept? acts tool name
  history : ∀ tool : Tool,
    FieldStore.field? (start.run acts).storage tool.storageSpace History.field =
      FieldStore.field? (History.recordAll start.storage tool.storageSpace
        ((start.run acts).sent tool)) tool.storageSpace History.field
  full : ∀ tool, ∀ job ∈ ((start.run acts).crowds tool).sent, Prompt.normalize job.prompt ≠ ""

theorem Follows.act {start : Office σ} {acts : List (Tool × Deed σ)}
    (follows : start.Follows atWork acts) (faithful : FieldStore.Faithful atWork)
    (ready : atWork start.storage) (tool : Tool) (deed : Deed σ) :
    start.Follows atWork (acts ++ [(tool, deed)]) := by
  have sound := follows.sound
  rcases sound.effect tool deed with ⟨jobs, effect, sends⟩
  have sentHere : ((start.run (acts ++ [(tool, deed)])).crowds tool).sent =
      ((start.run acts).crowds tool).sent ++ jobs := by
    rw [run_concat, act_same, sends]
  have sentElsewhere : ∀ other, other ≠ tool →
      ((start.run (acts ++ [(tool, deed)])).crowds other).sent =
        ((start.run acts).crowds other).sent := by
    intro other different
    rw [run_concat, act_other different]
    rfl
  refine ⟨?sound, ?fields, ?history, ?full⟩
  case sound =>
    rw [run_concat]
    exact sound.act faithful tool deed
  case fields =>
    intro other name named
    rw [run_concat, kept?_concat]
    by_cases same : other = tool
    · subst same
      rw [if_pos rfl, effect.field faithful sound.ready named, follows.fields other name named]
    · rw [if_neg same, effect.frame faithful sound.ready same, follows.fields other name named]
  case history =>
    intro other
    by_cases same : other = tool
    · subst same
      rw [sent, sentHere, List.map_append, History.recordAll_append, run_concat,
        effect.history faithful sound.ready]
      exact History.recordAll_congr faithful.toWorking sound.ready
        (History.recordAll_stays faithful.toWorking ready _ _) (follows.history other) _
    · rw [sent, sentElsewhere other same, run_concat,
        effect.frame faithful sound.ready same]
      exact follows.history other
  case full =>
    intro other job found
    by_cases same : other = tool
    · subst same
      rw [sentHere] at found
      rcases List.mem_append.mp found with found | found
      · exact follows.full other job found
      · exact effect.full job found
    · rw [sentElsewhere other same] at found
      exact follows.full other job found

theorem follows_run {start : Office σ} (sound : start.Sound atWork)
    (faithful : FieldStore.Faithful atWork) (none : ∀ tool, (start.crowds tool).sent = [])
    (acts : List (Tool × Deed σ)) : start.Follows atWork acts := by
  induction acts using List.reverseRecOn with
  | nil =>
      refine ⟨sound, fun _ _ _ => rfl, ?_, ?_⟩
      · intro tool
        simp [run, sent, none, History.recordAll]
      · intro tool job found
        simp [run, none] at found
  | append_singleton acts last induction =>
      rcases last with ⟨tool, deed⟩
      exact induction.act faithful sound.ready tool deed

/-- To the attempts at one desk, whatever is done elsewhere is something that changes outside. -/
theorem run_crowd (office : Office σ) (acts : List (Tool × Deed σ)) (tool : Tool) :
    ∃ moves, (office.run acts).crowds tool = (office.crowds tool).run moves := by
  induction acts using List.reverseRecOn with
  | nil => exact ⟨[], rfl⟩
  | append_singleton acts last induction =>
      rcases induction with ⟨moves, reached⟩
      rw [run_concat]
      by_cases same : tool = last.1
      · rcases ((office.run acts).crowds last.1).serve_eq_run last.2 with ⟨more, served⟩
        rw [same, act_same, served, ← same, reached]
        exact ⟨moves ++ more, List.foldl_append.symm⟩
      · rw [act_other same, Crowd.withStorage_eq_run, reached]
        exact ⟨moves ++ [_], List.foldl_append.symm⟩

theorem opened_sound {storage : σ} (ready : atWork storage) {desks : Tool → Desk σ}
    (unlocked : ∀ tool, (desks tool).form.locked = false) :
    (opened storage desks).Sound atWork where
  ready := ready
  serves := fun _ => rfl
  shares := fun _ => rfl
  orderly := fun tool => Crowd.opened_orderly (unlocked tool)
  fits := by
    intro tool number attempt found
    cases found

/-! ## What is found at the desks -/

theorem Follows.load_get? {start : Office σ} {acts : List (Tool × Deed σ)}
    (follows : start.Follows atWork acts) {name : String} (named : name ∈ tool.fieldNames)
    (substitute : Option String) :
    (((start.run acts).desk tool).load substitute).get? name =
      some ((start.kept? acts tool name).getD (tool.unstored substitute name)) := by
  have serves := follows.sound.serves tool
  rw [Desk.load_get? _ substitute (serves.symm ▸ named), Desk.fieldValue_eq, serves,
    follows.sound.shares tool, follows.fields tool name named]

theorem Follows.history_eq {start : Office σ} {acts : List (Tool × Deed σ)}
    (follows : start.Follows atWork acts) (tool : Tool) :
    ((start.run acts).desk tool).history =
      History.list (History.recordAll start.storage tool.storageSpace
        ((start.run acts).sent tool)) tool.storageSpace := by
  rw [Desk.history, follows.sound.serves tool, follows.sound.shares tool]
  exact History.list_congr (follows.history tool)

theorem Sound.updateField_refused (sound : office.Sound atWork) {name : String}
    (unknown : name ∉ tool.fieldNames) (value : String) :
    (office.desk tool).updateField name value = .error (.unknownField tool.id name) ∧
      (office.act tool (.update name value)).storage = office.storage := by
  have serves : (office.crowds tool).desk.tool = tool := sound.serves tool
  constructor
  · rw [Desk.updateField_of_not_mem _ (by rwa [sound.serves tool]), sound.serves tool]
  · have served : (office.crowds tool).serve (.update name value) = office.crowds tool := by
      rw [Crowd.serve_update, serves, if_neg unknown]
    simp only [Office.act, served]
    exact sound.shares tool

theorem Sound.select_beyond (sound : office.Sound atWork) {index : Nat}
    (beyond : (office.desk tool).history.length ≤ index) :
    (office.act tool (.select index)).storage = office.storage := by
  have missing : (office.crowds tool).desk.history[index]? = none :=
    List.getElem?_eq_none beyond
  have served : (office.crowds tool).serve (.select index) = office.crowds tool := by
    simp only [Crowd.serve_select, missing]
  simp only [Office.act, served]
  exact sound.shares tool

theorem Sound.act_elsewhere (sound : office.Sound atWork)
    (faithful : FieldStore.Faithful atWork) (different : other ≠ tool) (deed : Deed σ) :
    (∀ name, FieldStore.field? (office.act tool deed).storage other.storageSpace name =
      FieldStore.field? office.storage other.storageSpace name) ∧
    ((office.act tool deed).desk other).history = (office.desk other).history := by
  rcases sound.effect tool deed with ⟨jobs, effect, -⟩
  have frame := effect.frame faithful sound.ready different
  have later := sound.act faithful tool deed
  refine ⟨frame, ?_⟩
  rw [Desk.history, Desk.history, later.serves, later.shares, sound.serves, sound.shares]
  exact History.list_congr (frame History.field)

/-- Whatever is done at the two desks, in whatever order: every field of a tool holds the text
that was written into it last, by an edit that was accepted or, if it is the prompt, by copying
an entry of the history; a field never written holds what was stored at first or else its
default, for which a prompt that is not blank may stand in. The history is what recording the
prompts of all jobs that were asked for makes of what was stored at first, and each of these
jobs had a prompt that is not blank and a credential that was good when its attempt began. An
edit of anything that is no field of the tool is refused, the history among others, and changes
nothing; nor does copying an entry that there is not. And nothing that is done at one desk
changes anything of what the other tool keeps. -/
theorem run_remembers (faithful : FieldStore.Faithful atWork) (storage : σ)
    (ready : atWork storage) (desks : Tool → Desk σ)
    (unlocked : ∀ tool, (desks tool).form.locked = false) (acts : List (Tool × Deed σ)) :
    let start := opened storage desks
    let after := start.run acts
    (∀ tool substitute,
      let values := (after.desk tool).load substitute
      (∀ name ∈ tool.fieldNames, values.get? name =
        some ((start.kept? acts tool name).getD (tool.unstored substitute name))) ∧
      values.toolFields.map (·.1) = tool.fields.map (·.name)) ∧
    (∀ tool,
      (after.desk tool).history = History.list
        (History.recordAll storage tool.storageSpace (after.sent tool)) tool.storageSpace ∧
      ∃ moves, after.crowds tool = (Crowd.opened (start.desk tool)).run moves ∧
        ∀ number job, (number, .create job) ∈ (after.crowds tool).calls →
          Prompt.normalize job.prompt ≠ "" ∧
          Crowd.Vouched (start.desk tool) moves number job) ∧
    (∀ tool name value, name ∉ tool.fieldNames →
      (after.desk tool).updateField name value = .error (.unknownField tool.id name) ∧
      (after.act tool (.update name value)).storage = after.storage) ∧
    (∀ tool : Tool, History.field ∉ tool.fieldNames) ∧
    (∀ tool index,
      ((after.desk tool).select index).1 = (after.desk tool).history[index]? ∧
      ((after.desk tool).history.length ≤ index →
        (after.act tool (.select index)).storage = after.storage)) ∧
    ∀ tool other deed, other ≠ tool →
      (∀ name, FieldStore.field? (after.act tool deed).storage other.storageSpace name =
        FieldStore.field? after.storage other.storageSpace name) ∧
      ((after.act tool deed).desk other).history = (after.desk other).history := by
  intro start after
  have follows : start.Follows atWork acts :=
    follows_run (opened_sound ready unlocked) faithful (fun _ => rfl) acts
  have sound := follows.sound
  refine ⟨?fields, ?history, ?refused, fun tool => tool.history_not_mem_fieldNames, ?copied,
    ?elsewhere⟩
  case fields =>
    intro tool substitute values
    refine ⟨fun name named => follows.load_get? named substitute, ?_⟩
    rw [Desk.load_toolFields, sound.serves tool, List.map_map]
    rfl
  case history =>
    intro tool
    refine ⟨follows.history_eq tool, ?_⟩
    rcases start.run_crowd acts tool with ⟨moves, reached⟩
    refine ⟨moves, reached, ?_⟩
    intro number job asked
    refine ⟨follows.full tool job (Crowd.mem_sent.mpr ⟨number, asked⟩), ?_⟩
    rw [reached] at asked
    exact (Crowd.accounted_run (start.desk tool) moves).calls number job asked
  case refused => exact fun tool name value unknown => sound.updateField_refused unknown value
  case copied =>
    exact fun tool index => ⟨(after.desk tool).select_entry index, sound.select_beyond⟩
  case elsewhere =>
    exact fun tool other deed different => sound.act_elsewhere faithful different deed

/-- While a prompt is submitted for one tool, the fields of the other are edited; then the prompt
is copied back from the history. -/
theorem run_remembers_copied :
    let storage : MemoryStorage := ⟨none, ⟨[]⟩, ⟨[]⟩⟩
    let desks : Tool → Desk MemoryStorage := fun tool =>
      { login :=
          { tool := tool
            settings := ⟨"", "", "", "", none⟩
            storage := storage
            clock := 0
            browserOpens := true
            state := .loggedOut
            changes := 0 }
        form := .initial
        mode := .manual
        manual := .token "xoxp-1"
        policy := .standard
        presenter := ⟨fun text => text, fun text => text⟩ }
    let after := (opened storage desks).run
      [(.slackChannel, .update "prompt" "old"),
        (.slackChannel, .enter ⟨" What is\nnew?", "", "", false, []⟩),
        (.googleDocs, .update "document_id" "42"),
        (.slackChannel, .proceed 0 .rested),
        (.googleDocs, .update "channel" "general"),
        (.slackChannel, .proceed 0 .rested),
        (.slackChannel, .select 0)]
    (after.desk .slackChannel).history = ["What is new?"] ∧
      ((after.desk .slackChannel).load (some "else")).get? "prompt" = some "What is new?" ∧
      ((after.desk .googleDocs).load (some "else")).get? "prompt" = some "else" ∧
      ((after.desk .googleDocs).load none).get? "document_id" = some "42" := by
  intro storage desks after
  rcases run_remembers FieldStore.faithful_memory storage trivial desks (fun _ => rfl)
      [(.slackChannel, .update "prompt" "old"),
        (.slackChannel, .enter ⟨" What is\nnew?", "", "", false, []⟩),
        (.googleDocs, .update "document_id" "42"),
        (.slackChannel, .proceed 0 .rested),
        (.googleDocs, .update "channel" "general"),
        (.slackChannel, .proceed 0 .rested),
        (.slackChannel, .select 0)] with ⟨fields, history, -⟩
  refine ⟨(history .slackChannel).1.trans ?_,
    ((fields .slackChannel (some "else")).1 "prompt" (by decide)).trans ?_,
    ((fields .googleDocs (some "else")).1 "prompt" (by decide)).trans ?_,
    ((fields .googleDocs none).1 "document_id" (by decide)).trans ?_⟩
  all_goals decide +kernel

end Office

end PromptClient
