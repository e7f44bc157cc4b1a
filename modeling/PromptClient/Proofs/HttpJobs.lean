import Mathlib.Data.Nat.Find
import PromptClient.Proofs.Address
import PromptClient.Proofs.Course

/-! # Jobs over HTTP

A job is created with one request and looked up with further ones. What becomes of it follows
from the responses: the first decides whether there is a job, and the first one after it that
does not say that nothing was found decides the rest. -/

namespace PromptClient

/-- A response that comes whole, and how long it takes. -/
structure Answer where
  status : Nat
  body : List UInt8
  delay : Duration

namespace Answer

def response (answer : Answer) : HttpResponse :=
  ⟨answer.status, .ok answer.body⟩

def text (answer : Answer) : String :=
  Text.Utf8.decodeDocument answer.body

end Answer

/-- A backend that answers every request over HTTP. Nothing is lost on the way. -/
structure Remote where
  backend : Backend
  /-- The answers in order, from the first request on. -/
  answers : Nat → Answer
  /-- The requests answered so far. -/
  requests : List HttpRequest

def Remote.say (remote : Remote) (call : BackendCall) : Reply × Duration × Remote :=
  match remote.backend.request call with
  | .error detail => (Backend.reply call (.error detail), .zero, remote)
  | .ok request =>
      let answer := remote.answers remote.requests.length
      (Backend.reply call (.ok answer.response), answer.delay,
        { remote with requests := remote.requests ++ [request] })

instance : Answering Remote := ⟨Remote.say⟩

namespace Backend

/-! ## Responses -/

theorem cookieHeader_ok {cookie header : Option String} (valid : cookieHeader cookie = .ok header) :
    header = cookie.map ("session=" ++ ·) := by
  cases cookie with
  | none =>
      cases valid
      rfl
  | some value =>
      rw [cookieHeader] at valid
      split at valid
      · cases valid
        rfl
      · cases valid

theorem createdKey_of_failure {answer : Answer} (failure : answer.response.isSuccess = false) :
    createdKey answer.response = .error (.rejected answer.status answer.text) := by
  have read : answer.response.text = .ok answer.text := rfl
  simp only [createdKey, read, failure]
  rfl

theorem createdKey_of_success {answer : Answer} (success : answer.response.isSuccess = true) :
    createdKey answer.response =
      if Text.trim answer.text = "" then .error .emptyKey else .ok (Text.trim answer.text) := by
  have read : answer.response.text = .ok answer.text := rfl
  simp only [createdKey, read, success]
  rfl

theorem foundResult_of_notFound {answer : Answer} (notFound : answer.status = 404)
    (key : String) : foundResult key answer.response = .ok .notReady := by
  rw [foundResult, Answer.response]
  simp [notFound]

/-- What a job comes to by an answer with another status than 404. -/
def outcome (key : String) (answer : Answer) : Except Failure String :=
  if answer.response.isSuccess then .ok answer.text
  else .error (.poll (.failed key answer.status answer.text))

theorem verdict?_of_found {answer : Answer} (found : answer.status ≠ 404) (key : String) :
    Errand.verdict? (foundResult key answer.response) = some (outcome key answer) := by
  have read : answer.response.text = .ok answer.text := rfl
  have same : answer.response.status = answer.status := rfl
  rw [foundResult, same, if_neg found, read, outcome]
  simp only
  split <;> rfl

end Backend

namespace Errand

/-! ## Rounds over HTTP -/

section Rounds

variable {policy : PollPolicy} {backend : Backend} {answers : Nat → Answer}
  {post get : HttpRequest} {key : String} {misses : Nat}

theorem expect_of_sendable {call : BackendCall} {sent : HttpRequest}
    (sendable : backend.request call = .ok sent) (requests : List HttpRequest) :
    expect (Remote.mk backend answers requests) (.call call) =
      (Backend.reply call (.ok (answers requests.length).response),
        (answers requests.length).delay, ⟨backend, answers, requests ++ [sent]⟩) := by
  change Remote.say _ _ = _
  simp only [Remote.say, sendable]

/-- Where an errand stands after so many steps from its first look-up on, and what it has sent
by then, if the look-ups before that number find nothing. It has ended with what the one after
them found, unless the pauses are too long to be added up. -/
inductive Stands (policy : PollPolicy) (answers : Nat → Answer) (post get : HttpRequest)
    (key : String) (misses : Nat) : (steps : Nat) → Errand → List HttpRequest → Prop
  | asking {count : Nat} (few : count ≤ misses) :
      Stands policy answers post get key misses (2 * count)
        (.asking ⟨key, .pending, count + 1⟩ ⟨count * policy.interval.nanoseconds⟩)
        (post :: List.replicate count get)
  | resting {count : Nat} (few : count < misses) :
      Stands policy answers post get key misses (2 * count + 1)
        (.resting ⟨key, .pending, count + 1⟩ ⟨count * policy.interval.nanoseconds⟩)
        (post :: List.replicate (count + 1) get)
  | finished {steps : Nat} {job : Option Job} (late : 2 * misses < steps) :
      Stands policy answers post get key misses steps
        (.finished job (Backend.outcome key (answers (misses + 1))))
        (post :: List.replicate (misses + 1) get)
  | crashed {steps count : Nat} (few : count ≤ misses)
      (beyond : Duration.limit ≤ misses * policy.interval.nanoseconds) :
      Stands policy answers post get key misses steps .crashed
        (post :: List.replicate count get)

theorem Stands.requests_eq {steps : Nat} {errand : Errand} {requests : List HttpRequest}
    (stands : Stands policy answers post get key misses steps errand requests) :
    ∃ count ≤ misses + 1, requests = post :: List.replicate count get := by
  cases stands with
  | asking few => exact ⟨_, Nat.le_succ_of_le few, rfl⟩
  | resting few => exact ⟨_, Nat.succ_le_succ (Nat.le_of_lt few), rfl⟩
  | finished late => exact ⟨_, Nat.le_refl _, rfl⟩
  | crashed few beyond => exact ⟨_, Nat.le_succ_of_le few, rfl⟩

theorem Stands.of_finished {steps : Nat} {job : Option Job} {outcome : Except Failure String}
    {requests : List HttpRequest}
    (stands : Stands policy answers post get key misses steps (.finished job outcome) requests) :
    outcome = Backend.outcome key (answers (misses + 1)) ∧
      requests = post :: List.replicate (misses + 1) get := by
  cases stands with
  | finished late => exact ⟨rfl, rfl⟩

theorem Stands.ends {steps : Nat} {errand : Errand} {requests : List HttpRequest}
    (stands : Stands policy answers post get key misses steps errand requests)
    (late : 2 * misses < steps) :
    (∃ job, errand = .finished job (Backend.outcome key (answers (misses + 1)))) ∨
      errand = .crashed ∧ Duration.limit ≤ misses * policy.interval.nanoseconds := by
  cases stands with
  | asking few => omega
  | resting few => omega
  | finished late => exact .inl ⟨_, rfl⟩
  | crashed few beyond => exact .inr ⟨rfl, beyond⟩

/-- An errand that stands there, on its way through the answers. -/
def StandsAt (policy : PollPolicy) (backend : Backend) (answers : Nat → Answer)
    (post get : HttpRequest) (key : String) (misses steps : Nat)
    (progress : Progress Remote) : Prop :=
  ∃ requests, progress.script = ⟨backend, answers, requests⟩ ∧
    Stands policy answers post get key misses steps progress.errand requests

theorem next_asking_of_notFound (unlimited : policy.maxWait = none) {answer : Answer}
    (notFound : answer.status = 404) (job : Job) (waited : Duration) :
    next policy (.asking job waited)
      (Backend.reply (.fetch key) (.ok answer.response)) = .resting job waited := by
  simp only [Backend.reply, Backend.foundResult_of_notFound notFound, next, giveUpOrRest,
    unlimited]

/-- By the kinds of waits: a look-up leads to a pause or to the end, a pause to the next
look-up unless it is too long. -/
theorem StandsAt.step (unlimited : policy.maxWait = none)
    (sendable : backend.request (.fetch key) = .ok get)
    (unready : ∀ number < misses, (answers (number + 1)).status = 404)
    (found : (answers (misses + 1)).status ≠ 404) {steps : Nat} {progress : Progress Remote}
    (stands : StandsAt policy backend answers post get key misses steps progress) :
    StandsAt policy backend answers post get key misses (steps + 1)
      (playFor policy none 1 progress) := by
  rcases stands with ⟨requests, script, stands⟩
  generalize waits : progress.errand = errand at stands
  cases stands with
  | @asking count few =>
      have happens : progress.errand.event? policy = some (.call (.fetch key)) := by
        rw [waits]
        rfl
      have expects : expect progress.script (.call (.fetch key)) =
          (Backend.reply (.fetch key) (.ok (answers (count + 1)).response),
            (answers (count + 1)).delay,
            ⟨backend, answers, post :: List.replicate (count + 1) get⟩) := by
        rw [script, expect_of_sendable sendable, List.replicate_succ']
        simp
      rw [playFor_step happens, playFor]
      refine ⟨post :: List.replicate (count + 1) get, ?_, ?_⟩
      · rw [Progress.after_eq, expects]
      · rw [Progress.after_eq, expects, waits]
        -- The answer is to the look-up of this number, the job's creation being number zero.
        rcases Nat.lt_or_eq_of_le few with few | rfl
        · rw [next_asking_of_notFound unlimited (unready count few)]
          exact .resting few
        · rcases next_asking_of_verdict policy ⟨key, .pending, count + 1⟩
            ⟨count * policy.interval.nanoseconds⟩ (Backend.verdict?_of_found found key) with
            ⟨job, ends⟩
          rw [Backend.reply, ends]
          exact .finished (Nat.lt_succ_self _)
  | @resting count few =>
      have happens : progress.errand.event? policy = some (.pause policy.interval) := by
        rw [waits]
        rfl
      have longer : (count + 1) * policy.interval.nanoseconds ≤
          misses * policy.interval.nanoseconds := Nat.mul_le_mul_right _ few
      rw [Nat.succ_mul] at longer
      rw [playFor_step happens, playFor]
      refine ⟨post :: List.replicate (count + 1) get, ?_, ?_⟩
      · rw [Progress.after_eq, expect, script]
      · rw [Progress.after_eq, expect, waits]
        by_cases fits : count * policy.interval.nanoseconds + policy.interval.nanoseconds <
            Duration.limit
        · simp only [next, add?_of_lt fits]
          rw [← Nat.succ_mul]
          exact .asking few
        · simp only [next, Duration.add?, if_neg fits]
          exact .crashed few (by omega)
  | finished late =>
      have closed : progress.errand.event? policy = none := by
        rw [waits]
        rfl
      rw [playFor_over closed]
      exact ⟨_, script, waits ▸ .finished (Nat.lt_succ_of_lt late)⟩
  | crashed few beyond =>
      have closed : progress.errand.event? policy = none := by
        rw [waits]
        rfl
      rw [playFor_over closed]
      exact ⟨_, script, waits ▸ .crashed few beyond⟩

theorem StandsAt.playFor (unlimited : policy.maxWait = none)
    (sendable : backend.request (.fetch key) = .ok get)
    (unready : ∀ number < misses, (answers (number + 1)).status = 404)
    (found : (answers (misses + 1)).status ≠ 404) {progress : Progress Remote}
    (stands : StandsAt policy backend answers post get key misses 0 progress) (steps : Nat) :
    StandsAt policy backend answers post get key misses steps
      (playFor policy none steps progress) := by
  induction steps with
  | zero => exact stands
  | succ steps induction =>
      rw [playFor_add]
      exact induction.step unlimited sendable unready found

end Rounds

/-! ## A job from its beginning -/

section Jobs

variable {backend : Backend} {submission : Submission} {post : HttpRequest}

/-- A job over HTTP, so many steps after the one that creates it. -/
def overHttp (policy : PollPolicy) (backend : Backend) (answers : Nat → Answer)
    (submission : Submission) (steps : Nat) : Progress Remote :=
  playFor policy none (steps + 1) (.start (.creating submission) ⟨backend, answers, []⟩)

/-- A job is created with one request. -/
theorem overHttp_eq (policy : PollPolicy) (answers : Nat → Answer)
    (sendable : backend.request (.create submission) = .ok post) (steps : Nat) :
    ∃ time, overHttp policy backend answers submission steps =
      playFor policy none steps
        ⟨next policy (.creating submission)
          (.created (Backend.createdKey (answers 0).response)),
          ⟨backend, answers, [post]⟩, time, [.call (.create submission)]⟩ := by
  let start : Progress Remote := .start (.creating submission) ⟨backend, answers, []⟩
  let event : ErrandEvent := .call (.create submission)
  have happens : start.errand.event? policy = some event := rfl
  have expects : expect start.script event =
      (.created (Backend.createdKey (answers 0).response), (answers 0).delay,
        ⟨backend, answers, [post]⟩) :=
    expect_of_sendable sendable []
  refine ⟨(start.wait event).ended, ?_⟩
  rw [overHttp, playFor_step happens, Progress.after_eq, expects]
  rfl

theorem overHttp_refused (policy : PollPolicy) {answers : Nat → Answer}
    (sendable : backend.request (.create submission) = .ok post) {fault : SubmissionFault}
    (refused : Backend.createdKey (answers 0).response = .error fault) (steps : Nat) :
    (overHttp policy backend answers submission steps).script.requests = [post] ∧
      (overHttp policy backend answers submission steps).errand =
        .finished none (.error (.submission fault)) := by
  rcases overHttp_eq policy answers sendable steps with ⟨time, same⟩
  rw [refused] at same
  have ended : overHttp policy backend answers submission steps =
      ⟨.finished none (.error (.submission fault)), ⟨backend, answers, [post]⟩, time,
        [.call (.create submission)]⟩ :=
    same.trans (playFor_over rfl none steps)
  rw [ended]
  exact ⟨rfl, rfl⟩

theorem overHttp_accepted {policy : PollPolicy} {answers : Nat → Answer} {get : HttpRequest}
    {key : String} {misses : Nat} (unlimited : policy.maxWait = none)
    (sendable : backend.request (.create submission) = .ok post)
    (accepted : Backend.createdKey (answers 0).response = .ok key)
    (asks : backend.request (.fetch key) = .ok get)
    (unready : ∀ number < misses, (answers (number + 1)).status = 404)
    (found : (answers (misses + 1)).status ≠ 404) (steps : Nat) :
    StandsAt policy backend answers post get key misses steps
      (overHttp policy backend answers submission steps) := by
  rcases overHttp_eq policy answers sendable steps with ⟨time, same⟩
  rw [same, accepted]
  apply StandsAt.playFor unlimited asks unready found
  refine ⟨[post], rfl, ?_⟩
  have first : Stands policy answers post get key misses (2 * 0)
      (.asking ⟨key, .pending, 0 + 1⟩ ⟨0 * policy.interval.nanoseconds⟩)
      (post :: List.replicate 0 get) := .asking (Nat.zero_le _)
  rwa [Nat.zero_mul] at first

/-- What a job over HTTP sends and comes to, by the answers alone. It is created with one
request, to which the user's session is put if there is one. Only a success with a key leads to
look-ups, all with the same request. A look-up is made again for as long as the status is 404,
and the first other status decides, whatever the texts are, unless the pauses before it are too
long to be added up. -/
theorem run_overHttp {policy : PollPolicy} (unlimited : policy.maxWait = none)
    {answers : Nat → Answer} (sendable : backend.request (.create submission) = .ok post)
    (answered : ∃ number, (answers (number + 1)).status ≠ 404) :
    let reached := overHttp policy backend answers submission
    let first := answers 0
    let key := Text.trim first.text
    (post.method = .post ∧ Backend.urlOf (backend.submitUrl submission.prompt) = .ok post.url ∧
      post.cookie = submission.cookie.map ("session=" ++ ·) ∧
      post.contentType = some "application/json" ∧ post.body = submission.context.body) ∧
    (first.response.isSuccess = false → ∀ steps,
      (reached steps).script.requests = [post] ∧
      (reached steps).errand =
        .finished none (.error (.submission (.rejected first.status first.text)))) ∧
    (first.response.isSuccess = true → Text.isAllBlank first.text = true → ∀ steps,
      (reached steps).script.requests = [post] ∧
      (reached steps).errand = .finished none (.error (.submission .emptyKey))) ∧
    (first.response.isSuccess = true → Text.isAllBlank first.text = false →
      ∃ get misses,
        (get.method = .get ∧ Backend.urlOf (backend.resultUrl key) = .ok get.url ∧
          get.cookie = none) ∧
        (∀ number < misses, (answers (number + 1)).status = 404) ∧
        (answers (misses + 1)).status ≠ 404 ∧
        (∀ steps, ∃ count ≤ misses + 1,
          (reached steps).script.requests = post :: List.replicate count get) ∧
        (∀ steps job outcome, (reached steps).errand = .finished job outcome →
          outcome = Backend.outcome key (answers (misses + 1)) ∧
          (reached steps).script.requests = post :: List.replicate (misses + 1) get) ∧
        (∀ steps, 2 * misses < steps →
          (∃ job, (reached steps).errand =
            .finished job (Backend.outcome key (answers (misses + 1)))) ∨
          (reached steps).errand = .crashed ∧
            Duration.limit ≤ misses * policy.interval.nanoseconds)) := by
  intro reached first key
  refine ⟨?_, ?_, ?_, ?_⟩
  · rcases Backend.request_create sendable with ⟨url, cookie, made, header, rfl⟩
    exact ⟨rfl, made, Backend.cookieHeader_ok header, rfl, rfl⟩
  · intro failure steps
    exact overHttp_refused policy sendable (Backend.createdKey_of_failure failure) steps
  · intro success blank steps
    have refused := Backend.createdKey_of_success success
    rw [if_pos ((Text.trim_eq_empty_iff _).mpr blank)] at refused
    exact overHttp_refused policy sendable refused steps
  · intro success full
    have accepted := Backend.createdKey_of_success success
    have named : Text.trim first.text ≠ "" := by
      rw [Ne, Text.trim_eq_empty_iff, full]
      exact Bool.false_ne_true
    rw [if_neg named] at accepted
    rcases Backend.fetch_of_request sendable key with ⟨url, made⟩
    have asks := Backend.request_fetch_iff.mpr ⟨url, made, rfl⟩
    have unready : ∀ number < Nat.find answered, (answers (number + 1)).status = 404 :=
      fun number below => not_not.mp (Nat.find_min answered below)
    have found := Nat.find_spec answered
    have stands := overHttp_accepted unlimited sendable accepted asks unready found
    refine ⟨⟨.get, url, none, none, ""⟩, Nat.find answered, ⟨rfl, made, rfl⟩, unready, found,
      ?_, ?_, ?_⟩
    · intro steps
      rcases stands steps with ⟨requests, same, stands⟩
      rcases stands.requests_eq with ⟨count, few, sent⟩
      exact ⟨count, few, (congrArg (·.requests) same).trans sent⟩
    · intro steps job outcome ends
      rcases stands steps with ⟨requests, same, stands⟩
      change (overHttp policy backend answers submission steps).errand = _ at ends
      rw [ends] at stands
      rcases stands.of_finished with ⟨decides, sent⟩
      exact ⟨decides, (congrArg (·.requests) same).trans sent⟩
    · intro steps late
      rcases stands steps with ⟨requests, same, stands⟩
      exact stands.ends late

/-- Two look-ups find nothing, although the second one comes with a text, and the third finds
the result. -/
theorem run_overHttp_third :
    let backend : Backend := .ofAddress "http://localhost:8181/"
    let submission : Submission :=
      ⟨"Summarize X", ⟨"GoogleDocs", "", "", false, []⟩, some "abc"⟩
    let policy : PollPolicy := ⟨⟨20000000⟩, none⟩
    let answers : Nat → Answer
      | 0 => ⟨200, Text.Utf8.encode " job-42\n", .zero⟩
      | 1 => ⟨404, [], .zero⟩
      | 2 => ⟨404, Text.Utf8.encode "not yet", .zero⟩
      | _ => ⟨200, Text.Utf8.encode "All good", .zero⟩
    ∃ post get,
      post.method = .post ∧ post.cookie = some "session=abc" ∧
      get.method = .get ∧ Backend.urlOf (backend.resultUrl "job-42") = .ok get.url ∧
      (overHttp policy backend answers submission 5).script.requests = [post, get, get, get] ∧
      ∃ job, (overHttp policy backend answers submission 5).errand =
        .finished job (.ok "All good") := by
  intro backend submission policy answers
  have success : (answers 0).response.isSuccess = true := by decide
  have full : Text.isAllBlank (answers 0).text = false := by decide +kernel
  have named : Text.trim (answers 0).text = "job-42" := by decide +kernel
  obtain ⟨post, sendable⟩ : ∃ post, backend.request (.create submission) = .ok post := by
    cases sent : backend.request (.create submission) with
    | ok post => exact ⟨post, rfl⟩
    | error fault =>
        have made : (backend.request (.create submission)).isOk = true := by decide +kernel
        rw [sent] at made
        cases made
  have answered : ∃ number, (answers (number + 1)).status ≠ 404 := ⟨2, by decide⟩
  have unlimited : policy.maxWait = none := rfl
  rcases run_overHttp unlimited sendable answered with ⟨⟨creates, -, cookie, -⟩, -, -, job⟩
  rcases job success full with ⟨get, misses, ⟨asks, url, -⟩, unready, found, -, ended, ends⟩
  have third : misses = 2 := by
    rcases Nat.lt_trichotomy misses 2 with few | same | many
    · have missed : ∀ number < 2, (answers (number + 1)).status = 404 := by decide
      exact absurd (missed misses few) found
    · exact same
    · exact absurd (unready 2 many) (by decide)
  subst third
  rw [named] at url
  rcases ends 5 (by decide) with ⟨job, finished⟩ | ⟨-, beyond⟩
  · have decides : Backend.outcome (Text.trim (answers 0).text) (answers 3) = .ok "All good" := by
      have good : (answers 3).response.isSuccess = true := by decide
      have text : (answers 3).text = "All good" := by decide +kernel
      rw [Backend.outcome, if_pos good, text]
    have sent := (ended 5 job _ finished).2
    rw [decides] at finished
    exact ⟨post, get, creates, cookie, asks, url, sent, job, finished⟩
  · exact absurd beyond (by decide)

end Jobs

end Errand

end PromptClient
