import PromptClient.Config
import PromptClient.Proofs.Polling
import PromptClient.Proofs.TomlIntegers

/-! # Polls that come to an end

A poll that may only pause for so long ends whatever the backend answers, provided its pauses
take some time and can be added up. The settings of a configuration see to both: no period in it
is zero, and no time in it is beyond signed 64 bits. -/

namespace PromptClient

namespace Errand

variable {policy : PollPolicy} {errand : Errand}

/-! ## Staying within the policy -/

theorem StaysWithin.next (within : StaysWithin policy errand) (reply : Reply) :
    StaysWithin policy (errand.next policy reply) := by
  cases errand with
  | creating submission =>
      rcases next_creating_cases policy submission reply with
        ⟨key, asks⟩ | ⟨fault, ends⟩ | crashes
      · rw [asks]
        exact fun most _ => Nat.zero_le _
      · rw [ends]
        trivial
      · rw [crashes]
        trivial
  | asking job waited =>
      rcases next_asking_cases policy job waited reply with
        ⟨rests, allows⟩ | ⟨status, outcome, ends⟩ | crashes
      · rw [rests]
        exact allows
      · rw [ends]
        trivial
      · rw [crashes]
        trivial
  | resting job waited =>
      rcases next_resting_cases policy job waited reply with asks | crashes
      · rw [asks]
        exact within
      · rw [crashes]
        trivial
  | finished job outcome =>
      rw [next_finished]
      trivial
  | crashed =>
      rw [next_crashed]
      trivial

theorem StaysWithin.play (within : StaysWithin policy errand) (replies : List Reply) :
    StaysWithin policy (play policy errand replies).2 := by
  induction replies generalizing errand with
  | nil => exact within
  | cons reply rest induction => exact induction (within.next reply)

/-- Wherever a poll has got to, it has not paused for longer than it may. -/
theorem allows_of_poll {job reached : Job} {waited : Duration} {replies : List Reply}
    (gets : (poll policy job replies).2 = .asking reached waited ∨
      (poll policy job replies).2 = .resting reached waited) :
    policy.Allows waited.nanoseconds := by
  have asked : StaysWithin policy (ask job Duration.zero) := fun _ _ => Nat.zero_le _
  have within := asked.play replies
  rcases gets with asks | rests
  · rw [show Errand.play policy (ask job Duration.zero) replies = poll policy job replies from rfl,
      asks] at within
    exact within
  · rw [show Errand.play policy (ask job Duration.zero) replies = poll policy job replies from rfl,
      rests] at within
    exact PollPolicy.Allows.of_le within (Nat.le_add_right _ _)

/-! ## Coming to an end -/

theorem length_lookups_rounds (key : String) (interval : Duration) (pauses : Nat) :
    (lookups (rounds key interval pauses)).length = pauses := by
  induction pauses with
  | zero => rfl
  | succ pauses induction => exact congrArg (· + 1) induction

theorem length_lookups_alternation (key : String) (interval : Duration) (pauses : Nat) :
    (lookups (alternation key interval pauses)).length = pauses + 1 := by
  rw [alternation, lookups_append, List.length_append, length_lookups_rounds]
  rfl

/-- Among the first answers there is one that ends the job, or they all find nothing. -/
theorem notReadyFor_or_first (answers : Nat → Except PollFault Lookup) (count : Nat) :
    NotReadyFor answers count ∨
      ∃ first, first < count ∧ NotReadyFor answers first ∧ answers first ≠ .ok .notReady := by
  induction count with
  | zero => exact .inl fun number below => absurd below (Nat.not_lt_zero _)
  | succ count induction =>
      rcases induction with notReady | ⟨first, below, notReady, decisive⟩
      · by_cases last : answers count = .ok .notReady
        · left
          intro number below
          rcases Nat.lt_succ_iff_lt_or_eq.mp below with earlier | same
          · exact notReady number earlier
          · rw [same]
            exact last
        · exact .inr ⟨count, Nat.lt_succ_self _, notReady, last⟩
      · exact .inr ⟨first, Nat.lt_succ_of_lt below, notReady, decisive⟩

/-- A poll with a limit ends, whatever the backend answers, and makes no more pauses than fit
into the limit. -/
theorem endsAfter_of_limit {most : Duration} (bound : policy.maxWait = some most)
    (positive : 0 < policy.interval.nanoseconds)
    (fits : most.nanoseconds + policy.interval.nanoseconds < Duration.limit) (job : Job)
    (answers : Nat → Except PollFault Lookup) :
    ∃ pauses status outcome, pauses ≤ most.nanoseconds / policy.interval.nanoseconds ∧
      EndsAfter policy job answers pauses status outcome := by
  have whole := (div_mul_bounds most.nanoseconds positive).1
  rcases notReadyFor_or_first answers
    (most.nanoseconds / policy.interval.nanoseconds + 1) with
    notReady | ⟨first, below, notReady, decisive⟩
  · refine ⟨_, _, _, Nat.le_refl _, endsAfter_of_exceeds bound positive ?_ notReady⟩
    rw [Nat.succ_mul]
    omega
  · have few : first ≤ most.nanoseconds / policy.interval.nanoseconds := Nat.lt_succ_iff.mp below
    have paused : first * policy.interval.nanoseconds ≤ most.nanoseconds :=
      Nat.le_trans (Nat.mul_le_mul_right _ few) whole
    have allows : policy.Allows (first * policy.interval.nanoseconds) := by
      intro known given
      rw [bound] at given
      cases given
      exact paused
    have short : first * policy.interval.nanoseconds < Duration.limit := by omega
    cases answer : answers first with
    | error fault =>
        refine ⟨first, .failed, .error (.poll fault), few,
          endsAfter_of_answer notReady short allows ?_⟩
        intro polls
        rw [answer]
        rfl
    | ok lookup =>
        cases lookup with
        | notReady => exact absurd answer decisive
        | ready body =>
            refine ⟨first, .ready, .ok body, few,
              endsAfter_of_answer notReady short allows ?_⟩
            intro polls
            rw [answer]
            rfl

end Errand

/-! ## Settings -/

namespace Config

open PromptClient.Number

/-- The times that matter to a poll and to looking at the session: none of the periods is zero,
and the seconds of a poll fit into signed 64 bits. -/
structure Timely (config : Config) : Prop where
  pollInterval : 1 ≤ config.pollInterval
  sessionRefresh : 1 ≤ config.sessionRefresh
  pollFits : (config.pollInterval : Int) ≤ maxInt64
  waitFits : ∀ most, config.maxWait = some most → (most : Int) ≤ maxInt64

theorem seconds_le {value : Toml} {seconds : Nat} (fits : value.Fits)
    (read : seconds? value = some seconds) : (seconds : Int) ≤ maxInt64 := by
  cases fits with
  | integer fits =>
      rename_i number
      cases number with
      | ofNat known =>
          cases read
          exact of_decide_eq_true (Bool.and_eq_true_iff.mp fits).2
      | negSucc known => cases read
  | text value | real | moment | boolean value | array each | table each | tables each =>
      cases read

theorem optional_seconds_le {table : Toml.Members} {name : String} {given : Option Nat}
    (all : Toml.AllFit table) (read : optional? seconds? name table = some given) :
    ∀ seconds, given = some seconds → (seconds : Int) ≤ maxInt64 := by
  intro seconds same
  subst same
  unfold optional? at read
  split at read
  · cases read
  · rename_i value found
    rcases Option.map_eq_some_iff.mp read with ⟨known, taken, same⟩
    cases same
    exact seconds_le (all.lookup found) taken

theorem one_le_period (seconds : Nat) : 1 ≤ period seconds :=
  Nat.le_max_right _ _

theorem timely_standard : standard.Timely where
  pollInterval := by decide
  sessionRefresh := by decide
  pollFits := by decide
  waitFits := by
    intro most given
    cases given

theorem timely_parse {text : String} {config : Config} (accepted : parse? text = some config) :
    config.Timely := by
  rcases Option.bind_eq_some_iff.mp accepted with ⟨table, read, accepted⟩
  have all := Toml.allFit_document read
  simp only [ofTable?, Option.bind_eq_bind, Option.bind_eq_some_iff, Option.some.injEq] at accepted
  rcases accepted with
    ⟨_, _, interval, intervalRead, _, _, wait, waitRead, _, _, _, _, _, _, _, _, rfl⟩
  have intervalFits := optional_seconds_le all intervalRead
  refine ⟨one_le_period _, one_le_period _, ?pollFits, optional_seconds_le all waitRead⟩
  case pollFits =>
    have known : ((interval.getD standard.pollInterval : Nat) : Int) ≤ maxInt64 := by
      cases interval with
      | none => decide
      | some seconds => exact intervalFits seconds rfl
    have one : (1 : Int) ≤ maxInt64 := by decide
    simp only [period]
    omega

/-- What a file says, or the standard configuration where there is no file. -/
def inFile (files : FileTree) (path : String) : Except ConfigFault Config :=
  if files.hasEntry path then
    match files.readText path with
    | .error fault => .error (.unreadable path fault)
    | .ok text =>
        match parse? text with
        | some config => .ok config
        | none => .error (.invalid path)
  else .ok standard

/-- All that the variables around a program change is the address of the backend. -/
theorem load_eq (environment : Environment) (files : FileTree) (path : String) :
    load environment files path = (inFile files path).map fun config =>
      { config with
        baseUrl := (environment.value? "PROMPTWEB_BASE_URL").getD config.baseUrl } := by
  unfold load inFile
  cases environment.value? "PROMPTWEB_BASE_URL" <;> cases files.hasEntry path <;>
    cases files.readText path with
  | error fault => rfl
  | ok text =>
      dsimp only
      cases parse? text <;> rfl

theorem timely_inFile {files : FileTree} {path : String} {config : Config}
    (found : inFile files path = .ok config) : config.Timely := by
  unfold inFile at found
  split at found
  · split at found
    · cases found
    · split at found
      · cases found
        exact timely_parse ‹_›
      · cases found
  · cases found
    exact timely_standard

theorem timely_load {environment : Environment} {files : FileTree} {path : String}
    {config : Config} (loaded : load environment files path = .ok config) : config.Timely := by
  rw [load_eq] at loaded
  cases found : inFile files path with
  | error fault =>
      rw [found] at loaded
      cases loaded
  | ok known =>
      rw [found] at loaded
      cases loaded
      have timely := timely_inFile found
      exact ⟨timely.pollInterval, timely.sessionRefresh, timely.pollFits, timely.waitFits⟩

theorem Timely.interval {config : Config} (timely : config.Timely) :
    Duration.perSecond ≤ config.pollPolicy.interval.nanoseconds :=
  Nat.le_mul_of_pos_left _ timely.pollInterval

theorem Timely.period {config : Config} (timely : config.Timely) :
    Duration.perSecond ≤ config.sessionPeriod.nanoseconds :=
  Nat.le_mul_of_pos_left _ timely.sessionRefresh

/-- The longest time to wait and one more pause can be added. -/
theorem Timely.sum_lt {config : Config} (timely : config.Timely) {most : Nat}
    (given : config.maxWait = some most) :
    (Duration.ofSeconds most).nanoseconds + config.pollPolicy.interval.nanoseconds <
      Duration.limit := by
  have wait : (most : Int) ≤ 9223372036854775807 := timely.waitFits most given
  have pause : (config.pollInterval : Int) ≤ 9223372036854775807 := timely.pollFits
  simp only [Duration.ofSeconds, pollPolicy, Duration.limit, Duration.perSecond]
  omega

/-- With the settings of any configuration that is accepted, a poll pauses for at least a second
at a time, and so does whoever looks at the session. If there is a limit to the waiting, every
poll comes to its end, whatever the backend answers, after as many look-ups as there are whole
intervals in the limit and one more at the most; and at no point of a poll are the time waited
and another pause beyond measure. -/
theorem accepted_polls_end {config : Config}
    (accepted : (∃ text, parse? text = some config) ∨
      ∃ environment files path, load environment files path = .ok config) :
    Duration.perSecond ≤ config.pollPolicy.interval.nanoseconds ∧
    Duration.perSecond ≤ config.sessionPeriod.nanoseconds ∧
    ∀ most, config.maxWait = some most →
      (∀ job answers, ∃ count events ended outcome,
        count ≤ most / config.pollInterval + 1 ∧ (Errand.lookups events).length = count ∧
        ∀ more, Errand.poll config.pollPolicy job (Errand.answered answers count ++ more) =
          (events, .finished (some ended) outcome)) ∧
      ∀ job replies reached waited,
        (Errand.poll config.pollPolicy job replies).2 = .asking reached waited ∨
          (Errand.poll config.pollPolicy job replies).2 = .resting reached waited →
        ∃ sum, waited.add? config.pollPolicy.interval = some sum := by
  have timely : config.Timely := by
    rcases accepted with ⟨text, parsed⟩ | ⟨environment, files, path, loaded⟩
    · exact timely_parse parsed
    · exact timely_load loaded
  refine ⟨timely.interval, timely.period, ?limited⟩
  case limited =>
    intro most given
    have bound : config.pollPolicy.maxWait = some (.ofSeconds most) := by
      simp only [pollPolicy, given, Option.map_some]
    have fits := timely.sum_lt given
    refine ⟨?ends, ?adds⟩
    case ends =>
      intro job answers
      have positive : 0 < config.pollPolicy.interval.nanoseconds :=
        Nat.lt_of_lt_of_le (by decide) timely.interval
      rcases Errand.endsAfter_of_limit bound positive fits job answers with
        ⟨pauses, status, outcome, few, ends⟩
      have seconds : (Duration.ofSeconds most).nanoseconds /
          config.pollPolicy.interval.nanoseconds = most / config.pollInterval :=
        Nat.mul_div_mul_right _ _ (by decide)
      rw [seconds] at few
      exact ⟨pauses + 1, _, _, outcome, Nat.succ_le_succ few,
        Errand.length_lookups_alternation _ _ pauses, ends⟩
    case adds =>
      intro job replies reached waited gets
      have within := Errand.allows_of_poll gets _ bound
      exact ⟨_, Errand.add?_of_lt (by omega)⟩

/-- The longest times that a configuration can set: the second look-up is the last one, and the
two pauses that are added up before it is given up stay below the limit of all times. -/
theorem accepted_polls_end_longest :
    let config : Config :=
      { standard with
        pollInterval := 9223372036854775807
        sessionRefresh := 1
        maxWait := some 9223372036854775807 }
    parse? "poll_interval_secs = 9223372036854775807
max_wait_secs = 0x7fffffffffffffff
session_refresh_secs = 0" = some config ∧
      (∃ count events ended outcome, count ≤ 2 ∧ (Errand.lookups events).length = count ∧
        ∀ more, Errand.poll config.pollPolicy (.pending "job-1")
            (Errand.answered (fun _ => .ok .notReady) count ++ more) =
          (events, .finished (some ended) outcome)) ∧
      ∃ sum, (Duration.ofSeconds 9223372036854775807).add? config.pollPolicy.interval =
        some sum := by
  intro config
  have parsed : parse? "poll_interval_secs = 9223372036854775807
max_wait_secs = 0x7fffffffffffffff
session_refresh_secs = 0" = some config := by decide +kernel
  have limited := (accepted_polls_end (.inl ⟨_, parsed⟩)).2.2 9223372036854775807 rfl
  have reached : (Errand.poll config.pollPolicy (.pending "job-1")
      [.found (.ok .notReady), .rested]).2 =
      .asking ⟨"job-1", .pending, 2⟩ (Duration.ofSeconds 9223372036854775807) := by
    have allows : config.pollPolicy.Allows
        (Duration.zero.nanoseconds + config.pollPolicy.interval.nanoseconds) := by
      intro most given
      cases given
      decide
    have once : (⟨Duration.zero.nanoseconds + config.pollPolicy.interval.nanoseconds⟩ : Duration) =
        .ofSeconds 9223372036854775807 := congrArg Duration.mk (Nat.zero_add _)
    rw [Errand.poll, Errand.ask, Errand.play_round _ _ (by decide) allows, once]
    rfl
  have few : 9223372036854775807 / config.pollInterval + 1 = 2 := by decide
  have ends := limited.1 (.pending "job-1") fun _ => .ok .notReady
  rw [few] at ends
  exact ⟨parsed, ends, limited.2 _ _ _ _ (.inl reached)⟩

end Config

end PromptClient
