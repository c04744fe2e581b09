import RtControl.Transition.Core
import Mathlib.Algebra.Order.Group.Nat

/-!
# The deactivation of the master

`EcMaster::deactivate` hands the cyclic exchange back to IgH and polls the configured slaves
until all of them report PREOP.  `master_active_` is cleared before the first poll, and a call
that finds it cleared answers zero at once.
-/

namespace RtControl.Ethercat

open RtControl.Transition

/-! ## The master -/

/-- `EC_AL_STATE_PREOP` -/
def ecAlStatePreop : UInt8 := 0x02

/-- `ENODEV` -/
def enodev : Int := 19

/-- `ETIMEDOUT` -/
def etimedout : Int := 110

/-- `poll_interval` in nanoseconds. -/
def pollInterval : Nat := 20000000

/-- A configured slave of `slave_info_`, as far as the deactivation uses it. -/
structure SlaveInfo where
  position : UInt16
  deriving DecidableEq, Repr

/-- The master, as far as its activation and deactivation use it. -/
structure EcMaster where
  /-- `master_` is not `NULL`. -/
  requested : Bool
  masterActive : Bool := false
  slaveInfo : List SlaveInfo
  deriving DecidableEq, Repr

/-- What `ecrt_master_get_slave` returns and writes. -/
structure SlaveState where
  stateResult : Int := 0
  alState : UInt8 := 0
  deriving DecidableEq, Repr

/-- What one call of `deactivate` meets.  `slave` answers by poll and by the index in `slave_info_`.
The steady clock is read at the start and once after a poll, and a sleep takes its time. -/
structure Bus where
  deactivateResult : Int
  slave : Nat → Nat → SlaveState
  start : Nat
  reading : Nat → Nat
  started : start ≤ reading 0
  slept : ∀ poll, reading poll + pollInterval ≤ reading (poll + 1)

/-- The warnings of `deactivate`. -/
inductive Warning where
  | deactivateFailed (error : Int)
  | readFailed (position : UInt16) (error : Int)
  | timedOut (position : UInt16) (alState : UInt8)
  deriving DecidableEq, Repr

/-- The text of a warning. -/
def Warning.text : Warning → String
  | .deactivateFailed error =>
      "Deactivate. ecrt_master_deactivate failed with error " ++ toString error
  | .readFailed position error =>
      "Deactivate. Failed to read slave state at position " ++ toString position.toNat ++
        " with error " ++ toString error
  | .timedOut position alState =>
      "Deactivate. Timed out waiting for slave at position " ++ toString position.toNat ++
        " to reach clean PREOP; AL state 0x" ++ String.ofList (Nat.toDigits 16 alState.toNat)

/-- The return value of `deactivate`, its warning and the number of its polls. -/
structure Answer where
  result : Int
  warning : Option Warning := none
  polls : Nat := 0
  deriving DecidableEq, Repr

/-- The outcome of one poll. -/
inductive Poll where
  | allPreop
  | pending (position : UInt16) (alState : UInt8)
  | failed (position : UInt16) (error : Int)
  deriving DecidableEq, Repr

/-- The loop over `slave_info_`. -/
def pollSlaves (slave : Nat → SlaveState) : Nat → List SlaveInfo → Poll
  | _, [] => .allPreop
  | index, info :: slaves =>
      let state := slave index
      if state.stateResult ≠ 0 then .failed info.position state.stateResult
      else if state.alState ≠ ecAlStatePreop then .pending info.position state.alState
      else pollSlaves slave (index + 1) slaves

/-- The poll loop of `deactivate`.  The fuel bounds the polls. -/
def waitForPreop (bus : Bus) (slaves : List SlaveInfo) (deadline : Nat) : Nat → Nat → Option Answer
  | 0, _ => none
  | fuel + 1, poll =>
      match pollSlaves (bus.slave poll) 0 slaves with
      | .failed position error =>
          some { result := error, warning := some (.readFailed position error), polls := poll + 1 }
      | .allPreop => some { result := 0, polls := poll + 1 }
      | .pending position alState =>
          if deadline ≤ bus.reading poll then
            some {
              result := -etimedout
              warning := some (.timedOut position alState)
              polls := poll + 1 }
          else waitForPreop bus slaves deadline fuel (poll + 1)

namespace EcMaster

/-- `EcMaster::activate`, up to the result of `ecrt_master_activate`; the domains that follow do
not touch the flag. -/
def activate (s : EcMaster) (activated : Bool) : EcMaster :=
  if activated then { s with masterActive := true } else s

/-- `EcMaster::deactivate` -/
def deactivate (s : EcMaster) (preopTimeoutMs : UInt32) (bus : Bus) : Option (EcMaster × Answer) :=
  if !s.masterActive then
    some (s, { result := 0 })
  else if !s.requested then
    some (s, { result := -enodev })
  else if bus.deactivateResult ≠ 0 then
    some (s, {
      result := bus.deactivateResult
      warning := some (.deactivateFailed bus.deactivateResult) })
  else
    let timeout := preopTimeoutMs.toNat * 1000000
    (waitForPreop bus s.slaveInfo (bus.start + timeout) (timeout / pollInterval + 2) 0).map
      fun answer => ({ s with masterActive := false }, answer)

end EcMaster

/-! ## What a call has observed -/

/-- The poll finds every configured slave in PREOP. -/
def Bus.inPreop (bus : Bus) (slaves : List SlaveInfo) (poll : Nat) : Bool :=
  (List.range slaves.length).all fun index =>
    bus.slave poll index = { stateResult := 0, alState := ecAlStatePreop }

/-- One of the polls made finds every configured slave in PREOP. -/
def Bus.observesPreop (bus : Bus) (slaves : List SlaveInfo) (polls : Nat) : Bool :=
  (List.range polls).any (bus.inPreop slaves)

section Calls

variable {bus : Bus} {slaves : List SlaveInfo} {deadline : Nat}

theorem pollSlaves_eq_allPreop_iff (slave : Nat → SlaveState) (index : Nat) :
    pollSlaves slave index slaves = .allPreop ↔
      ∀ offset < slaves.length,
        slave (index + offset) = { stateResult := 0, alState := ecAlStatePreop } := by
  induction slaves generalizing index with
  | nil => exact iff_of_true rfl nofun
  | cons info slaves ih =>
      have shifted : (∀ offset < (info :: slaves).length,
          slave (index + offset) = { stateResult := 0, alState := ecAlStatePreop }) ↔
            slave index = { stateResult := 0, alState := ecAlStatePreop } ∧
              ∀ offset < slaves.length,
                slave (index + 1 + offset) = { stateResult := 0, alState := ecAlStatePreop } := by
        constructor
        · intro preop
          refine ⟨preop 0 (Nat.succ_pos _), fun offset inside => ?_⟩
          have later := preop (offset + 1) (Nat.succ_lt_succ inside)
          rwa [← Nat.add_assoc, Nat.add_right_comm] at later
        · rintro ⟨first, rest⟩ (_ | offset) inside
          · exact first
          · have later := rest offset (Nat.lt_of_succ_lt_succ inside)
            rwa [Nat.add_right_comm, Nat.add_assoc] at later
      rw [shifted, pollSlaves]
      cases state : slave index with
      | mk stateResult alState =>
          simp only [SlaveState.mk.injEq]
          split_ifs with failed pending
          · exact iff_of_false nofun fun preop => failed preop.1.1
          · exact iff_of_false nofun fun preop => pending preop.1.2
          · rw [ih]
            rw [not_not] at failed pending
            exact ⟨fun rest => ⟨⟨failed, pending⟩, rest⟩, fun preop => preop.2⟩

theorem inPreop_iff (poll : Nat) :
    bus.inPreop slaves poll = true ↔ pollSlaves (bus.slave poll) 0 slaves = .allPreop := by
  rw [pollSlaves_eq_allPreop_iff, Bus.inPreop, List.all_eq_true]
  simp only [List.mem_range, decide_eq_true_eq, Nat.zero_add]

/-- A call without a poll observes nothing. -/
theorem observesPreop_zero : bus.observesPreop slaves 0 = false :=
  rfl

/-- A failed read reports an error. -/
theorem error_ne_zero {slave : Nat → SlaveState} {index : Nat} {position : UInt16} {error : Int}
    (failed : pollSlaves slave index slaves = .failed position error) : error ≠ 0 := by
  induction slaves generalizing index with
  | nil => contradiction
  | cons info slaves ih =>
      rw [pollSlaves] at failed
      split_ifs at failed with unread pending
      · cases failed
        exact unread
      · exact ih failed

/-- The loop answers zero exactly if one of its polls has found the slaves in PREOP. -/
theorem result_of_waitForPreop {fuel poll : Nat} {answer : Answer}
    (returned : waitForPreop bus slaves deadline fuel poll = some answer) :
    poll < answer.polls ∧
      (answer.result = 0 ↔ ∃ seen, poll ≤ seen ∧ seen < answer.polls ∧
        bus.inPreop slaves seen = true) := by
  induction fuel generalizing poll with
  | zero => contradiction
  | succ fuel ih =>
      have last {other : Nat} (from_ : poll ≤ other) (made : other < poll + 1) : other = poll :=
        Nat.le_antisymm (Nat.le_of_lt_succ made) from_
      rw [waitForPreop] at returned
      split at returned
      next position error failed =>
        cases returned
        refine ⟨Nat.lt_succ_self _, iff_of_false (error_ne_zero failed) ?_⟩
        rintro ⟨seen, from_, made, preop⟩
        rw [last from_ made, inPreop_iff, failed] at preop
        contradiction
      next preop =>
        cases returned
        exact ⟨Nat.lt_succ_self _,
          iff_of_true rfl ⟨poll, le_refl _, Nat.lt_succ_self _, (inPreop_iff poll).mpr preop⟩⟩
      next position alState pending =>
        have unseen : bus.inPreop slaves poll ≠ true := by
          rw [ne_eq, inPreop_iff, pending]
          nofun
        split_ifs at returned with late
        · cases returned
          refine ⟨Nat.lt_succ_self _, iff_of_false (show -etimedout ≠ 0 by decide) ?_⟩
          rintro ⟨seen, from_, made, preop⟩
          exact unseen (last from_ made ▸ preop)
        · obtain ⟨made, zero⟩ := ih returned
          refine ⟨Nat.lt_of_succ_lt made, zero.trans ?_⟩
          constructor
          · rintro ⟨seen, from_, before, preop⟩
            exact ⟨seen, Nat.le_of_succ_le from_, before, preop⟩
          · rintro ⟨seen, from_, before, preop⟩
            have later : poll ≠ seen := fun same => unseen (same ▸ preop)
            exact ⟨seen, Nat.lt_of_le_of_ne from_ later, before, preop⟩

/-- The clock shows at least the sleeps so far. -/
theorem Bus.le_reading (bus : Bus) (poll : Nat) :
    bus.start + pollInterval * poll ≤ bus.reading poll := by
  induction poll with
  | zero => exact bus.started
  | succ poll ih =>
      have slept := bus.slept poll
      rw [Nat.mul_succ, ← Nat.add_assoc]
      exact le_trans (Nat.add_le_add_right ih _) slept

theorem waitForPreop_isSome (fuel : Nat) {poll : Nat}
    (enough : deadline ≤ bus.start + pollInterval * (poll + fuel)) :
    (waitForPreop bus slaves deadline (fuel + 1) poll).isSome = true := by
  induction fuel generalizing poll with
  | zero =>
      have late : deadline ≤ bus.reading poll := le_trans enough (bus.le_reading poll)
      rw [waitForPreop]
      split
      · rfl
      · rfl
      · rw [if_pos late]
        rfl
  | succ fuel ih =>
      rw [waitForPreop]
      split
      · rfl
      · rfl
      · split_ifs with late
        · rfl
        · refine ih ?_
          rwa [Nat.add_right_comm, Nat.add_assoc]

end Calls

namespace EcMaster

variable {s t : EcMaster} {preopTimeoutMs : UInt32} {bus : Bus} {answer : Answer}

/-- Every call returns: the sleeps of its poll loop carry the clock past the deadline. -/
theorem deactivate_isSome (s : EcMaster) (preopTimeoutMs : UInt32) (bus : Bus) :
    (s.deactivate preopTimeoutMs bus).isSome = true := by
  unfold deactivate
  split_ifs
  · rfl
  · rfl
  · rfl
  · rw [Option.isSome_map]
    refine waitForPreop_isSome (preopTimeoutMs.toNat * 1000000 / pollInterval + 1) ?_
    have positive : 0 < pollInterval := by decide
    have passed := Nat.lt_mul_div_succ (preopTimeoutMs.toNat * 1000000) positive
    rw [Nat.zero_add]
    exact Nat.add_le_add_left (Nat.le_of_lt passed) _

/-- The outcomes of a call: it answers before the flag is cleared, or by the poll loop. -/
inductive Deactivation (s : EcMaster) (bus : Bus) (t : EcMaster) (answer : Answer) : Prop
  /-- The master is not active. -/
  | inactive
      (stopped : s.masterActive = false)
      (same : t = s)
      (result : answer.result = 0)
      (unpolled : answer.polls = 0)
  /-- The master cannot be deactivated. -/
  | refused
      (running : s.masterActive = true)
      (same : t = s)
      (result : answer.result ≠ 0)
      (unpolled : answer.polls = 0)
  /-- The master is deactivated and the slaves are polled. -/
  | polled
      (running : s.masterActive = true)
      (cleared : t = { s with masterActive := false })
      (result : answer.result = 0 ↔ bus.observesPreop s.slaveInfo answer.polls = true)
      (made : 0 < answer.polls)

theorem deactivation_of_call (call : s.deactivate preopTimeoutMs bus = some (t, answer)) :
    Deactivation s bus t answer := by
  unfold deactivate at call
  split_ifs at call with stopped unrequested failed
  · cases call
    exact .inactive (by simpa using stopped) rfl rfl rfl
  · cases call
    exact .refused (by simpa using stopped) rfl (show -enodev ≠ 0 by decide) rfl
  · cases call
    exact .refused (by simpa using stopped) rfl failed rfl
  · obtain ⟨returned, waited, same⟩ := Option.map_eq_some_iff.mp call
    cases same
    obtain ⟨made, zero⟩ := result_of_waitForPreop waited
    refine .polled (by simpa using stopped) rfl (zero.trans ?_) made
    rw [Bus.observesPreop, List.any_eq_true]
    simp only [Nat.zero_le, true_and, List.mem_range]

end EcMaster

/-! ## Sequences of calls -/

/-- The calls of the master. -/
inductive MasterEvent where
  | activate (activated : Bool)
  | deactivate (preopTimeoutMs : UInt32) (bus : Bus)

/-- One call. -/
def masterStep : Step EcMaster MasterEvent := fun s event =>
  match event with
  | .activate activated => some (s.activate activated)
  | .deactivate preopTimeoutMs bus => (s.deactivate preopTimeoutMs bus).map Prod.fst

/-- What has been seen since the last activation: PREOP of all slaves in a call that returned
zero, and a poll loop that ended without it. -/
structure Confirmation where
  activated : Bool := false
  observed : Bool := false
  unconfirmed : Bool := false
  deriving DecidableEq, Repr

/-- The history after one more call. -/
def confirm (s : EcMaster) (event : MasterEvent) (_ : EcMaster) (log : Confirmation) :
    Confirmation :=
  match event with
  | .activate activated => if activated then { activated := true } else log
  | .deactivate preopTimeoutMs bus =>
      match s.deactivate preopTimeoutMs bus with
      | some (_, answer) =>
          let preop := bus.observesPreop s.slaveInfo answer.polls
          { log with
            observed := log.observed || (answer.result = 0 && preop)
            unconfirmed := log.unconfirmed || (0 < answer.polls && !preop) }
      | none => log

/-- A call that returns zero does so for a master that was never activated, or after all slaves
were seen in PREOP. -/
def Truthful (s : EcMaster) (log : Confirmation) (preopTimeoutMs : UInt32) (bus : Bus) : Prop :=
  ∀ t answer, s.deactivate preopTimeoutMs bus = some (t, answer) → answer.result = 0 →
    log.activated = false ∨ log.observed = true ∨
      bus.observesPreop s.slaveInfo answer.polls = true

/-- No call follows one whose poll loop has ended without PREOP, until the next activation. -/
def unretried : Guard (EcMaster × Confirmation) MasterEvent := fun observation event =>
  match event with
  | .activate _ => true
  | .deactivate _ _ => !observation.2.unconfirmed

/-- Every call in every guarded sequence of calls to a configured master is truthful. -/
def TruthfulDeactivation (requested : Bool) (slaves : List SlaveInfo)
    (guard : Guard (EcMaster × Confirmation) MasterEvent) : Prop :=
  ∀ s log preopTimeoutMs bus,
    Reachable (observed masterStep confirm) guard
      ({ requested := requested, slaveInfo := slaves }, {}) (s, log) →
    guard (s, log) (.deactivate preopTimeoutMs bus) = true → Truthful s log preopTimeoutMs bus

/-- What holds of the flag and the history between two calls. -/
structure ConfirmationLaw (s : EcMaster) (log : Confirmation) : Prop where
  running : s.masterActive = true → log.observed = false ∧ log.unconfirmed = false
  stopped : s.masterActive = false →
    log.activated = false ∨ log.observed = true ∨ log.unconfirmed = true
  owed : log.unconfirmed = true → log.activated = true ∧ log.observed = false
  started : s.masterActive = true → log.activated = true

section Runs

variable {s t : EcMaster} {event : MasterEvent} {log : Confirmation}

theorem confirmationLaw_deactivate {preopTimeoutMs : UInt32} {bus : Bus} {answer : Answer}
    (law : ConfirmationLaw s log) (call : s.deactivate preopTimeoutMs bus = some (t, answer)) :
    ConfirmationLaw t (confirm s (.deactivate preopTimeoutMs bus) t log) := by
  simp only [confirm, call]
  cases EcMaster.deactivation_of_call call with
  | inactive stopped same result unpolled | refused running same result unpolled =>
      simp only [unpolled, observesPreop_zero, lt_irrefl, decide_false, Bool.and_false,
        Bool.false_and, Bool.or_false]
      exact same ▸ law
  | polled running cleared result made =>
      subst cleared
      obtain ⟨unobserved, unopened⟩ := law.running running
      have activated := law.started running
      by_cases preop : bus.observesPreop s.slaveInfo answer.polls = true
      · simp only [preop, result.mpr preop, unobserved, unopened, Bool.not_true, Bool.and_false,
          Bool.or_false]
        exact ⟨nofun, fun _ => .inr (.inl rfl), nofun, nofun⟩
      · have missed := Bool.eq_false_of_not_eq_true preop
        simp only [missed, unobserved, unopened, made, Bool.and_false, Bool.or_false]
        exact ⟨nofun, fun _ => .inr (.inr rfl), fun _ => ⟨activated, rfl⟩, nofun⟩

/-- Every call keeps the law. -/
theorem confirmationLaw_of_step (law : ConfirmationLaw s log)
    (step : masterStep s event = some t) : ConfirmationLaw t (confirm s event t log) := by
  cases event with
  | activate activated =>
      cases step
      cases activated with
      | true => exact ⟨fun _ => ⟨rfl, rfl⟩, nofun, nofun, fun _ => rfl⟩
      | false => exact law
  | deactivate preopTimeoutMs bus =>
      obtain ⟨⟨after, answer⟩, call, same⟩ := Option.map_eq_some_iff.mp step
      cases same
      exact confirmationLaw_deactivate law call

/-- In every sequence of calls a call is truthful exactly if no unconfirmed one precedes it. -/
theorem truthful_iff {preopTimeoutMs : UInt32} {bus : Bus} (law : ConfirmationLaw s log) :
    Truthful s log preopTimeoutMs bus ↔
      unretried (s, log) (.deactivate preopTimeoutMs bus) = true := by
  simp only [unretried, Bool.not_eq_true']
  obtain ⟨⟨t, answer⟩, call⟩ := Option.isSome_iff_exists.mp (s.deactivate_isSome preopTimeoutMs bus)
  have outcome := EcMaster.deactivation_of_call call
  constructor
  · intro truthful
    by_contra unconfirmed
    obtain ⟨activated, unobserved⟩ := law.owed (Bool.eq_true_of_not_eq_false unconfirmed)
    cases outcome with
    | inactive stopped same result unpolled =>
        rcases truthful t answer call result with never | seen | preop
        · exact Bool.false_ne_true (never.symm.trans activated)
        · exact Bool.false_ne_true (unobserved.symm.trans seen)
        · rw [unpolled, observesPreop_zero] at preop
          contradiction
    | refused running | polled running => exact unconfirmed (law.running running).2
  · intro confirmed other returned again zero
    cases Option.some.inj (call.symm.trans again)
    cases outcome with
    | inactive stopped =>
        rcases law.stopped stopped with never | seen | unconfirmed
        · exact .inl never
        · exact .inr (.inl seen)
        · exact absurd (confirmed.symm.trans unconfirmed) Bool.false_ne_true
    | refused running same result => exact absurd zero result
    | polled running cleared result => exact .inr (.inr (result.mp zero))

theorem confirmationLaw_of_reachable {guard : Guard (EcMaster × Confirmation) MasterEvent}
    {requested : Bool} {slaves : List SlaveInfo}
    (reachable : Reachable (observed masterStep confirm) guard
      ({ requested := requested, slaveInfo := slaves }, {}) (s, log)) : ConfirmationLaw s log := by
  have initial : ConfirmationLaw { requested := requested, slaveInfo := slaves } {} :=
    ⟨nofun, fun _ => .inl rfl, nofun, nofun⟩
  refine reachable.invariant (fun current => ConfirmationLaw current.1 current.2) initial ?_
  rintro ⟨source, before⟩ ⟨target, after⟩ event law allowed step
  obtain ⟨moves, recorded⟩ := observed_eq_some_iff.mp step
  have kept := confirmationLaw_of_step law moves
  rw [← recorded] at kept
  exact kept

end Runs

/-- Sequences of calls without a retry are truthful, and in any sequence a call is truthful exactly
if it is no retry. -/
theorem truthfulDeactivation_of_unretried (requested : Bool) (slaves : List SlaveInfo) :
    TruthfulDeactivation requested slaves unretried ∧
      ∀ s log preopTimeoutMs bus,
        Reachable (observed masterStep confirm) (onState unguarded)
          ({ requested := requested, slaveInfo := slaves }, {}) (s, log) →
        (Truthful s log preopTimeoutMs bus ↔
          unretried (s, log) (.deactivate preopTimeoutMs bus) = true) := by
  constructor
  · intro s log preopTimeoutMs bus reachable allowed
    exact (truthful_iff (confirmationLaw_of_reachable reachable)).mpr allowed
  · intro s log preopTimeoutMs bus reachable
    exact truthful_iff (confirmationLaw_of_reachable reachable)

/-! ## The lifecycle callback -/

/-- `shutdown_preop_timeout_ms` -/
def shutdownPreopTimeoutMs : UInt32 := 5000

/-- `CallbackReturn`, as far as `on_deactivate` returns it. -/
inductive CallbackReturn where
  | success
  | error
  deriving DecidableEq, Repr

/-- The driver, as far as `on_deactivate` uses it. -/
structure EthercatDriver where
  activated : Bool
  master : EcMaster

/-- `EthercatDriver::on_deactivate` -/
def EthercatDriver.onDeactivate (d : EthercatDriver) (bus : Bus) :
    Option (EthercatDriver × CallbackReturn) :=
  (d.master.deactivate shutdownPreopTimeoutMs bus).map fun call =>
    ({ activated := false, master := call.1 },
      if call.2.result ≠ 0 then .error else .success)

/-! ## Two calls -/

/-- A bus whose slaves all report one AL state. -/
def steadyBus (alState : UInt8) : Bus where
  deactivateResult := 0
  slave _ _ := { alState := alState }
  start := 0
  reading poll := pollInterval * poll
  started := le_refl 0
  slept _ := le_refl _

/-- A slave in PREOP confirms the first deactivation. -/
theorem truthfulDeactivation_of_preop :
    ∃ s log, Reachable (observed masterStep confirm) unretried
        ({ requested := true, slaveInfo := [⟨0⟩] }, {}) (s, log) ∧
      (s.deactivate 5000 (steadyBus 0x02)).any (fun call => call.2.result = 0) = true ∧
      Truthful s log 5000 (steadyBus 0x02) := by
  have found : (run (observed masterStep confirm) unretried
      ({ requested := true, slaveInfo := [⟨0⟩] }, {}) [MasterEvent.activate true]).any
      (fun current => unretried current (.deactivate 5000 (steadyBus 0x02)) &&
        (current.1.deactivate 5000 (steadyBus 0x02)).any fun call => call.2.result = 0) = true := by
    decide +kernel
  rcases exists_reachable_of_run found with ⟨⟨s, log⟩, reachable, tested⟩
  rw [Bool.and_eq_true] at tested
  exact ⟨s, log, reachable, tested.2,
    (truthfulDeactivation_of_unretried true [⟨0⟩]).1 s log _ _ reachable tested.1⟩

/-- A slave stays in SAFEOP: the first call times out, the second one returns zero. -/
theorem not_truthfulDeactivation_of_retry :
    ¬∀ requested slaves, TruthfulDeactivation requested slaves (onState unguarded) := by
  intro always
  have found : (run (observed masterStep confirm) (onState unguarded)
      ({ requested := true, slaveInfo := [⟨0⟩] }, {})
      [MasterEvent.activate true, .deactivate 5000 (steadyBus 0x04)]).any
      (fun current => current.2.activated && !current.2.observed && !current.1.masterActive) =
        true := by
    decide +kernel
  rcases exists_reachable_of_run found with ⟨⟨s, log⟩, reachable, tested⟩
  simp only [Bool.and_eq_true, Bool.not_eq_true'] at tested
  obtain ⟨⟨activated, unobserved⟩, stopped⟩ := tested
  have returned : s.deactivate 5000 (steadyBus 0x04) = some (s, { result := 0 }) := by
    rw [EcMaster.deactivate, stopped]
    rfl
  rcases always true [⟨0⟩] s log _ _ reachable rfl s _ returned rfl with never | seen | preop
  · exact Bool.false_ne_true (never.symm.trans activated)
  · exact Bool.false_ne_true (unobserved.symm.trans seen)
  · exact Bool.false_ne_true preop

end RtControl.Ethercat
