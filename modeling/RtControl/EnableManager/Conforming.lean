import RtControl.EnableManager.Outcome
import RtControl.EnableManager.Scan

/-!
# Conforming drives and the stations of the group

A conforming drive keeps its CiA402 state or takes the standard transition of
the control word it was last given.  Against such drives the group has a short
abstract description: it stands at a station, with the reported states and the
commanded words confined axis by axis.
-/

namespace RtControl.EnableManager

/-! ## Drives -/

/-- The standard transition of a drive under a control word.  Axes 1, 2, 7 and 8
stay in Ready To Switch On under a zero word. -/
def driveMove (axis : Axis) (controlWord : UInt16) : DriveState → Option DriveState
  | .notReady => some .switchOnDisabled
  | .switchOnDisabled => if controlWord = 0x0006 then some .readyToSwitchOn else none
  | .readyToSwitchOn =>
      if controlWord = 0x0007 then some .switchedOn
      else if controlWord = 0x0000 then
        if axis = 1 ∨ axis = 2 ∨ axis = 7 ∨ axis = 8 then none else some .switchOnDisabled
      else none
  | .switchedOn =>
      if controlWord = 0x000F then some .operationEnabled
      else if controlWord = 0x0006 then some .readyToSwitchOn
      else none
  | .operationEnabled => if controlWord = 0x0007 then some .switchedOn else none
  | .quickStopActive => if controlWord = 0x0000 then some .switchOnDisabled else none
  | .faultReactionActive | .fault | .unknown => none

/-- A conforming drive keeps its state or moves as its control word says. -/
def follows (axis : Axis) (controlWord : UInt16) (before after : DriveState) : Bool :=
  after = before || driveMove axis controlWord before = some after

/-- The states on the way up to Operation Enabled. -/
def DriveState.climbs (state : DriveState) : Bool :=
  state = .switchOnDisabled || state = .readyToSwitchOn || state = .switchedOn ||
    state = .operationEnabled

/-! ## Stages -/

namespace Controller

variable (config : Config) (now : Int) (s : Controller)

/-- The refreshed words let the stage of a descent end. -/
def descentSettles : Bool :=
  let scan := downwardScan s.statusWords
  if 2 ≤ s.descentStage then scan.allNonfaultTerminal else advancesStage scan s.descentStage

/-- The cycle of a refreshed controller ends its stage: the batch or the descent
stage is complete, or the delay has elapsed. -/
def settles : Bool :=
  match s.phase with
  | .startupSanitizing | .disabling => s.descentSettles
  | .enabling => (enableScan s.currentBatch s.statusWords).batchComplete
  | .interBatchDelay => s.stageDeadlineNs ≤ now
  | _ => true

/-- The cycle of a batch or of a descent stage comes before its deadline. -/
def inTime : Bool :=
  match s.phase with
  | .startupSanitizing | .disabling => now < s.descentDeadline config now
  | .enabling => now < s.stageDeadlineNs
  | _ => true

end Controller

/-! ## Stations -/

/-- Where a group of conforming drives stands.  Owners tell apart the steps of a
callback between two cycles. -/
inductive Station where
  | startup (stage : Nat)
  | idle (owner : Owner)
  | enableRequested
  | resetRequested
  | batch (number : Nat)
  | delay (number : Nat)
  | activating
  | enabled (owner : Owner)
  | deactivating (requested : Bool)
  | disabling (stage : Nat)
  deriving DecidableEq, Repr

namespace Station

/-- The phase of a station. -/
def phase : Station → Phase
  | .startup _ => .startupSanitizing
  | .idle _ | .enableRequested | .resetRequested => .idle
  | .batch _ => .enabling
  | .delay _ => .interBatchDelay
  | .activating => .jtcActivating
  | .enabled _ => .enabled
  | .deactivating _ => .jtcDeactivating
  | .disabling _ => .disabling

/-- The owner of a station. -/
def owner : Station → Owner
  | .startup _ => .internal
  | .idle owner | .enabled owner => owner
  | .enableRequested | .batch _ | .delay _ | .activating => .enable
  | .resetRequested => .reset
  | .deactivating _ | .disabling _ => .disable

/-- The enable request is raised. -/
def requestsEnable : Station → Bool
  | .enableRequested => true
  | _ => false

/-- The disable request is raised. -/
def requestsDisable : Station → Bool
  | .deactivating requested => requested
  | _ => false

/-- The reset request is raised. -/
def requestsReset : Station → Bool
  | .resetRequested => true
  | _ => false

/-- The counters of a station, and the flag that hands the enable over to its
callback. -/
def Counts : Station → Controller → Prop
  | .startup stage, s | .disabling stage, s => s.descentStage = stage ∧ stage ≤ 2
  | .enableRequested, s => s.enableHardwareReady = false
  | .batch number, s =>
      s.currentBatch = number ∧ number < batchCount ∧ s.enableHardwareReady = false
  | .delay number, s =>
      s.currentBatch = number ∧ number + 1 < batchCount ∧ s.enableHardwareReady = false
  | .activating, s => s.enableHardwareReady = true
  | _, _ => True

/-- The states an axis may report at a station. -/
def Reads : Station → Axis → DriveState → Prop
  | .startup _, _, state | .disabling _, _, state => isFaultState state = false
  | .idle _, axis, state | .enableRequested, axis, state | .resetRequested, axis, state =>
      isConfirmedDisableTerminal axis state = true
  | .batch number, axis, state =>
      if (batchRole number axis).isPrevious then state = .operationEnabled
      else if (batchRole number axis).isCurrent then state.climbs = true
      else isConfirmedDisableTerminal axis state = true
  | .delay number, axis, state =>
      if (batchRole number axis).isPrevious ∨ (batchRole number axis).isCurrent then
        state = .operationEnabled
      else isConfirmedDisableTerminal axis state = true
  | .activating, _, state | .enabled _, _, state | .deactivating _, _, state =>
      state = .operationEnabled

/-- The control words an axis may hold at a station.  The first cycle of a batch
finds the zero words of the idle group on its own axes. -/
def Commands : Station → Axis → DriveState → UInt16 → Prop
  | .startup _, _, _, _ | .disabling _, _, _, _ => True
  | .idle _, _, _, word | .enableRequested, _, _, word | .resetRequested, _, _, word =>
      word = 0x0000
  | .batch number, axis, state, word =>
      word = enableCommand number axis state ∨
        word = 0x0000 ∧ isConfirmedDisableTerminal axis state = true
  | .delay number, axis, state, word => word = enableCommand number axis state
  | .activating, _, _, word | .enabled _, _, _, word | .deactivating _, _, _, word =>
      word = 0x000F

/-- The control word a cycle writes to an axis at a station. -/
def command : Station → Axis → DriveState → UInt16
  | .startup _, _, state | .disabling _, _, state => downwardCommand state
  | .idle _, _, _ | .enableRequested, _, _ | .resetRequested, _, _ => 0x0000
  | .batch number, axis, state => enableCommand number axis state
  | .delay _, _, state => interBatchCommand state
  | .activating, _, _ | .enabled _, _, _ | .deactivating _, _, _ => 0x000F

/-- The axis keeps the stage of a station open. -/
def holdsUp : Station → Words → Axis → Bool
  | .startup _, words, axis | .disabling _, words, axis =>
      !isConfirmedDisableTerminal axis (decodeState (words axis))
  | .batch number, words, axis => holdsUpBatch number words axis
  | _, _, _ => false

/-- The station after one cycle, by whether the cycle settles its stage. -/
def next (settled : Bool) : Station → Station
  | .startup stage =>
      if settled then if stage < 2 then .startup (stage + 1) else .idle .none
      else .startup stage
  | .idle owner => .idle owner
  | .enableRequested => .batch 0
  | .resetRequested => .idle .none
  | .batch number =>
      if settled then if number + 1 = batchCount then .activating else .delay number
      else .batch number
  | .delay number => if settled then .batch (number + 1) else .delay number
  | .activating => .activating
  | .enabled owner => .enabled owner
  | .deactivating requested => if requested then .disabling 0 else .deactivating false
  | .disabling stage =>
      if settled then if stage < 2 then .disabling (stage + 1) else .idle .none
      else .disabling stage

end Station

/-- A controller at a station, up to the words it has written. -/
structure Poised (station : Station) (s : Controller) : Prop where
  active : s.active = true
  phase : s.phase = station.phase
  owner : s.owner = station.owner
  enableRequest : s.enableRequest = station.requestsEnable
  disableRequest : s.disableRequest = station.requestsDisable
  resetRequest : s.resetRequest = station.requestsReset
  switchedOn : s.jtcActivateFailedRequest = false
  switchedOff : s.jtcDeactivateFailed = false
  calm : s.emergencyJtcDeactivateRequest = false
  running : s.restartRequired = false
  unpreempted : s.enablePreemptRequested = false
  blameless : s.primaryFailure.stage = .success
  counts : station.Counts s
  reads : ∀ axis, station.Reads axis (decodeState (s.statusWords axis))

/-- A controller at a station. -/
structure Stands (station : Station) (s : Controller) : Prop extends Poised station s where
  commands : ∀ axis, station.Commands axis (decodeState (s.statusWords axis)) (s.controlWords axis)

/-- What one cycle of a controller at a station does. -/
structure Cycled (station : Station) (settled : Bool) (s t : Controller) : Prop where
  stands : Stands (station.next settled) t
  enableResult : t.enableResult = s.enableResult
  disableResult : t.disableResult =
    if settled = true ∧ station = .disabling 2 then
      Controller.published true { stage := .success }
    else s.disableResult
  resetResult : t.resetResult =
    if station = .resetRequested then Controller.published true { stage := .alreadyClear }
    else s.resetResult
  enableHardwareReady : station = .idle .enable → t.enableHardwareReady = s.enableHardwareReady
  commanded : ∀ axis,
    t.controlWords axis = station.command axis (decodeState (t.statusWords axis))

/-! ## Readings of conforming drives -/

/-- The axes whose terminal may be Ready To Switch On hold it under a zero
word. -/
theorem terminal_of_follows {axis : Axis} {before after : DriveState}
    (terminal : isConfirmedDisableTerminal axis before = true)
    (followed : follows axis 0x0000 before after = true) : after = before := by
  cases before with
  | readyToSwitchOn =>
      simp only [isConfirmedDisableTerminal, follows, driveMove] at terminal followed
      grind
  | _ => simp_all [isConfirmedDisableTerminal, follows, driveMove]

theorem operationEnabled_of_follows {axis : Axis} {after : DriveState}
    (followed : follows axis 0x000F .operationEnabled after = true) :
    after = .operationEnabled := by
  simpa [follows, driveMove] using followed

theorem healthy_of_follows {axis : Axis} {controlWord : UInt16} {before after : DriveState}
    (healthy : isFaultState before = false)
    (followed : follows axis controlWord before after = true) : isFaultState after = false := by
  simp only [follows, Bool.or_eq_true, decide_eq_true_eq] at followed
  rcases followed with same | moved
  · rw [same]
    exact healthy
  · cases before <;> simp only [driveMove] at moved <;> grind [isFaultState]

/-- A word of the running batch lets its axis climb only. -/
theorem climbs_of_follows {number : Nat} {axis : Axis} {before after : DriveState}
    (current : (batchRole number axis).isPrevious = false)
    (member : (batchRole number axis).isCurrent = true) (climbing : before.climbs = true)
    (followed : follows axis (enableCommand number axis before) before after = true) :
    after.climbs = true := by
  cases before <;>
    simp_all [follows, driveMove, enableCommand, DriveState.climbs] <;>
    rcases followed with rfl | rfl <;> simp

theorem climbs_of_terminal {axis : Axis} {state : DriveState}
    (terminal : isConfirmedDisableTerminal axis state = true) : state.climbs = true := by
  cases state <;> simp_all [isConfirmedDisableTerminal, DriveState.climbs]

/-- Conforming drives report what their station expects. -/
theorem Station.reads_of_follows {station : Station} {axis : Axis} {before after : DriveState}
    {controlWord : UInt16} (reads : station.Reads axis before)
    (commands : station.Commands axis before controlWord)
    (followed : follows axis controlWord before after = true) : station.Reads axis after := by
  cases station with
  | startup stage => exact healthy_of_follows reads followed
  | disabling stage => exact healthy_of_follows reads followed
  | idle owner =>
      cases commands
      rw [terminal_of_follows reads followed]
      exact reads
  | enableRequested =>
      cases commands
      rw [terminal_of_follows reads followed]
      exact reads
  | resetRequested =>
      cases commands
      rw [terminal_of_follows reads followed]
      exact reads
  | batch number =>
      simp only [Reads] at reads ⊢
      rcases commands with rfl | ⟨rfl, terminal⟩
      · split_ifs at reads ⊢ with previous current
        · subst reads
          exact operationEnabled_of_follows (by simpa [enableCommand, previous] using followed)
        · exact climbs_of_follows (by simpa using previous) current reads followed
        · have held : after = before :=
            terminal_of_follows reads (by simpa [enableCommand, previous, current] using followed)
          rw [held]
          exact reads
      · rw [terminal_of_follows terminal followed]
        exact reads
  | delay number =>
      simp only [Reads] at reads ⊢
      cases commands
      split_ifs at reads ⊢ with member
      · subst reads
        apply operationEnabled_of_follows
        rcases member with previous | current
        · simpa [enableCommand, previous] using followed
        · cases previous : (batchRole number axis).isPrevious <;>
            simpa [enableCommand, previous, current] using followed
      · rw [not_or] at member
        have held : after = before :=
          terminal_of_follows reads (by simpa [enableCommand, member] using followed)
        rw [held]
        exact reads
  | activating =>
      cases commands
      cases reads
      exact operationEnabled_of_follows followed
  | enabled owner =>
      cases commands
      cases reads
      exact operationEnabled_of_follows followed
  | deactivating requested =>
      cases commands
      cases reads
      exact operationEnabled_of_follows followed

/-- A refreshed controller expects its station's readings. -/
theorem Stands.refreshed {station : Station} {s : Controller} {readings : Readings}
    (stands : Stands station s)
    (conforming : ∀ axis, follows axis (s.controlWords axis) (decodeState (s.statusWords axis))
      (decodeState (refreshedWord (readings axis))) = true) :
    Poised station (s.refreshStatusWords readings) :=
  { stands.toPoised with
    counts := by cases station <;> exact stands.counts
    reads := fun axis =>
      Station.reads_of_follows (stands.reads axis) (stands.commands axis) (conforming axis) }

end RtControl.EnableManager
