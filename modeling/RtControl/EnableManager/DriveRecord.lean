import RtControl.EnableManager.Diagnostics
import RtControl.EnableManager.Words

/-!
# The recorded drive failure

`startEmergency` shows the first failed drive in the diagnostics.  The record outlives the
emergency: it stays while the group rests in `kFailed`, until an operation taken up there
fails on its own account or the group is idle again.
-/

namespace RtControl.EnableManager

open RtControl.Transition

/-! ## The property and its condition -/

/-- The failure record of an emergency. -/
def emergencyFailure (s : Controller) (stage : Stage) (axis : Axis) (words : Words) : Failure where
  stage := stage
  batch := if s.owner = .enable then s.currentBatch else -1
  joint := axis.val
  statusWord := words axis

/-- The drive failure that makes a cycle start an emergency, the lowest axis first. -/
def driveFailure (s : Controller) (words : Words) : Option Failure :=
  if !s.active then none
  else
    match monitoredFailure s.phase words with
    | some (axis, stage) => some (emergencyFailure s stage axis words)
    | none =>
        if s.phase.isEnabling then
          (axes.find? fun axis => isFaultState (decodeState (words axis))).map fun axis =>
            emergencyFailure s .faultDetected axis words
        else
          none

/-- A reset or a disable fails on its own account: the reset is out of time, the disable
completes with a faulted axis, or a stage of it expires with no failure recorded. -/
def failsItself (config : Config) (now : Int) (s : Controller) (words : Words) : Bool :=
  s.active &&
    ((s.phase = .resetHigh && !s.disableRequest && s.stageDeadlineNs ≤ now) ||
      (s.phase = .disabling && 2 ≤ s.descentStage &&
        (downwardScan words).allNonfaultTerminal && anyFault words) ||
      (s.phase = .disabling && s.primaryFailure.stage = .success &&
        s.descentExpires config now words))

/-- The drive failure on record: the one of the last emergency, until the phase is `kIdle` or
`kEnabled` again, the controller is activated anew, or a cycle is excused. -/
def logDriveFailure (excused : Int → Controller → Words → Bool) (s : System) (event : Event)
    (t : System) (onRecord : Option Failure) : Option Failure :=
  let kept := if t.phase = .idle ∨ t.phase = .enabled then none else onRecord
  match event with
  | .update now readings =>
      (driveFailure s.toController (refreshedWords readings)).or
        (if excused now s.toController (refreshedWords readings) then none else kept)
  | .activate => none
  | _ => kept

/-- A deactivation fails only while the phase still waits for it. -/
def failsInPlace : Guard System Event := fun s event =>
  !failsDeactivation s event || s.phase = .jtcDeactivating

/-- The diagnostics show the drive failure on record in every state of every guarded run. -/
def KeepsDriveFailure (config : Config) (excused : Int → Controller → Words → Bool)
    (guard : Guard System Event) : Prop :=
  ∀ s failure, Reachable (observed (blockStep config) (logDriveFailure excused)) (onState guard)
    (configured, none) (s, some failure) → s.lastFailure = failure

/-! ## The law of the record -/

/-- The phases in which a drive failure may be on record. -/
def Phase.keepsRecord (phase : Phase) : Bool :=
  phase.isEmergency || phase.isReset || phase = .disabling || phase = .failed || phase = .inactive

theorem Phase.not_keepsRecord_of_isEnabling {phase : Phase} (enabling : phase.isEnabling = true) :
    phase.keepsRecord = false := by
  cases phase <;> first | rfl | cases enabling

theorem Phase.not_keepsRecord_of_isHeld {phase : Phase} (held : phase.isHeld = true) :
    phase.keepsRecord = false := by
  cases phase <;> first | rfl | cases held

theorem Phase.disabling_of_keepsRecord {phase : Phase} (kept : phase.keepsRecord = true)
    (normal : phase.isNormalDescent = true) : phase = .disabling := by
  revert kept normal
  cases phase <;> decide

/-- What holds while a drive failure is on record. -/
structure OnRecord (s : Controller) (failure : Failure) : Prop where
  shown : s.lastFailure = failure
  phase : s.phase.keepsRecord = true
  accused : s.phase.isEmergency = true → s.primaryFailure.stage ≠ .success

theorem OnRecord.congr {s t : Controller} {failure : Failure} (law : OnRecord s failure)
    (phase : t.phase = s.phase) (primary : t.primaryFailure = s.primaryFailure)
    (last : t.lastFailure = s.lastFailure) : OnRecord t failure := by
  rcases law with ⟨shown, kept, accused⟩
  exact ⟨by rw [last]; exact shown, by rw [phase]; exact kept, by rw [phase, primary]; exact accused⟩

theorem OnRecord.phase_ne {s : Controller} {failure : Failure} (law : OnRecord s failure)
    {phase : Phase} (unkept : phase.keepsRecord = false) : s.phase ≠ phase := by
  rintro rfl
  exact absurd law.phase (ne_true_of_eq_false unkept)

/-- Outside an emergency only the record and the phase count. -/
theorem OnRecord.of_calm {s : Controller} {failure : Failure} (shown : s.lastFailure = failure)
    (phase : s.phase.keepsRecord = true) (calm : s.phase.isEmergency = false) :
    OnRecord s failure :=
  ⟨shown, phase, fun emergency => absurd (calm.symm.trans emergency) Bool.false_ne_true⟩

namespace Controller

variable {config : Config} {now : Int} {readings : Readings} {s t : Controller}
  {failure : Failure}

theorem startEmergency_onRecord {stage : Stage} (failed : stage ≠ .success) (axis : Axis)
    (words : Words) :
    OnRecord (s.startEmergency config now stage axis.val (words axis))
      (emergencyFailure s stage axis words) :=
  ⟨rfl, rfl, fun _ => failed⟩

theorem updateEmergencyQuickStop_onRecord (law : OnRecord s failure)
    (stopping : s.phase = .emergencyQuickStop) :
    OnRecord (s.updateEmergencyQuickStop config now) failure := by
  have accused := law.accused (by rw [stopping]; rfl)
  simp only [updateEmergencyQuickStop]
  split_ifs
  · exact ⟨law.shown, rfl, fun _ => accused⟩
  · exact law.congr rfl rfl rfl

/-- A cycle that starts an emergency puts its drive failure on record. -/
theorem update_onRecord (found : driveFailure s (refreshedWords readings) = some failure) :
    OnRecord (s.update config now readings) failure := by
  by_cases active : s.active = true
  · rw [driveFailure, if_neg (by simp [active])] at found
    cases tripped : monitoredFailure s.phase (refreshedWords readings) with
    | some reported =>
        rcases reported with ⟨axis, stage⟩
        rw [tripped] at found
        cases found
        have failed : stage ≠ .success := by
          rcases monitoredFailure_stage tripped with rfl | rfl <;> decide
        rw [s.update_of_monitored config now active tripped]
        exact updateEmergencyQuickStop_onRecord (startEmergency_onRecord failed axis _) rfl
    | none =>
        simp only [tripped, Option.ite_none_right_eq_some, Option.map_eq_some_iff] at found
        obtain ⟨enabling, axis, lowest, rfl⟩ := found
        have unexpected : Stage.faultDetected ≠ .success := by decide
        rw [s.update_of_enabling active enabling, updateEnable]
        simp only [show (axes.find? fun axis => isFaultState (decodeState
          ((s.refreshStatusWords readings).statusWords axis))) = some axis from lowest]
        exact startEmergency_onRecord unexpected axis _
  · rw [driveFailure, if_pos (by simpa using active)] at found
    contradiction

/-- A completed emergency leaves the record, in idle or in failed. -/
theorem finishEmergency_onRecord (scan : FinishScan) (law : OnRecord s failure) :
    (s.finishEmergency scan).phase = .idle ∨ OnRecord (s.finishEmergency scan) failure := by
  have shown : (s.finishEmergency scan).lastFailure = failure := by
    simp only [finishEmergency, storeOwner, storePhase]
    split_ifs <;> exact law.shown
  by_cases rests : (s.finishEmergency scan).phase = .idle
  · exact .inl rests
  · have failed : (s.finishEmergency scan).phase = .failed := by
      simp only [finishEmergency, storeOwner, storePhase] at rests ⊢
      split_ifs at rests ⊢ <;> first | rfl | exact absurd rfl rests
    exact .inr (.of_calm shown (by rw [failed]; rfl) (by rw [failed]; rfl))

/-- A disable that completes without a fault leaves the record, in idle or in failed. -/
theorem finishDisabling_onRecord (scan : FinishScan) (law : OnRecord s failure)
    (healthy : scan.anyFault = false) :
    (s.finishDisabling scan).phase = .idle ∨ OnRecord (s.finishDisabling scan) failure := by
  simp only [finishDisabling, healthy, Bool.false_eq_true, if_false]
  split_ifs
  · exact .inr (.of_calm law.shown rfl rfl)
  · exact .inr (.of_calm law.shown rfl rfl)
  · exact .inl rfl

/-- A cycle in which no operation fails on its own account leaves the record, unless it brings
the group to idle. -/
theorem onRecord_of_outcome (law : OnRecord s failure) (outcome : Outcome config now s t)
    (active : s.active = true) (quiet : failsItself config now s s.statusWords = false) :
    t.phase = .idle ∨ OnRecord t failure := by
  have kept := law.phase
  have excluded {phase : Phase} (current : s.phase = phase) (unkept : phase.keepsRecord = false) :
      t.phase = .idle ∨ OnRecord t failure :=
    absurd current (law.phase_ne unkept)
  rw [failsItself, active, Bool.true_and, Bool.or_eq_false_iff, Bool.or_eq_false_iff] at quiet
  obtain ⟨⟨inTime, healthyEnd⟩, accusedExpiry⟩ := quiet
  cases outcome with
  | inactive => exact .inr law
  | monitored axis stage tripped =>
      rcases phase_of_monitored tripped with phase | phase | phase <;> exact excluded phase rfl
  | descentDone downward last terminal =>
      have scanned : OnRecord (s.descentScanned config now) failure := law.congr rfl rfl rfl
      rw [Phase.isDownward, Bool.or_eq_true, decide_eq_true_eq] at downward
      rcases downward with normal | descending
      · have disabling := Phase.disabling_of_keepsRecord kept normal
        have healthy : (finishScan s.statusWords).anyFault = false := by
          rw [finishScan_anyFault]
          simpa [disabling, last, terminal] using healthyEnd
        rw [finishDownward,
          show (s.descentScanned config now).phase = .disabling from disabling]
        exact finishDisabling_onRecord _ scanned healthy
      · rw [finishDownward,
          show (s.descentScanned config now).phase = .emergencyDisable from descending]
        exact finishEmergency_onRecord _ scanned
  | descentAdvance | descentHold => exact .inr (law.congr rfl rfl rfl)
  | descentExpire normal expired =>
      have disabling := Phase.disabling_of_keepsRecord kept normal
      have accused : (s.descentScanned config now).primaryFailure.stage ≠ .success := by
        intro clear
        rw [disabling, expired, show s.primaryFailure.stage = .success from clear] at accusedExpiry
        contradiction
      rw [recordStageTimeout_of_failed _ accused]
      exact .inr ⟨law.shown, rfl, fun _ => accused⟩
  | emergencyExpire descending expired =>
      have emergency : (s.descentScanned config now).phase.isEmergency = true := by
        rw [show (s.descentScanned config now).phase = .emergencyDisable from descending]
        rfl
      have scanned : OnRecord (s.descentScanned config now) failure := law.congr rfl rfl rfl
      rw [recordStageTimeout_of_failed _ (scanned.accused emergency), finishDownward,
        show (s.descentScanned config now).phase = .emergencyDisable from descending]
      exact finishEmergency_onRecord _ scanned
  | quickStop stopping => exact .inr (updateEmergencyQuickStop_onRecord law stopping)
  | acceptEnable idle => exact excluded idle rfl
  | idleAlreadyClear idle => exact excluded idle rfl
  | idleStartReset idle => exact excluded idle rfl
  | idleAlreadyDisabled idle => exact excluded idle rfl
  | idleHold idle => exact excluded idle rfl
  | enableFault axis enabling => exact excluded rfl (Phase.not_keepsRecord_of_isEnabling enabling)
  | delayPreempted delaying => exact excluded delaying rfl
  | nextBatch delaying => exact excluded delaying rfl
  | delayHold delaying => exact excluded delaying rfl
  | batchInvalid enabling => exact excluded enabling rfl
  | batchInvalidPreempted enabling => exact excluded enabling rfl
  | batchPreempted enabling => exact excluded enabling rfl
  | hardwareReady enabling => exact excluded enabling rfl
  | batchComplete enabling => exact excluded enabling rfl
  | batchExpire enabling => exact excluded enabling rfl
  | batchExpirePreempted enabling => exact excluded enabling rfl
  | batchHold enabling => exact excluded enabling rfl
  | activateFailed activating => exact excluded activating rfl
  | activatingHold activating => exact excluded activating rfl
  | heldDescend held => exact excluded rfl (Phase.not_keepsRecord_of_isHeld held)
  | heldHold held => exact excluded rfl (Phase.not_keepsRecord_of_isHeld held)
  | resetPreempted resetting => exact .inr (.of_calm law.shown rfl rfl)
  | raiseReset resetting => exact .inr (.of_calm law.shown rfl rfl)
  | resetDone => exact .inl rfl
  | resetExpire resetting unrequested expired =>
      rw [resetting, unrequested, decide_eq_true expired] at inTime
      contradiction
  | resetHold resetting => exact .inr (law.congr rfl rfl rfl)
  | failedDescend => exact .inr (.of_calm law.shown rfl rfl)
  | failedAlreadyClear => exact .inl rfl
  | failedStartReset => exact .inr (.of_calm law.shown rfl rfl)
  | failedHold => exact .inr (law.congr rfl rfl rfl)

end Controller

/-! ## Block-wise runs -/

section Moves

variable {config : Config} {s t : System} {event : Event} {late : Bool} {failure : Failure}

theorem onRecord_enable (law : OnRecord s.toController failure) (block : EnableBlock s late t) :
    OnRecord t.toController failure := by
  cases block with
  | stay => exact law
  | complete awaiting answered activating =>
      exact absurd activating (law.phase_ne rfl)
  | _ => exact law.congr rfl rfl rfl

/-- The disable callback overwrites the record only when it fails out of place. -/
theorem onRecord_disable (law : OnRecord s.toController failure)
    (inPlace : failsDeactivation s (.disable late) = true → s.phase = .jtcDeactivating)
    (block : DisableBlock s late t) : OnRecord t.toController failure := by
  have refuted (failing : failsDeactivation s (.disable late) = true) :
      OnRecord t.toController failure :=
    absurd (inPlace failing) (law.phase_ne rfl)
  cases block with
  | stay => exact law
  | takeEnabled fresh active enabled => exact absurd enabled (law.phase_ne rfl)
  | unsent calling blocked =>
      exact refuted (by simpa [failsDeactivation, calling] using blocked)
  | declined awaiting answered =>
      exact refuted (by simpa [failsDeactivation, awaiting] using answered)
  | _ => exact law.congr rfl rfl rfl

theorem onRecord_reset (law : OnRecord s.toController failure) (block : ResetBlock s late t) :
    OnRecord t.toController failure := by
  cases block <;> exact law.congr rfl rfl rfl

theorem onRecord_worker (law : OnRecord s.toController failure) (block : WorkerBlock s event t) :
    OnRecord t.toController failure := by
  cases block <;> exact law.congr rfl rfl rfl

/-- A step in place leaves the record, unless it brings the group to idle, activates the
controller anew or is excused. -/
theorem onRecord_of_step {log : Option Failure}
    (law : ∀ failure, log = some failure → OnRecord s.toController failure)
    (allowed : failsInPlace s event = true) (step : blockStep config s event = some t)
    (move : BlockMove config s event t)
    (recorded : logDriveFailure (failsItself config) s event t log = some failure) :
    OnRecord t.toController failure := by
  have unchanged (moved : OnRecord s.toController failure → OnRecord t.toController failure)
      (kept : (if t.phase = .idle ∨ t.phase = .enabled then none else log) = some failure) :
      OnRecord t.toController failure := by
    rw [Option.ite_none_left_eq_some] at kept
    exact moved (law failure kept.2)
  cases move with
  | skip now readings inactive =>
      rw [logDriveFailure, driveFailure, if_pos (by simp [inactive]), Option.none_or,
        failsItself, inactive, Bool.false_and, if_neg Bool.false_ne_true] at recorded
      exact unchanged id recorded
  | update now readings c active cycle =>
      have outcome := outcome_of_step active step
      have computed : s.toController.update config now readings = c :=
        congrArg System.toController (Option.some.inj step)
      simp only [logDriveFailure] at recorded
      cases found : driveFailure s.toController (refreshedWords readings) with
      | some started =>
          rw [found] at recorded
          cases recorded
          rw [← computed]
          exact Controller.update_onRecord found
      | none =>
          rw [found, Option.none_or, Option.ite_none_left_eq_some, Bool.not_eq_true] at recorded
          obtain ⟨quiet, kept⟩ := recorded
          rw [Option.ite_none_left_eq_some, not_or] at kept
          obtain ⟨⟨busy, -⟩, logged⟩ := kept
          have refreshed : OnRecord (s.toController.refreshStatusWords readings) failure :=
            (law failure logged).congr rfl rfl rfl
          rcases Controller.onRecord_of_outcome refreshed outcome active quiet with idle | kept
          · exact absurd idle busy
          · exact kept
  | callEnable t block | enable late t running block =>
      exact unchanged (fun law => onRecord_enable law block) recorded
  | callDisable t block fresh =>
      refine unchanged (fun law => ?_) recorded
      rcases fresh with fresh | refused
      · apply onRecord_disable law _ block
        simp [failsDeactivation, fresh]
      · exact refused ▸ law
  | disable late t running block =>
      refine unchanged (fun law => onRecord_disable law ?_ block) recorded
      intro failing
      simpa [failsInPlace, failing] using allowed
  | callReset t block | reset late t running block =>
      exact unchanged (fun law => onRecord_reset law block) recorded
  | fireWorker t block | callWorker late t block | resumeWorker late t block
  | latchRestart t block =>
      exact unchanged (fun law => onRecord_worker law block) recorded
  | controllerManager => exact unchanged (fun law => law.congr rfl rfl rfl) recorded
  | activate => cases recorded
  | deactivate => exact unchanged (fun law => .of_calm law.shown rfl rfl) recorded

end Moves

/-- In every run in which each failed deactivation of `handleDisable` is stored while the phase
is still `kJtcDeactivating`, the diagnostics keep the drive failure of the last emergency until
the group is idle again or an operation fails on its own account. -/
theorem keepsDriveFailure_of_failsInPlace (config : Config) :
    KeepsDriveFailure config (failsItself config) failsInPlace := by
  intro s failure reachable
  obtain ⟨-, law⟩ := observed_step_invariant
    (fun state log => ∀ failure, log = some failure → OnRecord state.toController failure)
    parked_configured (by simp)
    (fun _ _ law allowed step move _ recorded =>
      onRecord_of_step law allowed step move recorded) reachable
  exact (law failure rfl).shown

/-- The enabled group loses its first axis and descends to failed. -/
def failedByFault : List Event :=
  [Event.activate] ++ enableBlocks ++ [Event.enable false] ++
    [20].map (fun second => .update (1000000000 * second) (firstFaulted 0x0027)) ++
    [21, 22, 23, 24].map fun second => .update (1000000000 * second) (firstFaulted 0x0040)

/-- The drive failure is still shown in failed. -/
theorem keepsDriveFailure_of_failedByFault :
    ∃ s, Reachable (observed (blockStep defaultConfig)
        (logDriveFailure (failsItself defaultConfig))) (onState failsInPlace) (configured, none)
        (s, some { stage := .faultDetected, joint := 0, statusWord := 0x0008 }) ∧
      s.phase = .failed ∧
      s.lastFailure = { stage := .faultDetected, joint := 0, statusWord := 0x0008 } := by
  have found : (run (observed (blockStep defaultConfig)
      (logDriveFailure (failsItself defaultConfig))) (onState failsInPlace) (configured, none)
      failedByFault).any (fun current => current.1.phase = .failed &&
        current.2 = some { stage := .faultDetected, joint := 0, statusWord := 0x0008 }) = true := by
    decide +kernel
  rcases exists_reachable_of_run found with ⟨⟨s, log⟩, reachable, tested⟩
  simp only [Bool.and_eq_true, decide_eq_true_eq] at tested
  rcases tested with ⟨failed, rfl⟩
  exact ⟨s, reachable, failed, keepsDriveFailure_of_failsInPlace defaultConfig s _ reachable⟩

/-- A reset of the failed group times out and records its own failure. -/
theorem not_keepsDriveFailure_of_resetTimeout :
    ¬KeepsDriveFailure defaultConfig (fun _ _ _ => false) unguarded := by
  intro always
  have found : (run (observed (blockStep defaultConfig) (logDriveFailure fun _ _ _ => false))
      (onState unguarded) (configured, none) (failedByFault ++ [Event.callReset] ++
        [30, 31, 36].map fun second => .update (1000000000 * second) (firstFaulted 0x0040))).any
      (fun current => current.1.lastFailure.stage = .faultResetTimeout &&
        current.2 = some { stage := .faultDetected, joint := 0, statusWord := 0x0008 }) = true := by
    decide +kernel
  rcases exists_reachable_of_run found with ⟨⟨s, log⟩, reachable, tested⟩
  simp only [Bool.and_eq_true, decide_eq_true_eq] at tested
  rcases tested with ⟨replaced, rfl⟩
  have shown := always s _ reachable
  rw [shown] at replaced
  exact Stage.noConfusion replaced

end RtControl.EnableManager
