import RtControl.EnableManager.Results

/-!
# The published diagnostics and the phase

The last recorded failure is shown to the operator beside the phase.  `Diagnosed`
says phase by phase what the record and the latches of a failed JTC deactivation may
be.  It breaks only where `handleDisable` stores the result of a failed switch after
the phase has left `kJtcDeactivating` and a new enable has reached its end, which clears
the record; the enable callback checks its phase at the same place.
-/

namespace RtControl.EnableManager

open RtControl.Transition

/-! ## The property and its condition -/

/-- A failed group shows a failure and an enabled group shows none. -/
def TellsTruth (s : System) : Prop :=
  (s.phase = .failed → s.lastFailure.stage ≠ .success) ∧
    (s.phase = .enabled → s.lastFailure.stage = .success ∧ s.lastFailure.batch = -1 ∧
      s.lastFailure.joint = -1 ∧ s.lastFailure.statusWord = 0)

/-- The diagnostics tell the truth in every state of every guarded run. -/
def DiagnosticsTellTruth (config : Config) (guard : Guard System Event) : Prop :=
  ∀ s, Reachable (blockStep config) guard configured s → TellsTruth s

/-- The disable callback returns from `switchJtc` without a success. -/
def failsDeactivation (s : System) : Event → Bool
  | .disable late =>
      match s.disablePc with
      | .switch .acquire => s.switchInProgress || late
      | .switch .await => s.jtc.answer = some false || s.jtc.answer = none && late
      | _ => false
  | _ => false

/-- No deactivation fails in an enabled group, nor in one that only waits for its JTC: an
enable that has not come so far is preempted by the disable request of the failed call. -/
def failsShown : Guard System Event := fun s event =>
  !failsDeactivation s event || (s.phase ≠ .jtcActivating && s.phase ≠ .enabled)

/-! ## The law of the diagnostics -/

/-- What each phase allows for the primary stage, the shown failure, the latch of a
failed deactivation, the restart latch and a pending reset. -/
def Diagnosis (phase : Phase) (primary : Stage) (last : Failure) (refused restart reset : Bool) :
    Prop :=
  match phase with
  | .inactive => True
  | .startupSanitizing =>
      primary = .success ∧ reset = false ∧ (refused = true → restart = true)
  | .jtcActivating => primary = .success ∧ refused = false
  | .idle => refused = true → restart = true ∧ (reset = true → last.stage ≠ .success)
  | .enabled => primary = .success ∧ refused = false ∧ last = {}
  | .enabling | .interBatchDelay | .jtcDeactivating =>
      primary = .success ∧ (refused = true → restart = true ∧ last.stage ≠ .success)
  | .disabling =>
      (primary ≠ .success → last.stage ≠ .success) ∧
        (refused = true → restart = true ∧ last.stage ≠ .success)
  | .resetLow | .resetHigh =>
      reset = false ∧ (refused = true → restart = true ∧ last.stage ≠ .success)
  | .rollback | .emergencyQuickStop | .emergencyDisable | .failed =>
      last.stage ≠ .success ∧ (refused = true → restart = true)

/-- The law of the diagnostics.  An enable that is pending or running after a failed
deactivation is about to be preempted. -/
structure Diagnosed (s : Controller) : Prop where
  diagnosis : Diagnosis s.phase s.primaryFailure.stage s.lastFailure s.jtcDeactivateFailed
    s.restartRequired s.resetRequest
  requested : s.enableRequest = true → s.phase = .idle ∨ s.phase = .inactive
  pending : s.phase = .idle → s.enableRequest = true → s.jtcDeactivateFailed = true →
    s.disableRequest = true ∧ s.lastFailure.stage ≠ .success
  preempted : s.phase.isEnabling = true → s.jtcDeactivateFailed = true →
    (s.enablePreemptRequested || s.disableRequest) = true

namespace Diagnosed

variable {s t : Controller}

/-- The law at a known phase. -/
theorem at_phase (law : Diagnosed s) {phase : Phase} (current : s.phase = phase) :
    Diagnosis phase s.primaryFailure.stage s.lastFailure s.jtcDeactivateFailed s.restartRequired
      s.resetRequest :=
  current ▸ law.diagnosis

/-- Outside idle no enable is pending. -/
theorem unrequested (law : Diagnosed s) (busy : s.phase ≠ .idle) (started : s.phase ≠ .inactive) :
    s.enableRequest = false := by
  by_contra pending
  rcases law.requested (Bool.eq_true_of_not_eq_false pending) with idle | inactive
  · exact busy idle
  · exact started inactive

/-- An enable that is not preempted follows no failed deactivation. -/
theorem unrefused (law : Diagnosed s) (enabling : s.phase.isEnabling = true)
    (unpreempted : (s.enablePreemptRequested || s.disableRequest) = false) :
    s.jtcDeactivateFailed = false := by
  by_contra refused
  have preempted := law.preempted enabling (Bool.eq_true_of_not_eq_false refused)
  exact absurd (unpreempted.symm.trans preempted) Bool.false_ne_true

/-- The law of a state in which no enable is pending. -/
theorem of_unrequested (diagnosis : Diagnosis t.phase t.primaryFailure.stage t.lastFailure
      t.jtcDeactivateFailed t.restartRequired t.resetRequest)
    (unrequested : t.enableRequest = false)
    (preempted : t.phase.isEnabling = true → t.jtcDeactivateFailed = true →
      (t.enablePreemptRequested || t.disableRequest) = true) : Diagnosed t := by
  refine ⟨diagnosis, ?_, ?_, preempted⟩
  · rw [unrequested]
    nofun
  · rw [unrequested]
    nofun

/-- The law of a state in which no enable is pending or running. -/
theorem of_busy (diagnosis : Diagnosis t.phase t.primaryFailure.stage t.lastFailure
      t.jtcDeactivateFailed t.restartRequired t.resetRequest)
    (unrequested : t.enableRequest = false) (settled : t.phase.isEnabling = false) :
    Diagnosed t :=
  of_unrequested diagnosis unrequested fun enabling =>
    absurd (settled.symm.trans enabling) Bool.false_ne_true

/-- A step that keeps every member the law reads keeps the law. -/
theorem congr (law : Diagnosed s) (phase : t.phase = s.phase)
    (primary : t.primaryFailure = s.primaryFailure) (last : t.lastFailure = s.lastFailure)
    (refused : t.jtcDeactivateFailed = s.jtcDeactivateFailed)
    (restart : t.restartRequired = s.restartRequired)
    (reset : t.resetRequest = s.resetRequest)
    (enable : t.enableRequest = s.enableRequest)
    (disable : t.disableRequest = s.disableRequest)
    (preempt : (t.enablePreemptRequested || t.disableRequest) =
      (s.enablePreemptRequested || s.disableRequest)) : Diagnosed t := by
  rcases law with ⟨diagnosis, requested, pending, preempted⟩
  refine ⟨?_, ?_, ?_, ?_⟩
  · rw [phase, primary, last, refused, restart, reset]
    exact diagnosis
  · rw [phase, enable]
    exact requested
  · rw [phase, refused, enable, disable, last]
    exact pending
  · rw [phase, refused, preempt]
    exact preempted

end Diagnosed

/-- Raising the restart latch breaks no diagnosis. -/
theorem Diagnosis.restart {phase : Phase} {primary : Stage} {last : Failure}
    {refused restart reset : Bool} (diagnosis : Diagnosis phase primary last refused restart reset) :
    Diagnosis phase primary last refused true reset := by
  cases phase <;> simp_all [Diagnosis]

/-- Withdrawing the latch of a failed deactivation breaks no diagnosis. -/
theorem Diagnosis.withdraw {phase : Phase} {primary : Stage} {last : Failure}
    {refused restart reset : Bool} (diagnosis : Diagnosis phase primary last refused restart reset) :
    Diagnosis phase primary last false restart reset := by
  cases phase <;> simp_all [Diagnosis]

/-- A deactivation that fails where its record stands breaks no diagnosis. -/
theorem Diagnosis.fail {phase : Phase} {primary : Stage} {last : Failure}
    {refused restart reset : Bool} (diagnosis : Diagnosis phase primary last refused restart reset)
    (waits : phase ≠ .jtcActivating) (enabled : phase ≠ .enabled) :
    Diagnosis phase primary { stage := .jtcDeactivateFailed } true true reset := by
  cases phase <;> simp_all [Diagnosis]

/-- A failed deactivation has latched the restart. -/
theorem Diagnosis.latched {phase : Phase} {primary : Stage} {last : Failure}
    {refused restart reset : Bool} (diagnosis : Diagnosis phase primary last refused restart reset)
    (started : phase ≠ .inactive) (failed : refused = true) : restart = true := by
  cases phase <;> simp_all [Diagnosis]

/-- A class of phases without idle and inactive. -/
theorem Phase.busy_of_class {test : Phase → Bool} {phase : Phase} (passed : test phase = true)
    (idle : test .idle = false) (inactive : test .inactive = false) :
    phase ≠ .idle ∧ phase ≠ .inactive := by
  constructor
  · rintro rfl
    exact absurd (idle.symm.trans passed) Bool.false_ne_true
  · rintro rfl
    exact absurd (inactive.symm.trans passed) Bool.false_ne_true

/-- Nothing is owed to a latch that is not set. -/
theorem owed_of_unset {latch : Bool} {owed : Prop} (unset : latch = false) (set : latch = true) :
    owed :=
  absurd set (ne_true_of_eq_false unset)

/-- A preemption sampled from the request is pending beside it. -/
theorem sampled_or (preempted request : Bool) :
    ((preempted || request) || request) = (preempted || request) := by
  rw [Bool.or_assoc, Bool.or_self]

/-! ## Cycles -/

namespace Controller

variable {config : Config} {now : Int} {s t : Controller}

/-- An emergency keeps its diagnosis in the quick stop. -/
theorem diagnosed_quickStop (law : Diagnosed s) (stopping : s.phase = .emergencyQuickStop) :
    Diagnosed (s.updateEmergencyQuickStop config now) := by
  have diagnosis := law.at_phase stopping
  have unrequested := law.unrequested (by rw [stopping]; nofun) (by rw [stopping]; nofun)
  simp only [updateEmergencyQuickStop]
  split_ifs
  · exact .of_busy diagnosis unrequested rfl
  · exact law.congr rfl rfl rfl rfl rfl rfl rfl rfl rfl

/-- A new emergency shows its reason. -/
theorem diagnosed_startEmergency (latched : s.jtcDeactivateFailed = true → s.restartRequired = true)
    (unrequested : s.enableRequest = false) {stage : Stage} (failed : stage ≠ .success) (joint : Int)
    (statusWord : UInt16) : Diagnosed (s.startEmergency config now stage joint statusWord) :=
  .of_busy ⟨failed, latched⟩ unrequested rfl

theorem diagnosed_finishStartup (law : Diagnosed s) (startup : s.phase = .startupSanitizing) :
    Diagnosed (s.finishStartup (finishScan s.statusWords)) := by
  obtain ⟨clear, unreset, latched⟩ := law.at_phase startup
  have unrequested := law.unrequested (by rw [startup]; decide) (by rw [startup]; decide)
  simp only [finishStartup]
  split_ifs with failed faulted
  · exact absurd clear failed
  · have shown : Stage.faultRequiresReset ≠ .success := by decide
    exact .of_busy ⟨shown, latched⟩ unrequested rfl
  · exact .of_busy (fun refused => ⟨latched refused, owed_of_unset unreset⟩) unrequested rfl

theorem diagnosed_finishDisabling (law : Diagnosed s) (disabling : s.phase = .disabling) :
    Diagnosed (s.finishDisabling (finishScan s.statusWords)) := by
  obtain ⟨accused, refusal⟩ := law.at_phase disabling
  have unrequested := law.unrequested (by rw [disabling]; decide) (by rw [disabling]; decide)
  simp only [finishDisabling]
  split_ifs with faulted refused failed
  · have shown : Stage.faultRequiresReset ≠ .success := by decide
    exact .of_busy ⟨shown, fun refused => (refusal refused).1⟩ unrequested rfl
  · exact .of_busy ⟨(refusal refused).2, fun refused => (refusal refused).1⟩ unrequested rfl
  · exact .of_busy ⟨accused failed, fun refused => (refusal refused).1⟩ unrequested rfl
  · exact .of_busy (fun refusedNow => absurd refusedNow refused) unrequested rfl

/-- A descent that ends in failed on a fault or a latched restart keeps showing its
failure. -/
theorem diagnosed_rest (shown : t.lastFailure.stage ≠ .success)
    (latched : t.jtcDeactivateFailed = true → t.restartRequired = true)
    (unrequested : t.enableRequest = false) (faulted : Bool) :
    Diagnosed ((t.storePhase
      (if faulted || t.restartRequired then .failed else .idle)).storeOwner .none) := by
  cases ends : faulted || t.restartRequired with
  | true => exact .of_busy ⟨shown, latched⟩ unrequested rfl
  | false =>
      refine .of_busy ?_ unrequested rfl
      intro refused
      rw [latched refused, Bool.or_true] at ends
      contradiction

theorem diagnosed_finishRollback (law : Diagnosed s) (rollback : s.phase = .rollback) :
    Diagnosed (s.finishRollback (finishScan s.statusWords)) := by
  obtain ⟨shown, latched⟩ := law.at_phase rollback
  have unrequested := law.unrequested (by rw [rollback]; nofun) (by rw [rollback]; nofun)
  exact diagnosed_rest (t := s.publishEnable false s.primaryFailure) shown latched unrequested _

theorem diagnosed_finishEmergency (law : Diagnosed s) (descending : s.phase = .emergencyDisable) :
    Diagnosed (s.finishEmergency (finishScan s.statusWords)) := by
  obtain ⟨shown, latched⟩ := law.at_phase descending
  have unrequested := law.unrequested (by rw [descending]; nofun) (by rw [descending]; nofun)
  unfold finishEmergency
  apply diagnosed_rest
  · split_ifs <;> exact shown
  · split_ifs <;> exact latched
  · split_ifs <;> exact unrequested

/-- A completed descent shows why it failed. -/
theorem diagnosed_finishDownward (law : Diagnosed s) : Diagnosed s.finishDownward := by
  simp only [finishDownward]
  split
  next startup => exact diagnosed_finishStartup law startup
  next disabling => exact diagnosed_finishDisabling law disabling
  next rollback => exact diagnosed_finishRollback law rollback
  next descending => exact diagnosed_finishEmergency law descending
  next => exact law

/-- A stage timeout shows a failure. -/
theorem recordStageTimeout_shown {scan : DownwardScan}
    (accused : s.primaryFailure.stage ≠ .success → s.lastFailure.stage ≠ .success) :
    (s.recordStageTimeout scan).lastFailure.stage ≠ .success := by
  by_cases clear : s.primaryFailure.stage = .success
  · simp only [recordStageTimeout, if_pos clear]
    split_ifs <;> decide
  · rw [recordStageTimeout_of_failed scan clear]
    exact accused clear

/-- A normal descent shows the failure it has recorded. -/
theorem accused_of_normal (law : Diagnosed s) (normal : s.phase.isNormalDescent = true) :
    s.primaryFailure.stage ≠ .success → s.lastFailure.stage ≠ .success := by
  intro failed
  have diagnosis := law.diagnosis
  cases phase : s.phase <;> simp_all [Phase.isNormalDescent, Diagnosis]

theorem diagnosed_emergencyExpire {scan : DownwardScan} (law : Diagnosed s)
    (descending : s.phase = .emergencyDisable) : Diagnosed (s.recordStageTimeout scan) := by
  obtain ⟨shown, latched⟩ := law.at_phase descending
  have unrequested := law.unrequested (by rw [descending]; nofun) (by rw [descending]; nofun)
  have recorded : (s.recordStageTimeout scan).lastFailure.stage ≠ .success :=
    recordStageTimeout_shown fun _ => shown
  rcases recordStageTimeout_eq s scan with ⟨primary, last, kept⟩
  rw [kept] at recorded ⊢
  refine .of_busy ?_ unrequested (congrArg Phase.isEnabling descending)
  show Diagnosis s.phase _ _ _ _ _
  rw [descending]
  exact ⟨recorded, latched⟩

theorem monitored_phase {axis : Axis} {stage : Stage}
    (tripped : monitoredFailure s.phase s.statusWords = some (axis, stage)) :
    s.phase ≠ .idle ∧ s.phase ≠ .inactive := by
  unfold monitoredFailure at tripped
  split at tripped
  next watched => rcases watched with phase | phase | phase <;> rw [phase] <;> exact ⟨nofun, nofun⟩
  next => contradiction

/-- Every cycle keeps the law. -/
theorem diagnosed_of_outcome (law : Diagnosed s) (outcome : Outcome config now s t) :
    Diagnosed t := by
  have free {phase : Phase} (current : s.phase = phase) (busy : phase ≠ .idle)
      (started : phase ≠ .inactive) : s.enableRequest = false :=
    law.unrequested (current ▸ busy) (current ▸ started)
  cases outcome with
  | monitored axis stage tripped =>
      obtain ⟨busy, started⟩ := monitored_phase tripped
      have failed : stage ≠ .success := by
        intro success
        have refused := monitoredFailure_isOk tripped
        rw [success] at refused
        contradiction
      have emergency : Diagnosed (s.startEmergency config now stage axis.val (s.statusWords axis)) :=
        diagnosed_startEmergency (law.diagnosis.latched started) (law.unrequested busy started)
          failed axis.val (s.statusWords axis)
      exact diagnosed_quickStop emergency rfl
  | inactive => exact law
  | descentDone =>
      have scanned : Diagnosed (s.descentScanned config now) :=
        law.congr rfl rfl rfl rfl rfl rfl rfl rfl rfl
      exact diagnosed_finishDownward scanned
  | descentAdvance | descentHold => exact law.congr rfl rfl rfl rfl rfl rfl rfl rfl rfl
  | descentExpire normal expired =>
      have scanned : Diagnosed (s.descentScanned config now) :=
        law.congr rfl rfl rfl rfl rfl rfl rfl rfl rfl
      have shown : ((s.descentScanned config now).recordStageTimeout
          (downwardScan s.statusWords)).lastFailure.stage ≠ .success :=
        recordStageTimeout_shown (accused_of_normal scanned normal)
      have busy := Phase.busy_of_class normal rfl rfl
      rcases recordStageTimeout_eq (s.descentScanned config now) (downwardScan s.statusWords) with
        ⟨primary, last, kept⟩
      rw [kept] at shown ⊢
      exact .of_busy ⟨shown, law.diagnosis.latched busy.2⟩ (law.unrequested busy.1 busy.2) rfl
  | emergencyExpire descending =>
      have scanned : Diagnosed (s.descentScanned config now) :=
        law.congr rfl rfl rfl rfl rfl rfl rfl rfl rfl
      exact diagnosed_finishDownward (diagnosed_emergencyExpire scanned descending)
  | quickStop stopping => exact diagnosed_quickStop law stopping
  | acceptEnable idle requested =>
      have rests := law.at_phase idle
      have owed := law.pending idle requested
      exact .of_unrequested ⟨rfl, fun refused => ⟨(rests refused).1, (owed refused).2⟩⟩ rfl
        fun _ refused => (owed refused).1
  | idleAlreadyClear idle unrequested requested healthy =>
      have rests := law.at_phase idle
      simp only [storeOwner, setAllControlWords, targetFaults, answerAlreadyClear, publishReset,
        clearFailure]
      refine .of_busy ?_ unrequested (congrArg Phase.isEnabling idle)
      show Diagnosis s.phase _ _ _ _ _
      rw [idle]
      exact fun refused => ⟨(rests refused).1, owed_of_unset rfl⟩
  | idleStartReset idle unrequested requested faulted =>
      have rests := law.at_phase idle
      exact .of_busy ⟨rfl, fun refused => ⟨(rests refused).1, (rests refused).2 requested⟩⟩
        unrequested rfl
  | idleAlreadyDisabled idle unrequested noReset =>
      have rests := law.at_phase idle
      simp only [storeOwner, setAllControlWords, publishDisable, clearFailure]
      refine .of_busy ?_ unrequested (congrArg Phase.isEnabling idle)
      show Diagnosis s.phase _ _ _ _ _
      rw [idle]
      exact fun refused => ⟨(rests refused).1, owed_of_unset noReset⟩
  | idleHold | activatingHold | heldHold | failedHold =>
      exact law.congr rfl rfl rfl rfl rfl rfl rfl rfl rfl
  | enableFault axis enabling found =>
      have busy := Phase.busy_of_class enabling rfl rfl
      have unexpected : Stage.faultDetected ≠ .success := by decide
      exact diagnosed_startEmergency (s := { s.preemptSampled with disableRequest := false })
        (law.diagnosis.latched busy.2) (law.unrequested busy.1 busy.2) unexpected _ _
  | delayPreempted delaying =>
      obtain ⟨-, owed⟩ := law.at_phase delaying
      exact .of_busy ⟨fun failed => absurd rfl failed, owed⟩
        (free delaying (by decide) (by decide)) rfl
  | nextBatch delaying healthy unpreempted =>
      obtain ⟨clear, owed⟩ := law.at_phase delaying
      have unrefused := law.unrefused (congrArg Phase.isEnabling delaying) unpreempted
      exact .of_unrequested ⟨clear, owed⟩ (free delaying (by decide) (by decide))
        fun _ => owed_of_unset unrefused
  | delayHold | batchHold =>
      exact law.congr rfl rfl rfl rfl rfl rfl rfl rfl (sampled_or _ _)
  | resetHold => exact law.congr rfl rfl rfl rfl rfl rfl rfl rfl rfl
  | batchInvalid enabling | batchExpire enabling =>
      obtain ⟨-, owed⟩ := law.at_phase enabling
      refine .of_busy ⟨?_, fun refused => (owed refused).1⟩
        (free enabling (by decide) (by decide)) rfl
      intro success
      cases success
  | batchInvalidPreempted enabling | batchExpirePreempted enabling =>
      obtain ⟨-, owed⟩ := law.at_phase enabling
      simp only [preemptFailedEnable, recordEnableFailure, batchScanned, preemptSampled,
        startDownward, publishEnable, storeOwner]
      refine .of_busy ⟨fun _ => ?_, fun refused => ⟨(owed refused).1, ?_⟩⟩
        (free enabling (by decide) (by decide)) rfl
      all_goals
        intro success
        cases success
  | batchPreempted enabling =>
      obtain ⟨-, owed⟩ := law.at_phase enabling
      exact .of_busy ⟨fun failed => absurd rfl failed, owed⟩
        (free enabling (by decide) (by decide)) rfl
  | hardwareReady enabling healthy valid complete unpreempted =>
      obtain ⟨clear, -⟩ := law.at_phase enabling
      have unrefused := law.unrefused (congrArg Phase.isEnabling enabling) unpreempted
      exact .of_busy ⟨clear, unrefused⟩ (free enabling (by decide) (by decide)) rfl
  | batchComplete enabling healthy valid complete unpreempted =>
      obtain ⟨clear, owed⟩ := law.at_phase enabling
      have unrefused := law.unrefused (congrArg Phase.isEnabling enabling) unpreempted
      exact .of_unrequested ⟨clear, owed⟩ (free enabling (by decide) (by decide))
        fun _ => owed_of_unset unrefused
  | activateFailed activating =>
      obtain ⟨-, unrefused⟩ := law.at_phase activating
      have shown : Stage.jtcActivateFailed ≠ .success := by decide
      exact .of_busy ⟨shown, owed_of_unset unrefused⟩ (free activating (by decide) (by decide)) rfl
  | heldDescend held =>
      have clear : s.primaryFailure.stage = .success ∧ (s.jtcDeactivateFailed = true →
          s.restartRequired = true ∧ s.lastFailure.stage ≠ .success) := by
        have diagnosis := law.diagnosis
        cases phase : s.phase <;> simp_all [Phase.isHeld, Diagnosis]
      have busy := Phase.busy_of_class held rfl rfl
      exact .of_busy ⟨fun failed => absurd clear.1 failed, clear.2⟩
        (law.unrequested busy.1 busy.2) rfl
  | resetPreempted resetting =>
      have refusal : s.jtcDeactivateFailed = true →
          s.restartRequired = true ∧ s.lastFailure.stage ≠ .success := by
        have diagnosis := law.diagnosis
        cases phase : s.phase <;> simp_all [Phase.isReset, Diagnosis]
      have busy := Phase.busy_of_class resetting rfl rfl
      simp only [setAllControlWords, publishReset, startDownward]
      exact .of_busy ⟨fun failed => absurd rfl failed, refusal⟩ (law.unrequested busy.1 busy.2) rfl
  | raiseReset resetting =>
      obtain ⟨consumed, refusal⟩ := law.at_phase resetting
      exact .of_busy ⟨consumed, refusal⟩ (free resetting (by decide) (by decide)) rfl
  | resetDone resetting =>
      obtain ⟨consumed, refusal⟩ := law.at_phase resetting
      simp only [storeOwner, storePhase, publishReset, clearFailure, resetScanned]
      exact .of_busy (fun refused => ⟨(refusal refused).1, owed_of_unset consumed⟩)
        (free resetting (by decide) (by decide)) rfl
  | resetExpire resetting =>
      obtain ⟨-, refusal⟩ := law.at_phase resetting
      simp only [storeOwner, storePhase, publishReset, recordFailure, resetScanned,
        setAllControlWords]
      have shown : Stage.faultResetTimeout ≠ .success := by decide
      exact .of_busy ⟨shown, fun refused => (refusal refused).1⟩
        (free resetting (by decide) (by decide)) rfl
  | failedDescend failed =>
      obtain ⟨shown, latched⟩ := law.at_phase failed
      exact .of_busy ⟨fun _ => shown, fun refused => ⟨latched refused, shown⟩⟩
        (free failed (by decide) (by decide)) rfl
  | failedAlreadyClear failed =>
      obtain ⟨-, latched⟩ := law.at_phase failed
      simp only [storeOwner, storePhase, setAllControlWords, targetFaults, answerAlreadyClear,
        publishReset, clearFailure]
      exact .of_busy (fun refused => ⟨latched refused, owed_of_unset rfl⟩)
        (free failed (by decide) (by decide)) rfl
  | failedStartReset failed =>
      obtain ⟨shown, latched⟩ := law.at_phase failed
      exact .of_busy ⟨rfl, fun refused => ⟨latched refused, shown⟩⟩ (free failed (by decide) (by decide)) rfl

end Controller

/-! ## Block-wise runs -/

section Moves

variable {config : Config} {s t : System} {event : Event} {late : Bool}

theorem diagnosed_enable (law : Diagnosed s.toController) (block : EnableBlock s late t) :
    Diagnosed t.toController := by
  cases block with
  | stay => exact law
  | accept fresh active running resting free =>
      -- The restart latch is down, so no deactivation has failed.
      have unrefused : s.jtcDeactivateFailed = false := by
        by_contra refused
        have latched := law.at_phase resting (Bool.eq_true_of_not_eq_false refused)
        exact absurd (running.symm.trans latched.1) nofun
      exact ⟨law.diagnosis, fun _ => Or.inl resting,
        fun _ _ refused => absurd (unrefused.symm.trans refused) nofun, law.preempted⟩
  | complete awaiting answered activating =>
      obtain ⟨clear, unrefused⟩ := law.at_phase activating
      have unrequested := law.unrequested (by rw [activating]; nofun) (by rw [activating]; nofun)
      exact .of_busy ⟨clear, unrefused, rfl⟩ unrequested rfl
  | unsent | lapse => exact ⟨law.diagnosis.restart, law.requested, law.pending, law.preempted⟩
  | _ => exact law.congr rfl rfl rfl rfl rfl rfl rfl rfl rfl

/-- The disable callback keeps the law when its failures are stored where they are shown. -/
theorem diagnosed_disable (law : Diagnosed s.toController)
    (shown : failsDeactivation s (.disable late) = true →
      s.phase ≠ .jtcActivating ∧ s.phase ≠ .enabled)
    (block : DisableBlock s late t) : Diagnosed t.toController := by
  have latches (down : s.phase ≠ .jtcActivating ∧ s.phase ≠ .enabled) :
      Diagnosed { s.toController with
        jtcDeactivateFailed := true
        restartRequired := true
        lastFailure := { stage := .jtcDeactivateFailed }
        disableRequest := true } :=
    ⟨law.diagnosis.fail down.1 down.2, law.requested, fun _ _ _ => ⟨rfl, nofun⟩,
      fun _ _ => Bool.or_true _⟩
  cases block with
  | stay => exact law
  | preempt | take =>
      exact ⟨law.diagnosis.withdraw, law.requested, fun _ _ => nofun, fun _ => nofun⟩
  | takeEnabled fresh active enabled free =>
      obtain ⟨clear, -⟩ := law.at_phase enabled
      have unrequested := law.unrequested (by rw [enabled]; nofun) (by rw [enabled]; nofun)
      exact .of_busy ⟨clear, nofun⟩ unrequested rfl
  | unsent calling blocked =>
      have failing : failsDeactivation s (.disable late) = true := by
        simpa [failsDeactivation, calling] using blocked
      exact (latches (shown failing)).congr rfl rfl rfl rfl rfl rfl rfl rfl rfl
  | declined awaiting answered =>
      have failing : failsDeactivation s (.disable late) = true := by
        simpa [failsDeactivation, awaiting] using answered
      exact (latches (shown failing)).congr rfl rfl rfl rfl rfl rfl rfl rfl rfl
  | complete =>
      exact ⟨law.diagnosis, law.requested,
        fun idle requested refused => ⟨rfl, (law.pending idle requested refused).2⟩,
        fun _ _ => Bool.or_true _⟩
  | _ => exact law.congr rfl rfl rfl rfl rfl rfl rfl rfl rfl

theorem diagnosed_reset (law : Diagnosed s.toController) (block : ResetBlock s late t) :
    Diagnosed t.toController := by
  cases block with
  | stay => exact law
  | accept fresh active running resting free =>
      refine ⟨?_, law.requested, law.pending, law.preempted⟩
      rcases resting with idle | failed
      · show Diagnosis s.phase _ _ _ _ _
        rw [idle]
        intro refused
        have latched := law.at_phase idle refused
        exact absurd (running.symm.trans latched.1) nofun
      · show Diagnosis s.phase _ _ _ _ _
        rw [failed]
        exact law.at_phase failed
  | _ => exact law.congr rfl rfl rfl rfl rfl rfl rfl rfl rfl

theorem diagnosed_worker (law : Diagnosed s.toController) (block : WorkerBlock s event t) :
    Diagnosed t.toController := by
  cases block with
  | latch => exact ⟨law.diagnosis.restart, law.requested, law.pending, law.preempted⟩
  | _ => exact law.congr rfl rfl rfl rfl rfl rfl rfl rfl rfl

/-- Every allowed block step keeps the law. -/
theorem diagnosed_of_step (law : Diagnosed s.toController)
    (allowed : failsShown s event = true) (step : blockStep config s event = some t)
    (move : BlockMove config s event t) : Diagnosed t.toController := by
  cases move with
  | skip | controllerManager => exact law
  | update now readings c active cycle =>
      have refreshed : Diagnosed (s.toController.refreshStatusWords readings) :=
        law.congr rfl rfl rfl rfl rfl rfl rfl rfl rfl
      exact Controller.diagnosed_of_outcome refreshed (outcome_of_step active step)
  | callEnable t block | enable late t running block => exact diagnosed_enable law block
  | callDisable t block fresh =>
      rcases fresh with fresh | refused
      · apply diagnosed_disable law _ block
        simp [failsDeactivation, fresh]
      · exact refused ▸ law
  | disable late t running block =>
      apply diagnosed_disable law _ block
      intro failing
      simpa [failsShown, failing] using allowed
  | callReset t block | reset late t running block => exact diagnosed_reset law block
  | fireWorker t block | callWorker late t block | resumeWorker late t block
  | latchRestart t block => exact diagnosed_worker law block
  | activate => exact ⟨⟨rfl, rfl, fun refused => nomatch refused⟩, nofun, nofun, nofun⟩
  | deactivate => exact ⟨trivial, fun _ => Or.inr rfl, nofun, nofun⟩

end Moves

/-- In every run in which no failed deactivation of `handleDisable` is stored in `kJtcActivating`
or in `kEnabled`, the diagnostics tell the truth. -/
theorem diagnosticsTellTruth_of_failsShown (config : Config) :
    DiagnosticsTellTruth config failsShown := by
  intro s reachable
  have initial : Diagnosed configured.toController := ⟨trivial, nofun, nofun, nofun⟩
  obtain ⟨-, law⟩ := block_step_invariant (fun state => Diagnosed state.toController)
    parked_configured initial
    (fun _ _ law allowed step move => diagnosed_of_step law allowed step move) reachable
  constructor
  · intro failed
    exact (law.at_phase failed).1
  · intro enabled
    rw [(law.at_phase enabled).2.2]
    exact ⟨rfl, rfl, rfl, rfl⟩

/-- A deactivation that cannot be sent fails the group and is shown. -/
theorem diagnosticsTellTruth_of_unsentDeactivation :
    ∃ s, Reachable (blockStep defaultConfig) failsShown configured s ∧ s.phase = .failed ∧
      s.lastFailure.stage ≠ .success := by
  have found : (run (blockStep defaultConfig) failsShown configured
      ([Event.activate] ++ enableBlocks ++ [Event.enable false, .callDisable, .disable true] ++
        cycles 0x0027 [20] ++ cycles 0x0040 [21, 22, 23, 24])).any
      (fun s => s.phase = .failed) = true := by
    rfl
  obtain ⟨s, reachable, failed⟩ := exists_reachable_of_run found
  rw [decide_eq_true_eq] at failed
  obtain ⟨shown, -⟩ := diagnosticsTellTruth_of_failsShown defaultConfig s reachable
  exact ⟨s, reachable, failed, shown failed⟩

/-- A disable call is held up before its switch; an emergency brings the group back to
idle and a second enable runs up to its own switch, which makes the old call fail.
The second enable completes and clears the record, and the old request descends. -/
def staleDeactivation : List Event :=
  [Event.activate] ++ enableBlocks ++ [Event.enable false, .callDisable] ++
    cycles 0x0008 [20] ++ cycles 0x0040 [21, 22, 23, 24] ++
    [Event.fireWorker, .callWorker false, .controllerManager true true, .resumeWorker false,
      .callEnable] ++
    cycles 0x0040 [30] ++ cycles 0x0027 [31, 32, 33, 34, 35, 36, 37, 38, 39] ++
    [Event.enable false, .enable false, .disable false, .controllerManager true true,
      .enable false] ++
    cycles 0x0027 [40] ++ cycles 0x0040 [41, 42, 43, 44]

/-- The group ends in failed and shows a success. -/
theorem not_diagnosticsTellTruth_of_staleDeactivation :
    ¬DiagnosticsTellTruth defaultConfig unguarded := by
  intro always
  have found : (run (blockStep defaultConfig) unguarded configured staleDeactivation).any
      (fun s => s.phase = .failed && s.lastFailure.stage = .success) = true := by
    rfl
  obtain ⟨s, reachable, shown⟩ := exists_reachable_of_run found
  simp only [Bool.and_eq_true, decide_eq_true_eq] at shown
  exact (always s reachable).1 shown.1 shown.2

end RtControl.EnableManager
