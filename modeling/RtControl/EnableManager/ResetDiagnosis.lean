import RtControl.EnableManager.Reports
import RtControl.EnableManager.Terminal
import RtControl.EnableManager.Words

/-!
# The axis behind a required reset

`fault_requires_reset` is diagnosed when a descent completes and when one of its stages
expires.  The completion names the first faulted axis.  The expiry takes the stage from any
faulted axis and the joint from the first axis that is neither faulted nor terminal.
-/

namespace RtControl.EnableManager

open RtControl.Transition

/-! ## The property and its condition -/

/-- A diagnosis that requires a reset names a faulted axis and its status word. -/
def Failure.NamesFault (words : Words) (failure : Failure) : Prop :=
  failure.stage = .faultRequiresReset →
    ∃ axis : Axis, failure.joint = axis.val ∧ failure.statusWord = words axis ∧
      isFaultState (decodeState (words axis)) = true

/-- Every published result and the recorded failure name a faulted axis if they require a
reset. -/
structure FaultsNamed (words : Words) (s : Controller) : Prop where
  enable : s.enableResult.failure.NamesFault words
  disable : s.disableResult.failure.NamesFault words
  reset : s.resetResult.failure.NamesFault words
  last : s.lastFailure.NamesFault words

/-- No result and no failure record comes to require a reset. -/
structure RequiresNoReset (s t : Controller) : Prop where
  enable : t.enableResult.stage = .faultRequiresReset →
    s.enableResult.stage = .faultRequiresReset
  disable : t.disableResult.stage = .faultRequiresReset →
    s.disableResult.stage = .faultRequiresReset
  reset : t.resetResult.stage = .faultRequiresReset →
    s.resetResult.stage = .faultRequiresReset
  last : t.lastFailure.stage = .faultRequiresReset →
    s.lastFailure.stage = .faultRequiresReset
  primary : t.primaryFailure.stage = .faultRequiresReset →
    s.primaryFailure.stage = .faultRequiresReset

/-- A cycle names a faulted axis of its own status words in whatever it reports, and no
other step requires a reset. -/
def NamesFaultedAxis (config : Config) (s : System) (event : Event) (t : System) : Prop :=
  match event with
  | .update now readings =>
      FaultsNamed (refreshedWords readings) (s.toController.reports config now readings)
  | _ => RequiresNoReset s.toController t.toController

/-- The cycle sees a stage of a descent expire, with no failure recorded, while an axis is
faulted. -/
def expiresWithFault (config : Config) (now : Int) (s : Controller) (words : Words) : Bool :=
  s.active && s.phase.isDownward && s.primaryFailure.stage = .success &&
    s.descentExpires config now words && anyFault words

/-- No stage of a descent expires undiagnosed while an axis is faulted. -/
def expiresFaultless (config : Config) : Guard System Event := fun s event =>
  match event with
  | .update now readings =>
      !expiresWithFault config now s.toController (refreshedWords readings)
  | _ => true

/-! ## What a cycle reports -/

/-- The reports of a cycle name faulted axes, and no required reset is left to publish. -/
structure Naming (words : Words) (s : Controller) : Prop extends FaultsNamed words s where
  primary : s.primaryFailure.stage ≠ .faultRequiresReset

theorem namesFault_of_stage {words : Words} {failure : Failure}
    (other : failure.stage ≠ .faultRequiresReset) : failure.NamesFault words :=
  fun required => absurd required other

namespace Naming

variable {words : Words} {s t : Controller} {config : Config} {now : Int}

theorem congr (naming : Naming words s) (enable : t.enableResult = s.enableResult)
    (disable : t.disableResult = s.disableResult) (reset : t.resetResult = s.resetResult)
    (primary : t.primaryFailure = s.primaryFailure) (last : t.lastFailure = s.lastFailure) :
    Naming words t := by
  rcases naming with ⟨⟨enabled, disabled, cleared, latest⟩, unlatched⟩
  exact ⟨⟨by rw [enable]; exact enabled, by rw [disable]; exact disabled,
    by rw [reset]; exact cleared, by rw [last]; exact latest⟩, by rw [primary]; exact unlatched⟩

theorem recordFailure (naming : Naming words s) {failure : Failure}
    (names : failure.NamesFault words) : Naming words (s.recordFailure failure) :=
  ⟨⟨naming.enable, naming.disable, naming.reset, names⟩, naming.primary⟩

theorem publishEnable (naming : Naming words s) (ok : Bool) {failure : Failure}
    (names : failure.NamesFault words) : Naming words (s.publishEnable ok failure) :=
  ⟨⟨names, naming.disable, naming.reset, naming.last⟩, naming.primary⟩

theorem publishDisable (naming : Naming words s) (ok : Bool) {failure : Failure}
    (names : failure.NamesFault words) : Naming words (s.publishDisable ok failure) :=
  ⟨⟨naming.enable, names, naming.reset, naming.last⟩, naming.primary⟩

theorem publishReset (naming : Naming words s) (ok : Bool) {failure : Failure}
    (names : failure.NamesFault words) : Naming words (s.publishReset ok failure) :=
  ⟨⟨naming.enable, naming.disable, names, naming.last⟩, naming.primary⟩

/-- Another failure replaces both records. -/
theorem accuse (naming : Naming words s) {failure : Failure}
    (other : failure.stage ≠ .faultRequiresReset) :
    Naming words { s with primaryFailure := failure, lastFailure := failure } :=
  ⟨⟨naming.enable, naming.disable, naming.reset, namesFault_of_stage other⟩, other⟩

theorem startEmergency (naming : Naming words s) {stage : Stage}
    (other : stage ≠ .faultRequiresReset) (joint : Int) (statusWord : UInt16) :
    Naming words (s.startEmergency config now stage joint statusWord) :=
  ⟨⟨naming.enable, naming.disable, naming.reset, namesFault_of_stage other⟩, other⟩

theorem recordEnableFailure (naming : Naming words s) {stage : Stage}
    (other : stage ≠ .faultRequiresReset) (joint : Int) :
    Naming words (s.recordEnableFailure stage joint) :=
  naming.accuse other

theorem withdraw (naming : Naming words s) :
    Naming words { s with primaryFailure := { s.primaryFailure with stage := .success } } :=
  ⟨⟨naming.enable, naming.disable, naming.reset, naming.last⟩, by simp⟩

/-- The diagnosis of a completed descent names the first faulted axis. -/
theorem firstFault_namesFault {words : Words} (faulted : (finishScan words).anyFault = true) :
    Failure.NamesFault words {
      stage := .faultRequiresReset
      joint := (finishScan words).firstFault
      statusWord := wordAt words (finishScan words).firstFault } := by
  intro _
  rw [finishScan_anyFault, anyFault, List.any_eq_true] at faulted
  rw [finishScan_firstFault, firstFaultedAxis]
  cases found : axes.find? fun axis => isFaultState (decodeState (words axis)) with
  | none =>
      rcases faulted with ⟨axis, inside, fault⟩
      exact absurd fault (List.find?_eq_none.mp found axis inside)
  | some axis =>
      have fault := List.find?_some found
      exact ⟨axis, rfl, wordAt_axis words axis, fault⟩

theorem finishDownward (naming : Naming words s) (sampled : s.statusWords = words) :
    Naming words s.finishDownward := by
  have latched : s.primaryFailure.NamesFault words := namesFault_of_stage naming.primary
  simp only [Controller.finishDownward]
  split
  · simp only [Controller.finishStartup]
    split_ifs with failed faulted
    · exact naming.congr rfl rfl rfl rfl rfl
    · have names := firstFault_namesFault faulted
      rw [sampled] at names ⊢
      exact (naming.recordFailure names).congr rfl rfl rfl rfl rfl
    · exact naming.congr rfl rfl rfl rfl rfl
  · simp only [Controller.finishDisabling]
    split_ifs with faulted refused failed
    · have names := firstFault_namesFault faulted
      rw [sampled] at names ⊢
      exact ((naming.publishDisable false names).recordFailure names).congr rfl rfl rfl rfl rfl
    · have names : Failure.NamesFault words { stage := .jtcDeactivateFailed } :=
        namesFault_of_stage (by decide)
      exact (naming.publishDisable false names).congr rfl rfl rfl rfl rfl
    · exact (naming.publishDisable false latched).congr rfl rfl rfl rfl rfl
    · have names : Failure.NamesFault words { stage := .success } :=
        namesFault_of_stage (by decide)
      exact ((naming.recordFailure names).publishDisable true names).congr rfl rfl rfl rfl rfl
  · exact (naming.publishEnable false latched).congr rfl rfl rfl rfl rfl
  · simp only [Controller.finishEmergency]
    split_ifs
    all_goals first
      | exact (naming.publishEnable false latched).congr rfl rfl rfl rfl rfl
      | exact (naming.publishDisable false latched).congr rfl rfl rfl rfl rfl
      | exact naming.congr rfl rfl rfl rfl rfl
  · exact naming

end Naming

/-! ## The expiry of a stage -/

theorem DownwardScan.foldl_anyFault (words : Words) (group : List Axis) (scan : DownwardScan) :
    (group.foldl (DownwardScan.visit words) scan).anyFault =
      (scan.anyFault || group.any fun axis => isFaultState (decodeState (words axis))) := by
  induction group generalizing scan with
  | nil => simp
  | cons axis group ih =>
      rw [List.foldl_cons, ih, List.any_cons, ← Bool.or_assoc]
      congr 1
      simp only [visit]
      split_ifs <;> cases decodeState (words axis) <;> simp [visitState, isFaultState]

/-- The descent scan reports a fault exactly when some axis is faulted. -/
theorem downwardScan_anyFault (words : Words) : (downwardScan words).anyFault = anyFault words := by
  rw [downwardScan, DownwardScan.foldl_anyFault, anyFault]
  simp

namespace Controller

variable {config : Config} {now : Int} {s : Controller} {words : Words}

/-- Without a fault the expiry of a stage is a timeout of the disable. -/
theorem naming_recordStageTimeout (naming : Naming words s) (sampled : s.statusWords = words)
    (faultless : s.primaryFailure.stage = .success → anyFault words = false) :
    Naming words (s.recordStageTimeout (downwardScan s.statusWords)) := by
  rw [recordStageTimeout_scan]
  by_cases clear : s.primaryFailure.stage = .success
  · rw [if_pos clear]
    have timeout : stageTimeoutStage s.statusWords = .disableTimeout := by
      rw [stageTimeoutStage, downwardScan_anyFault, sampled, faultless clear]
      rfl
    rw [timeout]
    exact ⟨⟨naming.enable, naming.disable, naming.reset, namesFault_of_stage (by simp)⟩, by simp⟩
  · rw [if_neg clear]
    exact naming

/-- A descent cycle that expires. -/
theorem updateDescent_of_expires
    (expired : s.descentExpires config now s.statusWords = true) :
    s.updateDescent config now =
      (s.descentScanned config now).expireStage config now (downwardScan s.statusWords) := by
  have unreached := not_terminal_of_expires expired
  simp only [descentExpires, unreached, Bool.and_eq_true, Bool.not_eq_true',
    decide_eq_true_eq] at expired
  rcases expired with ⟨⟨-, waits⟩, late⟩
  rw [updateDescent_eq]
  simp only [updateDownward, unreached, waits, late, if_true, Bool.false_eq_true, and_false,
    if_false]
  rfl

/-- The deadline branch names an axis that is not faulted. -/
theorem stageTimeoutAxis_of_expires (expired : s.descentExpires config now s.statusWords = true) :
    ∃ axis : Axis, stageTimeoutAxis s.statusWords = axis.val ∧
      isFaultState (decodeState (s.statusWords axis)) = false := by
  rcases exists_lowestStuck (not_terminal_of_expires expired) with ⟨axis, named, lowest⟩
  have stuck := lowest.stuck
  simp only [isStuck, Bool.and_eq_true, Bool.not_eq_true'] at stuck
  refine ⟨axis, ?_, stuck.2⟩
  have found : ¬((downwardScan s.statusWords).firstNonterminal < 0 ∧
      (downwardScan s.statusWords).anyFault = true) := by
    rw [named]
    omega
  rw [stageTimeoutAxis, if_neg found, named]

/-- Every cycle that sees no expiry with a fault names faulted axes. -/
theorem naming_of_outcome {t : Controller} (naming : Naming words s)
    (sampled : s.statusWords = words)
    (faultless : s.phase.isDownward = true → s.primaryFailure.stage = .success →
      s.descentExpires config now s.statusWords = true → anyFault words = false)
    (outcome : Outcome config now s t) : Naming words t := by
  have shown (stage : Stage) (other : stage ≠ .faultRequiresReset) :
      Failure.NamesFault words { stage } := namesFault_of_stage other
  have scanned : Naming words s.batchScanned := naming.congr rfl rfl rfl rfl rfl
  have delayed : Naming words s.delayScanned := naming.congr rfl rfl rfl rfl rfl
  have descended : Naming words (s.descentScanned config now) := naming.congr rfl rfl rfl rfl rfl
  have resetting : Naming words s.resetScanned := naming.congr rfl rfl rfl rfl rfl
  have cleared (u : Controller) (kept : Naming words u) : Naming words u.clearFailure :=
    kept.recordFailure (shown .success (by decide))
  cases outcome with
  | monitored axis stage tripped =>
      have accused : Naming words (s.startEmergency config now stage axis.val
          (s.statusWords axis)) := by
        apply naming.startEmergency
        rcases monitoredFailure_stage tripped with rfl | rfl <;> decide
      simp only [updateEmergencyQuickStop]
      split_ifs <;> exact accused.congr rfl rfl rfl rfl rfl
  | inactive => exact naming
  | descentDone => exact descended.finishDownward sampled
  | descentAdvance | descentHold => exact naming.congr rfl rfl rfl rfl rfl
  | descentExpire normal expired =>
      have recorded := naming_recordStageTimeout descended sampled
        fun clear => faultless (by simp [Phase.isDownward, normal]) clear expired
      exact recorded.congr rfl rfl rfl rfl rfl
  | emergencyExpire descending expired =>
      have recorded := naming_recordStageTimeout descended sampled
        fun clear => faultless (by simp [Phase.isDownward, descending]) clear expired
      refine recorded.finishDownward ?_
      rcases (s.descentScanned config now).recordStageTimeout_eq (downwardScan s.statusWords)
        with ⟨_, _, same⟩
      exact (congrArg Controller.statusWords same).trans sampled
  | quickStop =>
      simp only [updateEmergencyQuickStop]
      split_ifs <;> exact naming.congr rfl rfl rfl rfl rfl
  | acceptEnable =>
      exact ⟨⟨naming.enable, naming.disable, naming.reset, naming.last⟩, by simp⟩
  | idleAlreadyClear | failedAlreadyClear =>
      have answered := (cleared s naming).publishReset true (shown .alreadyClear (by decide))
      exact answered.congr rfl rfl rfl rfl rfl
  | idleStartReset | failedStartReset | raiseReset => exact naming.congr rfl rfl rfl rfl rfl
  | idleAlreadyDisabled =>
      have answered := (cleared s naming).publishDisable true (shown .alreadyDisabled (by decide))
      exact answered.congr rfl rfl rfl rfl rfl
  | idleHold | activatingHold | heldHold | failedHold => exact naming.congr rfl rfl rfl rfl rfl
  | enableFault axis =>
      have dropped : Naming words { s.preemptSampled with disableRequest := false } :=
        naming.congr rfl rfl rfl rfl rfl
      exact dropped.startEmergency (by decide) axis.val _
  | delayPreempted =>
      have answered := delayed.publishEnable false (shown .preemptedByDisable (by decide))
      exact answered.withdraw.congr rfl rfl rfl rfl rfl
  | nextBatch | delayHold => exact delayed.congr rfl rfl rfl rfl rfl
  | batchInvalid | batchExpire =>
      exact (scanned.recordEnableFailure (by decide) _).congr rfl rfl rfl rfl rfl
  | batchInvalidPreempted =>
      have accused : Naming words (s.batchScanned.recordEnableFailure .enableInvalidState
          (enableScan s.currentBatch s.statusWords).invalidAxis) :=
        scanned.recordEnableFailure (by decide) _
      exact (accused.publishEnable false (namesFault_of_stage accused.primary)).congr rfl rfl rfl
        rfl rfl
  | batchPreempted =>
      have answered := scanned.publishEnable false (shown .preemptedByDisable (by decide))
      exact answered.withdraw.congr rfl rfl rfl rfl rfl
  | hardwareReady | batchComplete | batchHold => exact scanned.congr rfl rfl rfl rfl rfl
  | batchExpirePreempted =>
      have accused : Naming words (s.batchScanned.recordEnableFailure .enableBatchTimeout
          (timedOutAxis s.currentBatch s.statusWords)) :=
        scanned.recordEnableFailure (by decide) _
      have answered := accused.publishEnable false (namesFault_of_stage accused.primary)
      exact answered.withdraw.congr rfl rfl rfl rfl rfl
  | activateFailed =>
      have accused : Naming words { s with
          primaryFailure := { stage := .jtcActivateFailed }
          lastFailure := { stage := .jtcActivateFailed } } := naming.accuse (by decide)
      exact accused.congr rfl rfl rfl rfl rfl
  | heldDescend | failedDescend => exact naming.congr rfl rfl rfl rfl rfl
  | resetPreempted =>
      have answered := naming.publishReset false (shown .preemptedByDisable (by decide))
      exact answered.withdraw.congr rfl rfl rfl rfl rfl
  | resetDone =>
      have answered := (cleared _ resetting).publishReset true (shown .success (by decide))
      exact answered.congr rfl rfl rfl rfl rfl
  | resetExpire =>
      have timeout : s.resetTimeoutFailure.NamesFault words :=
        namesFault_of_stage (by simp [resetTimeoutFailure])
      exact ((resetting.recordFailure timeout).publishReset false timeout).congr rfl rfl rfl rfl
        rfl
  | resetHold => exact resetting

/-- The end of an emergency descent records nothing. -/
theorem finishDownward_lastFailure (emergency : s.phase = .emergencyDisable) :
    s.finishDownward.lastFailure = s.lastFailure := by
  simp only [finishDownward, emergency, finishEmergency]
  split_ifs <;> rfl

/-- An expired stage leaves what it has recorded. -/
theorem expireStage_lastFailure (scan : DownwardScan) :
    (s.expireStage config now scan).lastFailure = (s.recordStageTimeout scan).lastFailure := by
  simp only [expireStage]
  split_ifs with normal
  · rfl
  · exact finishDownward_lastFailure (not_not.mp normal)

theorem recordStageTimeout_lastFailure (clear : s.primaryFailure.stage = .success) :
    (s.recordStageTimeout (downwardScan s.statusWords)).lastFailure.stage =
        stageTimeoutStage s.statusWords ∧
      (s.recordStageTimeout (downwardScan s.statusWords)).lastFailure.joint =
        stageTimeoutAxis s.statusWords := by
  rw [recordStageTimeout_scan, if_pos clear]
  exact ⟨rfl, rfl⟩

/-- An expiry with a fault records a joint that is not faulted. -/
theorem not_faultsNamed_of_expires (clear : s.primaryFailure.stage = .success)
    (expired : s.descentExpires config now s.statusWords = true)
    (faulted : anyFault s.statusWords = true) :
    ¬FaultsNamed s.statusWords (s.updateDescent config now) := by
  intro named
  rcases stageTimeoutAxis_of_expires expired with ⟨axis, joint, healthy⟩
  have required : stageTimeoutStage s.statusWords = .faultRequiresReset := by
    rw [stageTimeoutStage, downwardScan_anyFault, faulted]
    rfl
  have recorded := recordStageTimeout_lastFailure (s := s.descentScanned config now) clear
  have last := named.last
  rw [updateDescent_of_expires expired, expireStage_lastFailure] at last
  rcases last (recorded.1.trans required) with ⟨other, same, -, fault⟩
  have identical : other = axis := by
    have joints := same.symm.trans (recorded.2.trans joint)
    exact Fin.ext (by omega)
  rw [identical, healthy] at fault
  cases fault

end Controller

/-! ## The other steps -/

section Steps

variable {config : Config} {s t : System} {late : Bool}

theorem requiresNoReset_of_same {s t : Controller}
    (enable : t.enableResult.stage = s.enableResult.stage)
    (disable : t.disableResult.stage = s.disableResult.stage)
    (reset : t.resetResult.stage = s.resetResult.stage)
    (last : t.lastFailure.stage = s.lastFailure.stage)
    (primary : t.primaryFailure = s.primaryFailure) : RequiresNoReset s t :=
  ⟨fun stage => enable ▸ stage, fun stage => disable ▸ stage, fun stage => reset ▸ stage,
    fun stage => last ▸ stage, fun stage => primary ▸ stage⟩

/-- The callback of an enable records and publishes a success only. -/
theorem requiresNoReset_enableStep :
    RequiresNoReset s.toController (s.enableStep late).toController := by
  cases pc : s.enablePc with
  | switch inner =>
      rcases switchStep_frame s late true inner with ⟨switchInProgress, jtc, switched⟩
      cases inner with
      | returned result =>
          cases result <;> simp only [System.enableStep, pc] <;>
            exact requiresNoReset_of_same rfl rfl rfl rfl rfl
      | _ =>
          simp only [System.enableStep, pc, switched]
          exact requiresNoReset_of_same rfl rfl rfl rfl rfl
  | wait inner =>
      cases inner <;> simp only [System.enableStep, pc] <;>
        exact requiresNoReset_of_same rfl rfl rfl rfl rfl
  | clearFailure field =>
      simp only [System.enableStep, pc]
      cases field with
      | stage => exact ⟨id, id, id, by simp [Failure.setField], id⟩
      | _ => exact requiresNoReset_of_same rfl rfl rfl rfl rfl
  | publish field =>
      simp only [System.enableStep, pc]
      cases field with
      | stage => exact ⟨by simp [ResultSlot.setField, Controller.published], id, id, id, id⟩
      | _ => exact requiresNoReset_of_same rfl rfl rfl rfl rfl
  | _ =>
      simp only [System.enableStep, pc]
      try split_ifs
      all_goals exact requiresNoReset_of_same rfl rfl rfl rfl rfl

/-- The callback of a disable records a refused deactivation only. -/
theorem requiresNoReset_disableStep :
    RequiresNoReset s.toController (s.disableStep late).toController := by
  cases pc : s.disablePc with
  | switch inner =>
      rcases switchStep_frame s late false inner with ⟨switchInProgress, jtc, switched⟩
      cases inner with
      | returned result =>
          cases result <;> simp only [System.disableStep, pc] <;>
            exact requiresNoReset_of_same rfl rfl rfl rfl rfl
      | _ =>
          simp only [System.disableStep, pc, switched]
          exact requiresNoReset_of_same rfl rfl rfl rfl rfl
  | wait inner =>
      cases inner <;> simp only [System.disableStep, pc] <;>
        exact requiresNoReset_of_same rfl rfl rfl rfl rfl
  | recordFailure field =>
      simp only [System.disableStep, pc]
      cases field with
      | stage => exact ⟨id, id, id, by simp [Failure.setField], id⟩
      | _ => exact requiresNoReset_of_same rfl rfl rfl rfl rfl
  | _ =>
      simp only [System.disableStep, pc]
      try split_ifs
      all_goals exact requiresNoReset_of_same rfl rfl rfl rfl rfl

/-- The callback of a reset publishes and records nothing. -/
theorem requiresNoReset_resetStep :
    RequiresNoReset s.toController (s.resetStep late).toController := by
  cases pc : s.resetPc with
  | wait inner =>
      cases inner <;> simp only [System.resetStep, pc] <;>
        exact requiresNoReset_of_same rfl rfl rfl rfl rfl
  | _ =>
      simp only [System.resetStep, pc]
      try split_ifs
      all_goals exact requiresNoReset_of_same rfl rfl rfl rfl rfl

end Steps

/-- A step other than a cycle requires no reset. -/
theorem requiresNoReset_of_step {config : Config} {s t : System} {event : Event}
    (step : atomicStep config s event = some t)
    (aside : ∀ now readings, event ≠ .update now readings) :
    RequiresNoReset s.toController t.toController := by
  cases event with
  | update now readings => exact absurd rfl (aside now readings)
  | callEnable =>
      cases step
      simp only [System.callEnable]
      split_ifs <;> exact requiresNoReset_of_same rfl rfl rfl rfl rfl
  | enable late =>
      rw [atomicStep, Option.ite_none_left_eq_some] at step
      cases step.2
      exact requiresNoReset_enableStep
  | callDisable =>
      cases step
      simp only [System.callDisable]
      split_ifs <;> exact requiresNoReset_of_same rfl rfl rfl rfl rfl
  | disable late =>
      rw [atomicStep, Option.ite_none_left_eq_some] at step
      cases step.2
      exact requiresNoReset_disableStep
  | callReset =>
      cases step
      simp only [System.callReset]
      split_ifs <;> exact requiresNoReset_of_same rfl rfl rfl rfl rfl
  | reset late =>
      rw [atomicStep, Option.ite_none_left_eq_some] at step
      cases step.2
      exact requiresNoReset_resetStep
  | fireWorker =>
      cases step
      simp only [System.fireWorker]
      split_ifs <;> exact requiresNoReset_of_same rfl rfl rfl rfl rfl
  | callWorker late =>
      rw [atomicStep, Option.ite_none_left_eq_some] at step
      cases step.2
      simp only [System.callWorker]
      split_ifs <;> exact requiresNoReset_of_same rfl rfl rfl rfl rfl
  | resumeWorker late =>
      rw [atomicStep, Option.ite_none_left_eq_some] at step
      cases step.2
      rcases resumeWorker_writes s late with ⟨switchInProgress, jtc, worker, failed, written⟩
      rw [written]
      exact requiresNoReset_of_same rfl rfl rfl rfl rfl
  | latchRestart =>
      rw [atomicStep, Option.ite_none_left_eq_some] at step
      cases step.2
      exact requiresNoReset_of_same rfl rfl rfl rfl rfl
  | controllerManager ok changed =>
      rcases Option.map_eq_some_iff.mp step with ⟨jtc, -, rfl⟩
      exact requiresNoReset_of_same rfl rfl rfl rfl rfl
  | activate =>
      rw [atomicStep, Option.ite_none_left_eq_some] at step
      cases step.2
      exact ⟨id, id, id, by simp [Controller.onActivate], by simp [Controller.onActivate]⟩
  | deactivate =>
      rw [atomicStep, Option.ite_none_right_eq_some] at step
      cases step.2
      exact requiresNoReset_of_same rfl rfl rfl rfl rfl

/-! ## Runs -/

/-- No required reset is left to publish. -/
def Unlatched (s : System) : Prop :=
  s.primaryFailure.stage ≠ .faultRequiresReset

section Cycles

variable {config : Config} {now : Int} {readings : Readings} {s : System}

theorem naming_reports (unlatched : Unlatched s)
    (faultless : expiresWithFault config now s.toController (refreshedWords readings) = false) :
    Naming (refreshedWords readings) (s.toController.reports config now readings) := by
  have fresh : Naming (refreshedWords readings) s.toController.unreported := by
    have unasked (failure : Failure) (mark : failure.stage = .operationInProgress) :
        failure.NamesFault (refreshedWords readings) :=
      namesFault_of_stage (by simp [mark])
    exact ⟨⟨unasked _ rfl, unasked _ rfl, unasked _ rfl, unasked _ rfl⟩, unlatched⟩
  by_cases active : s.active = true
  · have outcome := s.toController.unreported.update_outcome config now readings active
    have sampled : Naming (refreshedWords readings)
        (s.toController.unreported.refreshStatusWords readings) := fresh.congr rfl rfl rfl rfl rfl
    refine Controller.naming_of_outcome sampled rfl ?_ outcome
    intro downward clear expired
    by_contra faulted
    rw [Bool.not_eq_false] at faulted
    have seen : expiresWithFault config now s.toController (refreshedWords readings) = true := by
      simp only [expiresWithFault, Bool.and_eq_true, decide_eq_true_eq]
      exact ⟨⟨⟨⟨active, downward⟩, clear⟩, expired⟩, faulted⟩
    cases faultless.symm.trans seen
  · rw [Bool.not_eq_true] at active
    rw [Controller.reports, s.toController.unreported.update_inactive config now readings active]
    exact fresh

theorem faultsNamed_reports_iff (unlatched : Unlatched s) :
    FaultsNamed (refreshedWords readings) (s.toController.reports config now readings) ↔
      expiresWithFault config now s.toController (refreshedWords readings) = false := by
  constructor
  · intro named
    by_contra seen
    rw [Bool.not_eq_false] at seen
    simp only [expiresWithFault, Bool.and_eq_true, decide_eq_true_eq] at seen
    rcases seen with ⟨⟨⟨⟨active, downward⟩, clear⟩, expired⟩, faulted⟩
    rw [Controller.reports, Controller.update_of_downward (s := s.toController.unreported) active
      downward] at named
    exact Controller.not_faultsNamed_of_expires
      (s := s.toController.unreported.refreshStatusWords readings) clear expired faulted named
  · exact fun faultless => (naming_reports unlatched faultless).toFaultsNamed

end Cycles

section Steps

variable {config : Config} {s t : System} {event : Event}

theorem unlatched_of_step (unlatched : Unlatched s) (allowed : expiresFaultless config s event = true)
    (step : atomicStep config s event = some t) : Unlatched t := by
  by_cases cycle : ∃ now readings, event = .update now readings
  · rcases cycle with ⟨now, readings, rfl⟩
    cases step
    have faultless := (Bool.not_eq_true' _).mp allowed
    have reported := congrArg Controller.primaryFailure
      (s.toController.update_eq_reports_onto config now readings)
    have primary := (naming_reports unlatched faultless).primary
    rw [Unlatched]
    rwa [show ({ s with toController := s.toController.update config now readings } :
      System).primaryFailure = _ from reported]
  · simp only [not_exists] at cycle
    exact fun required => unlatched ((requiresNoReset_of_step step cycle).primary required)

theorem namesFaultedAxis_iff (unlatched : Unlatched s) (step : atomicStep config s event = some t) :
    NamesFaultedAxis config s event t ↔ expiresFaultless config s event = true := by
  by_cases cycle : ∃ now readings, event = .update now readings
  · rcases cycle with ⟨now, readings, rfl⟩
    simp only [NamesFaultedAxis, expiresFaultless, Bool.not_eq_true']
    exact faultsNamed_reports_iff unlatched
  · simp only [not_exists] at cycle
    have names := requiresNoReset_of_step step cycle
    cases event with
    | update now readings => exact absurd rfl (cycle now readings)
    | _ => exact iff_of_true names rfl

end Steps

/-- Every step of a run names a faulted axis in whatever requires a reset. -/
def NamingLaw (config : Config) (guard : Guard System Event) : Prop :=
  ∀ s t event, Reachable (atomicStep config) guard configured s → guard s event = true →
    atomicStep config s event = some t → NamesFaultedAxis config s event t

/-- Runs in which no stage expires undiagnosed with a faulted axis name a faulted axis in every
diagnosis that requires a reset, and a step of such a run does so exactly when it is no such
expiry. -/
theorem namingLaw_of_expiresFaultless (config : Config) :
    NamingLaw config (expiresFaultless config) ∧
      ∀ s t event, Reachable (atomicStep config) (expiresFaultless config) configured s →
        atomicStep config s event = some t →
          (NamesFaultedAxis config s event t ↔ expiresFaultless config s event = true) := by
  have unlatched {s : System}
      (reachable : Reachable (atomicStep config) (expiresFaultless config) configured s) :
      Unlatched s := by
    refine reachable.invariant Unlatched ?_ fun _ kept allowed step =>
      unlatched_of_step kept allowed step
    exact Stage.noConfusion
  constructor
  · intro s t event reachable allowed step
    exact (namesFaultedAxis_iff (unlatched reachable) step).mpr allowed
  · intro s t event reachable step
    exact namesFaultedAxis_iff (unlatched reachable) step

/-- A startup that completes with a fault names the faulted axis. -/
theorem namingLaw_of_faultedStartup :
    ∃ s t, Reachable (atomicStep defaultConfig) (expiresFaultless defaultConfig) configured s ∧
      atomicStep defaultConfig s (.update 3000000000 (firstFaulted 0x0040)) = some t ∧
      (s.toController.reports defaultConfig 3000000000 (firstFaulted 0x0040)).lastFailure.stage =
        .faultRequiresReset ∧
      NamesFaultedAxis defaultConfig s (.update 3000000000 (firstFaulted 0x0040)) t := by
  have found : (run (atomicStep defaultConfig) (expiresFaultless defaultConfig) configured
      [Event.activate, .update 1000000000 (firstFaulted 0x0040),
        .update 2000000000 (firstFaulted 0x0040)]).any
      (fun s => expiresFaultless defaultConfig s (.update 3000000000 (firstFaulted 0x0040)) &&
        (s.toController.reports defaultConfig 3000000000 (firstFaulted 0x0040)).lastFailure.stage =
          .faultRequiresReset) = true := by
    decide +kernel
  rcases exists_reachable_of_run found with ⟨s, reachable, tested⟩
  simp only [Bool.and_eq_true, decide_eq_true_eq] at tested
  rcases tested with ⟨allowed, required⟩
  exact ⟨s, _, reachable, rfl, required,
    (namingLaw_of_expiresFaultless defaultConfig).1 s _ _ reachable allowed rfl⟩

/-- A startup that expires with a fault blames an axis in Switched On. -/
theorem not_namingLaw_of_faultAndSwitchedOn : ¬NamingLaw defaultConfig unguarded := by
  intro always
  have found : (run (atomicStep defaultConfig) unguarded configured
      [Event.activate, .update 1000000000 (firstFaulted 0x0023)]).any
      (fun s =>
        ((s.toController.reports defaultConfig 10000000000 (firstFaulted 0x0023)).lastFailure.stage =
          .faultRequiresReset) &&
        ((s.toController.reports defaultConfig 10000000000 (firstFaulted 0x0023)).lastFailure.joint =
          1)) = true := by
    decide +kernel
  rcases exists_reachable_of_run found with ⟨s, reachable, tested⟩
  simp only [Bool.and_eq_true, decide_eq_true_eq] at tested
  have named : FaultsNamed (refreshedWords (firstFaulted 0x0023))
      (s.toController.reports defaultConfig 10000000000 (firstFaulted 0x0023)) :=
    always s _ (.update 10000000000 (firstFaulted 0x0023)) reachable rfl rfl
  rcases named.last tested.1 with ⟨axis, joint, -, fault⟩
  have second : axis = 1 := by
    rw [tested.2] at joint
    have value : axis.val = 1 := by omega
    exact Fin.ext value
  subst second
  revert fault
  decide +kernel

end RtControl.EnableManager
