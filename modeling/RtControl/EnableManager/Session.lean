import RtControl.EnableManager.Descent
import RtControl.EnableManager.Reports
import RtControl.EnableManager.Words

/-!
# The enable session

A session runs its batches, waits for the JTC and, when something has failed, unwinds what it
has enabled before it answers.  The failure it detects is stated here from the status words; the
outcomes of a cycle are then listed by what they mean for the session.
-/

namespace RtControl.EnableManager

open RtControl.Transition

/-! ## Detected failures -/

/-- An axis failure of the running session, as a record. -/
def enableFailure (s : Controller) (words : Words) (stage : Stage) (axis : Axis) : Failure where
  stage := stage
  batch := s.currentBatch
  joint := axis.val
  statusWord := words axis

/-- The failure a cycle detects in the session: a fault, an axis that has left the path to
Operation Enabled, or an axis that holds up an expired batch; the lowest axis each time. -/
def sessionFailure (now : Int) (s : Controller) (words : Words) : Option Failure :=
  if s.phase.isEnabling || s.phase = .jtcActivating then
    match axes.find? fun axis => isFaultState (decodeState (words axis)) with
    | some axis => some (enableFailure s words .faultDetected axis)
    | none =>
        if s.phase = .enabling then
          match axes.find? (leavesBatch s.currentBatch words) with
          | some axis => some (enableFailure s words .enableInvalidState axis)
          | none =>
              if s.stageDeadlineNs ≤ now then
                (axes.find? (holdsUpBatch s.currentBatch words)).map
                  (enableFailure s words .enableBatchTimeout)
              else none
        else none
  else none

/-- The tables list every batch in ascending order. -/
theorem batchItems_eq {batch : Nat} (known : batch < batchCount) :
    (List.range (batchSize batch)).map (batchItem batch) =
      (axes.filter fun axis =>
        !(batchRole batch axis).isPrevious && (batchRole batch axis).isCurrent).map
          fun axis => (axis.val : Int) := by
  have tables : ∀ batch < batchCount,
      (List.range (batchSize batch)).map (batchItem batch) =
        (axes.filter fun axis =>
          !(batchRole batch axis).isPrevious && (batchRole batch axis).isCurrent).map
            fun axis => (axis.val : Int) := by
    decide +kernel
  exact tables batch known

/-- An expired batch is blamed on the lowest axis that holds it up. -/
theorem timedOutAxis_eq {batch : Nat} {words : Words} {axis : Axis} (known : batch < batchCount)
    (found : axes.find? (holdsUpBatch batch words) = some axis) :
    timedOutAxis batch words = axis.val := by
  have tested : (fun axis => decide ((!(batchRole batch axis).isPrevious &&
      (batchRole batch axis).isCurrent) = true ∧
        decide (decodeState (words axis) ≠ .operationEnabled) = true)) =
      holdsUpBatch batch words := by
    funext axis
    simp [holdsUpBatch]
  have listed : ((List.range (batchSize batch)).map (batchItem batch)).find? (fun joint =>
      decodeState (wordAt words joint) ≠ .operationEnabled) = some (axis.val : Int) := by
    rw [batchItems_eq known, List.find?_map, List.find?_filter]
    simp only [Function.comp_def, wordAt_axis]
    rw [tested, found]
    rfl
  rw [timedOutAxis, listed]
  rfl

/-! ## The owner of the session -/

namespace Controller

/-- What each phase says of an ownership by the enable. -/
def sessionOwned (s : Controller) : Prop :=
  match s.phase with
  | .inactive | .emergencyQuickStop | .emergencyDisable => True
  | .idle => s.owner = .enable → s.enableRequest = true
  | .enabling | .interBatchDelay | .jtcActivating | .rollback => s.owner = .enable
  | .startupSanitizing | .enabled | .jtcDeactivating | .disabling | .resetLow | .resetHigh
  | .failed => s.owner ≠ .enable

/-- The enable owns its own phases and no other ones, in every run. -/
structure SessionOwned (s : Controller) : Prop where
  owned : s.sessionOwned
  requested : s.enableRequest = true → s.phase = .idle ∧ s.owner = .enable ∨ s.phase = .inactive

theorem SessionOwned.enable_of_phase {s : Controller} (law : s.SessionOwned) {phase : Phase}
    (current : s.phase = phase)
    (own : phase = .jtcActivating || phase.isEnabling || phase = .rollback) : s.owner = .enable := by
  have owned := law.owned
  rw [sessionOwned, current] at owned
  revert owned own
  cases phase <;> simp [Phase.isEnabling]

theorem SessionOwned.not_enable_of_held {s : Controller} (law : s.SessionOwned)
    (held : s.phase.isHeld = true) : s.owner ≠ .enable := by
  have owned := law.owned
  unfold sessionOwned at owned
  revert owned held
  cases s.phase <;> simp [Phase.isHeld]

theorem SessionOwned.not_enable_of_normal {s : Controller} (law : s.SessionOwned)
    (normal : s.phase.isNormalDescent = true) (other : s.phase ≠ .rollback) :
    s.owner ≠ .enable := by
  have owned := law.owned
  unfold sessionOwned at owned
  revert owned normal other
  cases s.phase <;> simp [Phase.isNormalDescent]

theorem SessionOwned.of_cycle {config : Config} {now : Int} {s t : Controller}
    (law : s.SessionOwned) (cycle : Cycle config now s t) : t.SessionOwned := by
  obtain ⟨owned, requested⟩ := law
  unfold sessionOwned at owned
  cases cycle with
  | monitor _ _ _ _ _ _ _ tripped entered =>
      have watched := phase_of_monitored tripped
      constructor <;> grind -linarith [sessionOwned]
  | _ => constructor <;> grind -linarith [sessionOwned]

end Controller

section Owner

variable {config : Config} {s t : System} {event : Event} {late : Bool}

theorem sessionOwned_enable (law : s.toController.SessionOwned) (block : EnableBlock s late t) :
    t.toController.SessionOwned := by
  obtain ⟨owned, requested⟩ := law
  unfold Controller.sessionOwned at owned
  cases block <;> constructor <;> grind -linarith [Controller.sessionOwned]

theorem sessionOwned_disable (law : s.toController.SessionOwned) (block : DisableBlock s late t) :
    t.toController.SessionOwned := by
  obtain ⟨owned, requested⟩ := law
  unfold Controller.sessionOwned at owned
  cases block <;> constructor <;> grind -linarith [Controller.sessionOwned]

theorem sessionOwned_reset (law : s.toController.SessionOwned) (block : ResetBlock s late t) :
    t.toController.SessionOwned := by
  obtain ⟨owned, requested⟩ := law
  unfold Controller.sessionOwned at owned
  cases block <;> constructor <;> grind -linarith [Controller.sessionOwned]

theorem sessionOwned_worker (law : s.toController.SessionOwned) (block : WorkerBlock s event t) :
    t.toController.SessionOwned := by
  obtain ⟨owned, requested⟩ := law
  cases block <;> exact ⟨owned, requested⟩

/-- Every block step keeps the owner of the session. -/
theorem sessionOwned_of_move (law : s.toController.SessionOwned)
    (move : BlockMove config s event t) : t.toController.SessionOwned := by
  cases move with
  | skip | controllerManager => exact law
  | update now readings c active cycle =>
      have refreshed : (s.toController.refreshStatusWords readings).SessionOwned :=
        ⟨law.owned, law.requested⟩
      exact refreshed.of_cycle cycle
  | callEnable t block | enable late t running block => exact sessionOwned_enable law block
  | callDisable t block | disable late t running block => exact sessionOwned_disable law block
  | callReset t block | reset late t running block => exact sessionOwned_reset law block
  | fireWorker t block | callWorker late t block | resumeWorker late t block
  | latchRestart t block => exact sessionOwned_worker law block
  | activate => exact ⟨nofun, nofun⟩
  | deactivate => exact ⟨trivial, fun _ => .inr rfl⟩

end Owner

/-! ## The cycles of the session -/

/-- Where the enable session stands. -/
inductive Session where
  | ended
  | batches
  | activating
  | unwinding
  deriving DecidableEq, Repr

/-- The session of a phase; an emergency belongs to it when it interrupted the enable. -/
def Phase.session (phase : Phase) (interrupted : Owner) : Session :=
  match phase with
  | .enabling | .interBatchDelay => .batches
  | .jtcActivating => .activating
  | .rollback => .unwinding
  | .emergencyQuickStop | .emergencyDisable =>
      if interrupted = .enable then .unwinding else .ended
  | .inactive | .startupSanitizing | .idle | .enabled | .jtcDeactivating | .disabling | .resetLow
  | .resetHigh | .failed => .ended

/-- The session a controller runs. -/
def Controller.session (s : Controller) : Session :=
  s.phase.session s.interruptedOwner

/-- A disable is pending for the session. -/
def Controller.preempted (s : Controller) : Bool :=
  s.enablePreemptRequested || s.disableRequest

/-- The current batch is complete, or the delay after it runs. -/
def Controller.completesBatch (s : Controller) (words : Words) : Bool :=
  s.phase = .interBatchDelay || axes.all fun axis => !holdsUpBatch s.currentBatch words axis

/-- The outcomes of one active cycle from a refreshed state, as the session sees them. -/
inductive SessionCycle (now : Int) (s t : Controller) : Prop
  /-- No session runs. -/
  | ended
      (before : s.session = .ended)
      (after : t.session = .ended)
      (answer : t.enableResult = s.enableResult)
  /-- A requested session starts. -/
  | accept
      (idle : s.phase = .idle)
      (requested : s.enableRequest = true)
      (after : t.phase = .enabling)
      (answer : t.enableResult = s.enableResult)
  /-- The batches go on; under a pending disable the batch stays until its deadline. -/
  | advance
      (before : s.session = .batches)
      (after : t.session = .batches)
      (clean : sessionFailure now s s.statusWords = none)
      (sampled : t.enablePreemptRequested = s.preempted)
      (batch : t.currentBatch = s.currentBatch ∧ now < s.stageDeadlineNs ∨ s.preempted = false)
      (answer : t.enableResult = s.enableResult)
  /-- The batches are complete. -/
  | ready
      (before : s.session = .batches)
      (after : t.phase = .jtcActivating)
      (clean : sessionFailure now s s.statusWords = none)
      (unpreempted : s.preempted = false)
      (answer : t.enableResult = s.enableResult)
  /-- A pending disable takes over from a complete batch or from the delay after it. -/
  | preempt
      (before : s.session = .batches)
      (after : t.phase = .disabling)
      (clean : sessionFailure now s s.statusWords = none)
      (complete : s.completesBatch s.statusWords = true)
      (preempted : s.preempted = true)
      (answer : t.enableResult = Controller.published false { stage := .preemptedByDisable })
  /-- A pending disable takes over from failed batches, which answer at once. -/
  | failPreempted (failure : Failure)
      (before : s.session = .batches)
      (after : t.phase = .disabling)
      (detected : sessionFailure now s s.statusWords = some failure)
      (preempted : s.preempted = true)
      (answer : t.enableResult = Controller.published false failure)
  /-- The session fails and unwinds; under a pending disable it does so by the emergency. -/
  | fail (failure : Failure)
      (before : s.session = .batches ∨ s.session = .activating)
      (after : t.session = .unwinding)
      (stops : s.session = .batches → s.preempted = true → t.phase = .emergencyQuickStop)
      (detected : sessionFailure now s s.statusWords = some failure)
      (primary : t.primaryFailure = failure)
      (answer : t.enableResult = s.enableResult)
  /-- The session waits for the JTC. -/
  | wait
      (before : s.phase = .jtcActivating)
      (after : t.phase = .jtcActivating)
      (clean : sessionFailure now s s.statusWords = none)
      (unrequested : s.jtcActivateFailedRequest = false)
      (answer : t.enableResult = s.enableResult)
  /-- The callback has reported that the JTC was not activated. -/
  | activateFailed
      (before : s.phase = .jtcActivating)
      (after : t.session = .unwinding)
      (clean : sessionFailure now s s.statusWords = none)
      (requested : s.jtcActivateFailedRequest = true)
      (consumed : t.jtcActivateFailedRequest = false)
      (primary : t.primaryFailure = { stage := .jtcActivateFailed })
      (answer : t.enableResult = s.enableResult)
  /-- The failed session goes on unwinding. -/
  | unwind
      (before : s.session = .unwinding)
      (after : t.session = .unwinding)
      (primary : t.primaryFailure = s.primaryFailure)
      (answer : t.enableResult = s.enableResult)
  /-- The failed session answers with its recorded failure. -/
  | finish
      (before : s.session = .unwinding)
      (after : t.session = .ended)
      (answer : t.enableResult = Controller.published false s.primaryFailure)

namespace Controller

variable {config : Config} {now : Int} {s t : Controller}

theorem session_of_phase {phase : Phase} (current : s.phase = phase) :
    s.session = phase.session s.interruptedOwner := by
  rw [session, current]

theorem session_of_isEnabling (enabling : s.phase.isEnabling = true) : s.session = .batches := by
  unfold session
  revert enabling
  cases s.phase <;> first | exact fun _ => rfl | exact fun enabling => absurd enabling nofun

theorem isEnabling_of_session (batches : s.session = .batches) : s.phase.isEnabling = true := by
  unfold session at batches
  revert batches
  cases s.phase <;> simp [Phase.session, Phase.isEnabling]
  all_goals split_ifs <;> simp

theorem not_isEnabling_of_session (other : s.session ≠ .batches) : s.phase.isEnabling = false :=
  Bool.eq_false_of_not_eq_true fun enabling => other (session_of_isEnabling enabling)

theorem phase_of_activating (activating : s.session = .activating) : s.phase = .jtcActivating := by
  unfold session at activating
  revert activating
  cases s.phase <;> simp [Phase.session]
  all_goals split_ifs <;> simp

/-- A fault is the first thing an enabling or waiting session looks for. -/
theorem sessionFailure_of_fault {words : Words} {axis : Axis}
    (running : s.phase.isEnabling = true ∨ s.phase = .jtcActivating)
    (found : (axes.find? fun axis => isFaultState (decodeState (words axis))) = some axis) :
    sessionFailure now s words = some (enableFailure s words .faultDetected axis) := by
  rw [sessionFailure, if_pos (by simpa using running), found]

theorem sessionFailure_of_healthy {words : Words} (healthy : anyFault words = false)
    (waits : s.phase ≠ .enabling) : sessionFailure now s words = none := by
  simp only [sessionFailure, find?_faulted healthy, if_neg waits, ite_self]

/-- Only a session that enables or waits detects failures. -/
theorem sessionFailure_of_ended {words : Words} (ended : s.session = .ended) :
    sessionFailure now s words = none := by
  have outside : s.phase.isEnabling = false := not_isEnabling_of_session (by rw [ended]; nofun)
  have waits : s.phase ≠ .jtcActivating := by
    intro activating
    exact Session.noConfusion (ended.symm.trans (session_of_phase activating))
  simp only [sessionFailure, outside, waits, decide_false, Bool.or_self, Bool.false_eq_true,
    if_false]

/-- A healthy running batch fails on an axis off the path, and then on its deadline. -/
theorem sessionFailure_of_batch {words : Words} (healthy : anyFault words = false)
    (running : s.phase = .enabling) :
    sessionFailure now s words =
      match axes.find? (leavesBatch s.currentBatch words) with
      | some axis => some (enableFailure s words .enableInvalidState axis)
      | none =>
          if s.stageDeadlineNs ≤ now then
            (axes.find? (holdsUpBatch s.currentBatch words)).map
              (enableFailure s words .enableBatchTimeout)
          else none := by
  rw [sessionFailure, if_pos (by simp [running, Phase.isEnabling]), find?_faulted healthy]
  simp only [if_pos running]

/-- The recorded failure of a batch is the axis failure the session has detected. -/
theorem recordEnableFailure_batchScanned (stage : Stage) (axis : Axis) :
    s.batchScanned.recordEnableFailure stage axis.val =
      { s.batchScanned with
        primaryFailure := enableFailure s s.statusWords stage axis
        lastFailure := enableFailure s s.statusWords stage axis } := by
  have word : wordAt s.batchScanned.statusWords axis.val = s.statusWords axis :=
    wordAt_axis s.statusWords axis
  simp only [recordEnableFailure, word]
  rfl

theorem sessionCycle_settleBatch (running : s.phase = .enabling)
    (known : s.currentBatch < batchCount) (healthy : anyFault s.statusWords = false) :
    SessionCycle now s
      (s.batchScanned.settleBatch config now (enableScan s.currentBatch s.statusWords)) := by
  have before : s.session = .batches := session_of_isEnabling (by rw [running]; rfl)
  have detected : sessionFailure now s s.statusWords = _ := sessionFailure_of_batch healthy running
  simp only [settleBatch, enableScan_invalidAxis]
  cases left : axes.find? (leavesBatch s.currentBatch s.statusWords) with
  | some axis =>
      rw [left] at detected
      rw [axisIndex, if_pos (Int.natCast_nonneg _), recordEnableFailure_batchScanned]
      split
      next preempted => exact .failPreempted _ before rfl detected preempted rfl
      next clear =>
        exact .fail _ (.inl before) rfl (fun _ preempted => absurd preempted clear) detected rfl rfl
  | none =>
      rw [left] at detected
      rw [axisIndex, if_neg (by decide)]
      cases held : axes.find? (holdsUpBatch s.currentBatch s.statusWords) with
      | none =>
          have complete : (enableScan s.currentBatch s.statusWords).batchComplete = true := by
            rw [enableScan_batchComplete_iff]
            simpa using held
          have clean : sessionFailure now s s.statusWords = none := by
            rw [detected, held]
            exact ite_self none
          have completes : s.completesBatch s.statusWords = true := by
            have ready := (enableScan_batchComplete_iff _ _).mp complete
            simp [completesBatch, ready]
          rw [if_pos complete]
          split
          next preempted => exact .preempt before rfl clean completes preempted rfl
          next clear =>
            have unpreempted : s.preempted = false := Bool.eq_false_of_not_eq_true clear
            split
            next => exact .ready before rfl clean unpreempted rfl
            next => exact .advance before rfl clean rfl (.inr unpreempted) rfl
      | some axis =>
          have incomplete : (enableScan s.currentBatch s.statusWords).batchComplete ≠ true := by
            rw [ne_eq, enableScan_batchComplete_iff]
            intro ready
            exact absurd (List.find?_some held) (ne_true_of_eq_false (ready axis))
          have blamed : timedOutAxis s.batchScanned.currentBatch s.batchScanned.statusWords =
              axis.val := timedOutAxis_eq known held
          rw [held] at detected
          rw [if_neg incomplete]
          split
          next expired =>
            have failed : sessionFailure now s s.statusWords =
                some (enableFailure s s.statusWords .enableBatchTimeout axis) :=
              detected.trans (if_pos expired)
            rw [blamed, recordEnableFailure_batchScanned]
            split
            next preempted => exact .failPreempted _ before rfl failed preempted rfl
            next clear =>
              exact .fail _ (.inl before) rfl (fun _ preempted => absurd preempted clear) failed rfl
                rfl
          next early =>
            exact .advance before before (detected.trans (if_neg early)) rfl
              (.inl ⟨rfl, Int.not_le.mp early⟩) rfl

theorem sessionCycle_updateEnable (enabling : s.phase.isEnabling = true) (owned : s.owner = .enable)
    (known : s.currentBatch < batchCount) : SessionCycle now s (s.updateEnable config now) := by
  have before := session_of_isEnabling enabling
  simp only [updateEnable]
  split
  next axis found =>
    refine .fail _ (.inl before) (if_pos owned) (fun _ _ => rfl)
      (sessionFailure_of_fault (.inl enabling) found) ?_ rfl
    simp only [startEmergency, enableFailure, if_pos owned]
  next unfound =>
    have healthy : anyFault s.statusWords = false := by
      rw [anyFault_eq_false_iff]
      intro axis
      simpa using List.find?_eq_none.mp unfound axis (mem_axes axis)
    by_cases delaying : s.phase = .interBatchDelay
    · have clean : sessionFailure now s s.statusWords = none :=
        sessionFailure_of_healthy healthy (by rw [delaying]; decide)
      rw [if_pos delaying]
      simp only [updateInterBatchDelay]
      split
      next preempted =>
        exact .preempt before rfl clean (by simp [completesBatch, delaying]) preempted rfl
      next clear =>
        have unpreempted : s.preempted = false := Bool.eq_false_of_not_eq_true clear
        split
        next => exact .advance before rfl clean rfl (.inr unpreempted) rfl
        next => exact .advance before before clean rfl (.inr unpreempted) rfl
    · have running : s.phase = .enabling := by
        simpa [Phase.isEnabling, delaying] using enabling
      rw [if_neg delaying]
      exact sessionCycle_settleBatch running known healthy

/-- Outside the batches a cycle that changes nothing the session reads goes on. -/
theorem sessionCycle_of_kept (resting : s.session = .ended ∨ s.session = .unwinding)
    (session : t.session = s.session) (primary : t.primaryFailure = s.primaryFailure)
    (answer : t.enableResult = s.enableResult) : SessionCycle now s t := by
  rcases resting with ended | unwinding
  · exact .ended ended (session.trans ended) answer
  · exact .unwind unwinding (session.trans unwinding) primary answer

theorem updateEmergencyQuickStop_session (config : Config) (now : Int)
    (stopping : s.phase = .emergencyQuickStop) :
    (s.updateEmergencyQuickStop config now).session = s.session ∧
      (s.updateEmergencyQuickStop config now).enableResult = s.enableResult := by
  rw [session_of_phase stopping]
  simp only [updateEmergencyQuickStop]
  split_ifs
  · exact ⟨rfl, rfl⟩
  · exact ⟨session_of_phase stopping, rfl⟩

/-- Outside the batches a descent that ends answers an unwinding session. -/
theorem sessionCycle_of_finished (resting : s.session = .ended ∨ s.session = .unwinding)
    (after : t.session = .ended)
    (answer : t.enableResult =
      if s.session = .unwinding then published false s.primaryFailure else s.enableResult) :
    SessionCycle now s t := by
  rcases resting with ended | unwinding
  · rw [ended, if_neg Session.noConfusion] at answer
    exact .ended ended after answer
  · rw [if_pos unwinding] at answer
    exact .finish unwinding after answer

/-- In a waiting session the monitor finds the faults only, the lowest one first. -/
theorem find?_of_monitored {words : Words} {axis : Axis} {stage : Stage}
    (tripped : monitoredFailure .jtcActivating words = some (axis, stage)) :
    stage = .faultDetected ∧
      (axes.find? fun axis => isFaultState (decodeState (words axis))) = some axis := by
  have scanned (group : List Axis) : (group.findSome? fun axis =>
        if isFaultState (decodeState (words axis)) = true then some (axis, Stage.faultDetected)
        else none) =
      (group.find? fun axis => isFaultState (decodeState (words axis))).map
        fun axis => (axis, Stage.faultDetected) := by
    induction group with
    | nil => rfl
    | cons axis group ih =>
        rw [List.findSome?_cons, List.find?_cons, ih]
        cases isFaultState (decodeState (words axis)) <;> rfl
  rw [monitoredFailure, if_pos (.inr (.inl rfl))] at tripped
  simp only [reduceCtorEq, false_and, if_false] at tripped
  rw [scanned, Option.map_eq_some_iff] at tripped
  rcases tripped with ⟨lowest, found, same⟩
  cases same
  exact ⟨rfl, found⟩

/-- The end of a descent answers an unwinding session with its recorded failure. -/
theorem finishDownward_session (downward : s.phase.isDownward = true) :
    s.finishDownward.session = .ended ∧
      s.finishDownward.enableResult =
        if s.session = .unwinding then published false s.primaryFailure else s.enableResult := by
  refine ⟨?_, ?_⟩
  · rcases finishDownward_phase s downward with phase | phase <;> exact session_of_phase phase
  · simp only [finishDownward]
    split
    next phase =>
      rw [session_of_phase phase, if_neg Session.noConfusion]
      simp only [finishStartup]
      split_ifs <;> rfl
    next phase =>
      rw [session_of_phase phase, if_neg Session.noConfusion]
      simp only [finishDisabling]
      split_ifs <;> rfl
    next phase =>
      rw [session_of_phase phase]
      rfl
    next phase =>
      rw [session_of_phase phase]
      simp only [finishEmergency, Phase.session]
      by_cases enable : s.interruptedOwner = .enable
      · simp only [if_pos enable]
        rfl
      · simp only [if_neg enable, reduceCtorEq, if_false]
        split_ifs <;> rfl
    next => cases phase : s.phase <;> simp_all [Phase.isDownward, Phase.isNormalDescent]

/-- A descending group has no session or unwinds one. -/
theorem session_of_isDescent (descending : s.phase.isDescent = true) :
    s.session = .ended ∨ s.session = .unwinding := by
  unfold session
  revert descending
  cases s.phase <;>
    simp only [Phase.isDescent, Phase.isNormalDescent, Phase.isEmergency, Phase.session] <;>
    first | decide | (split_ifs <;> simp)

theorem session_of_isHeld (held : s.phase.isHeld = true) : s.session = .ended := by
  unfold session
  revert held
  cases s.phase <;> first | exact fun _ => rfl | exact fun held => absurd held Bool.false_ne_true

theorem session_of_isReset (resetting : s.phase.isReset = true) : s.session = .ended := by
  unfold session
  revert resetting
  cases s.phase <;> first | exact fun _ => rfl | exact fun reset => absurd reset Bool.false_ne_true

/-- Among the normal descents only the rollback belongs to a session. -/
theorem session_of_normal (normal : s.phase.isNormalDescent = true) (other : s.phase ≠ .rollback) :
    s.session = .ended := by
  unfold session
  revert normal other
  cases s.phase <;> first
    | exact fun _ _ => rfl
    | exact fun normal => absurd normal Bool.false_ne_true
    | exact fun _ other => absurd rfl other

theorem isHeld_of_monitored {tripped : Axis × Stage}
    (monitored : monitoredFailure s.phase s.statusWords = some tripped)
    (other : s.phase ≠ .jtcActivating) : s.phase.isHeld = true := by
  rcases phase_of_monitored monitored with phase | phase | phase
  · rw [phase]
    rfl
  · exact absurd phase other
  · rw [phase]
    rfl

theorem sessionFailure_of_calm (activating : s.phase = .jtcActivating)
    (calm : monitoredFailure s.phase s.statusWords = none) :
    sessionFailure now s s.statusWords = none := by
  have healthy : anyFault s.statusWords = false := by
    by_contra faulted
    obtain ⟨axis, stage, tripped⟩ := exists_monitored_of_anyFault (.inr (.inl activating))
      (Bool.eq_true_of_not_eq_false faulted)
    rw [calm] at tripped
    contradiction
  exact sessionFailure_of_healthy healthy (by rw [activating]; decide)

theorem sessionCycle_of_outcome (law : s.SessionOwned)
    (accused : s.phase.isAccused = true → s.primaryFailure.stage ≠ .success)
    (outside : s.phase.isEnabling = false) (outcome : Outcome config now s t) :
    SessionCycle now s t := by
  have apart {phase : Phase} (current : s.phase = phase) (enabling : phase.isEnabling = true) :
      False :=
    Bool.false_ne_true (outside.symm.trans (current ▸ enabling))
  cases outcome with
  | monitored axis stage tripped =>
      obtain ⟨session, answer⟩ := updateEmergencyQuickStop_session config now
        (s := s.startEmergency config now stage axis.val (s.statusWords axis)) rfl
      by_cases activating : s.phase = .jtcActivating
      · have owner : s.owner = .enable := law.enable_of_phase activating rfl
        rw [activating] at tripped
        obtain ⟨rfl, found⟩ := find?_of_monitored tripped
        refine .fail _ (.inr (session_of_phase activating)) (session.trans (if_pos owner))
          (fun before => absurd ((session_of_phase activating).symm.trans before) Session.noConfusion)
          (sessionFailure_of_fault (.inr activating) found) ?_ answer
        rw [updateEmergencyQuickStop_primaryFailure]
        simp only [startEmergency, enableFailure, if_pos owner]
      · have held := isHeld_of_monitored tripped activating
        exact .ended (session_of_isHeld held) (session.trans (if_neg (law.not_enable_of_held held)))
          answer
  | inactive stopped => exact .ended (session_of_phase stopped) (session_of_phase stopped) rfl
  | descentDone downward last terminal =>
      obtain ⟨after, answer⟩ := finishDownward_session (s := s.descentScanned config now) downward
      have descent := session_of_isDescent (Phase.isDescent_of_isDownward downward)
      exact sessionCycle_of_finished descent after answer
  | descentAdvance downward | descentHold downward =>
      have descent := session_of_isDescent (Phase.isDescent_of_isDownward downward)
      exact sessionCycle_of_kept descent rfl rfl rfl
  | descentExpire normal expired =>
      by_cases rollback : s.phase = .rollback
      · have owner : s.owner = .enable := law.enable_of_phase rollback rfl
        have recorded : (s.descentScanned config now).recordStageTimeout
            (downwardScan s.statusWords) = s.descentScanned config now :=
          recordStageTimeout_of_failed _ (accused (by rw [rollback]; rfl))
        rw [recorded]
        exact .unwind (session_of_phase rollback) (if_pos owner) rfl rfl
      · have aside := law.not_enable_of_normal normal rollback
        have before : s.session = .ended := session_of_normal normal rollback
        rcases recordStageTimeout_eq (s.descentScanned config now) (downwardScan s.statusWords) with
          ⟨primary, last, kept⟩
        rw [kept]
        exact .ended before (if_neg aside) rfl
  | emergencyExpire descending expired =>
      have recorded : (s.descentScanned config now).recordStageTimeout (downwardScan s.statusWords) =
          s.descentScanned config now :=
        recordStageTimeout_of_failed _ (accused (by rw [descending]; rfl))
      rw [recorded]
      obtain ⟨after, answer⟩ := finishDownward_session (s := s.descentScanned config now)
        (congrArg Phase.isDownward descending)
      exact sessionCycle_of_finished (session_of_isDescent (by rw [descending]; rfl)) after answer
  | quickStop stopping =>
      obtain ⟨session, answer⟩ := updateEmergencyQuickStop_session config now stopping
      exact sessionCycle_of_kept (session_of_isDescent (by rw [stopping]; rfl)) session
        (updateEmergencyQuickStop_primaryFailure s) answer
  | acceptEnable idle requested => exact .accept idle requested rfl rfl
  | idleAlreadyClear idle | idleAlreadyDisabled idle | idleHold idle =>
      exact .ended (session_of_phase idle) (session_of_phase idle) rfl
  | idleStartReset idle => exact .ended (session_of_phase idle) rfl rfl
  | enableFault axis enabling => exact (apart rfl enabling).elim
  | delayPreempted delaying | nextBatch delaying | delayHold delaying =>
      exact (apart delaying rfl).elim
  | batchInvalid enabling | batchInvalidPreempted enabling | batchPreempted enabling
  | hardwareReady enabling | batchComplete enabling | batchExpire enabling
  | batchExpirePreempted enabling | batchHold enabling =>
      exact (apart enabling rfl).elim
  | activateFailed activating calm requested =>
      have clean : sessionFailure now s s.statusWords = none := sessionFailure_of_calm activating calm
      exact .activateFailed activating rfl clean requested rfl rfl rfl
  | activatingHold activating calm unrequested =>
      have clean : sessionFailure now s s.statusWords = none := sessionFailure_of_calm activating calm
      exact .wait activating activating clean unrequested rfl
  | heldDescend held => exact .ended (session_of_isHeld held) rfl rfl
  | heldHold held => exact .ended (session_of_isHeld held) (session_of_isHeld held) rfl
  | resetPreempted resetting => exact .ended (session_of_isReset resetting) rfl rfl
  | raiseReset resetting => exact .ended (session_of_phase resetting) rfl rfl
  | resetDone resetting => exact .ended (session_of_phase resetting) rfl rfl
  | resetExpire resetting =>
      simp only [storeOwner, storePhase, publishReset, recordFailure, resetScanned,
        setAllControlWords]
      exact .ended (session_of_phase resetting) rfl rfl
  | resetHold resetting =>
      exact .ended (session_of_phase resetting) (session_of_phase resetting) rfl
  | failedDescend failed => exact .ended (session_of_phase failed) rfl rfl
  | failedAlreadyClear failed => exact .ended (session_of_phase failed) rfl rfl
  | failedStartReset failed => exact .ended (session_of_phase failed) rfl rfl
  | failedHold failed => exact .ended (session_of_phase failed) (session_of_phase failed) rfl

/-- Every active cycle is one of the listed outcomes. -/
theorem sessionCycle_of_update {readings : Readings} (active : s.active = true)
    (law : s.SessionOwned) (results : ResultLaw s) :
    SessionCycle now (s.refreshStatusWords readings) (s.update config now readings) := by
  by_cases enabling : s.phase.isEnabling = true
  · rw [update_of_enabling active enabling]
    exact sessionCycle_updateEnable enabling (law.enable_of_phase rfl (by simp [enabling]))
      results.known
  · exact sessionCycle_of_outcome ⟨law.owned, law.requested⟩ results.accused
      (Bool.eq_false_of_not_eq_true enabling) (s.update_outcome config now readings active)

/-- The reports of a cycle are an outcome that starts with an empty result. -/
theorem sessionCycle_reports {readings : Readings} (active : s.active = true)
    (law : s.SessionOwned) (results : ResultLaw s) :
    SessionCycle now (s.unreported.refreshStatusWords readings) (s.reports config now readings) := by
  have unreported : ResultLaw s.unreported :=
    ⟨⟨nofun, nofun, nofun, results.primary, ⟨noBatch, noJoint⟩⟩, results.known, results.delay,
      results.accused⟩
  exact sessionCycle_of_update (s := s.unreported) active ⟨law.owned, law.requested⟩ unreported

end Controller

end RtControl.EnableManager
