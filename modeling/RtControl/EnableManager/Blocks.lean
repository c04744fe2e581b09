import RtControl.EnableManager.Interleaving
import RtControl.EnableManager.Cycle

/-!
# What one block of a callback can do

Each callback has a list of outcomes between two interruption points, with the
guard that selects the outcome and the shared state it leaves.  The invariants
of block-wise runs are derived from these lists and from `Cycle`.
-/

namespace RtControl.EnableManager

open RtControl.Transition

/-- Every callback stands at an interruption point and holds its callback flag
exactly while it runs. -/
structure Parked (s : System) : Prop where
  enable : s.enablePc.yields = true
  disable : s.disablePc.yields = true
  reset : s.resetPc.yields = true
  worker : s.worker.yields = true
  enableActive : s.enableCallbackActive = true ↔ s.enablePc ≠ .idle
  disableActive : s.disableCallbackActive = true ↔ s.disablePc ≠ .idle
  resetActive : s.resetCallbackActive = true ↔ s.resetPc ≠ .idle

/-- The outcomes of one block of `handleEnable`. -/
inductive EnableBlock (s : System) (late : Bool) : System → Prop
  /-- A second caller is refused, or the callback goes on waiting. -/
  | stay : EnableBlock s late s
  /-- The call is answered without an operation. -/
  | refuse (response : Response)
      (fresh : s.enablePc = .idle) :
      EnableBlock s late { s with
        enableResponse := response
        enableCallbackActive := false
        enablePc := .idle }
  /-- The call takes the idle state machine and raises its request. -/
  | accept
      (fresh : s.enablePc = .idle)
      (active : s.active = true)
      (running : s.restartRequired = false)
      (resting : s.phase = .idle)
      (free : s.owner = .none) :
      EnableBlock s late { s with
        enableCallbackActive := true
        owner := .enable
        enableResult := { s.enableResult with ready := false }
        enableHardwareReady := false
        enableRequest := true
        enablePc := .loopActive }
  /-- The call returns from its first wait with a published or a timed-out
  result. -/
  | returnFirst (response : Response)
      (polling : s.enablePc = .loopActive)
      (ended : s.enableResult.ready = true ∨
        s.enableHardwareReady = false ∧ (s.active = true → late = true)) :
      EnableBlock s late { s with
        enableResponse := response
        enableCallbackActive := false
        enablePc := .idle }
  /-- The hardware is ready and the callback turns to the JTC. -/
  | proceed
      (polling : s.enablePc = .loopActive)
      (hardware : s.enableHardwareReady = true)
      (unanswered : s.enableResult.ready = false) :
      EnableBlock s late { s with enablePc := .switch .acquire }
  /-- The activation request is sent. -/
  | send
      (calling : s.enablePc = .switch .acquire)
      (free : s.switchInProgress = false)
      (prompt : late = false) :
      EnableBlock s late { s with
        switchInProgress := true
        jtc := s.jtc.send true
        enablePc := .switch .await }
  /-- The activation request cannot be sent. -/
  | unsent
      (calling : s.enablePc = .switch .acquire)
      (blocked : s.switchInProgress = true ∨ late = true) :
      EnableBlock s late { s with
        restartRequired := true
        emergencyJtcDeactivateRequest := true
        jtcActivateFailedRequest := s.jtcActivateFailedRequest || s.phase = .jtcActivating
        enablePc := .wait .loadActive }
  /-- The answer to the activation request does not come in time. -/
  | lapse
      (awaiting : s.enablePc = .switch .await)
      (unanswered : s.jtc.answer = none)
      (expired : late = true) :
      EnableBlock s late { s with
        switchInProgress := false
        restartRequired := true
        emergencyJtcDeactivateRequest := true
        jtcActivateFailedRequest := s.jtcActivateFailedRequest || s.phase = .jtcActivating
        enablePc := .wait .loadActive }
  /-- The controller manager declines the activation. -/
  | declined
      (awaiting : s.enablePc = .switch .await)
      (answered : s.jtc.answer = some false) :
      EnableBlock s late { s with
        switchInProgress := false
        jtcActivateFailedRequest := s.jtcActivateFailedRequest || s.phase = .jtcActivating
        enablePc := .wait .loadActive }
  /-- The JTC is active and the group becomes enabled. -/
  | complete
      (awaiting : s.enablePc = .switch .await)
      (answered : s.jtc.answer = some true)
      (activating : s.phase = .jtcActivating) :
      EnableBlock s late { s with
        switchInProgress := false
        lastFailure := {}
        phase := .enabled
        enableResult := Controller.published true { stage := .success }
        owner := .none
        enablePc := .wait .loadActive }
  /-- The JTC is active but the phase has moved on. -/
  | overtaken
      (awaiting : s.enablePc = .switch .await)
      (answered : s.jtc.answer = some true)
      (left : s.phase ≠ .jtcActivating) :
      EnableBlock s late { s with
        switchInProgress := false
        enablePc := .wait .loadActive }
  /-- The call returns from its wait for the result. -/
  | returnLast (response : Response)
      (waiting : s.enablePc = .wait .loadActive)
      (ended : s.enableResult.ready = true ∨ (s.active = true → late = true)) :
      EnableBlock s late { s with
        enableResponse := response
        enableCallbackActive := false
        enablePc := .idle }

/-- The outcomes of one block of `handleDisable`. -/
inductive DisableBlock (s : System) (late : Bool) : System → Prop
  /-- A second caller is refused, or the callback goes on waiting. -/
  | stay : DisableBlock s late s
  /-- The call is answered without an operation. -/
  | refuse (response : Response)
      (fresh : s.disablePc = .idle) :
      DisableBlock s late { s with
        disableResponse := response
        disableCallbackActive := false
        disablePc := .idle }
  /-- The call preempts an enable or a reset without taking ownership. -/
  | preempt
      (fresh : s.disablePc = .idle)
      (active : s.active = true)
      (running : preempts s.phase s.owner = true) :
      DisableBlock s late { s with
        disableCallbackActive := true
        disableResult := { s.disableResult with ready := false }
        jtcDeactivateFailed := false
        disableRequest := true
        disablePc := .wait .loadActive }
  /-- The call takes a group that is not enabled. -/
  | take
      (fresh : s.disablePc = .idle)
      (active : s.active = true)
      (accepted : s.phase ≠ .idle ∧ s.phase ≠ .enabled ∧ rejectsDisable s.phase = false)
      (free : s.owner = .none) :
      DisableBlock s late { s with
        disableCallbackActive := true
        owner := .disable
        disableResult := { s.disableResult with ready := false }
        jtcDeactivateFailed := false
        disableRequest := true
        disablePc := .wait .loadActive }
  /-- The call takes the enabled group and turns to the JTC. -/
  | takeEnabled
      (fresh : s.disablePc = .idle)
      (active : s.active = true)
      (enabled : s.phase = .enabled)
      (free : s.owner = .none) :
      DisableBlock s late { s with
        disableCallbackActive := true
        owner := .disable
        disableResult := { s.disableResult with ready := false }
        jtcDeactivateFailed := false
        phase := .jtcDeactivating
        disablePc := .switch .acquire }
  /-- The deactivation request is sent. -/
  | send
      (calling : s.disablePc = .switch .acquire)
      (free : s.switchInProgress = false)
      (prompt : late = false) :
      DisableBlock s late { s with
        switchInProgress := true
        jtc := s.jtc.send false
        disablePc := .switch .await }
  /-- The deactivation request cannot be sent. -/
  | unsent
      (calling : s.disablePc = .switch .acquire)
      (blocked : s.switchInProgress = true ∨ late = true) :
      DisableBlock s late { s with
        jtcDeactivateFailed := true
        restartRequired := true
        lastFailure := { stage := .jtcDeactivateFailed }
        disableRequest := true
        disablePc := .wait .loadActive }
  /-- The deactivation is declined or not answered in time. -/
  | declined
      (awaiting : s.disablePc = .switch .await)
      (answered : s.jtc.answer = some false ∨ s.jtc.answer = none ∧ late = true) :
      DisableBlock s late { s with
        switchInProgress := false
        jtcDeactivateFailed := true
        restartRequired := true
        lastFailure := { stage := .jtcDeactivateFailed }
        disableRequest := true
        disablePc := .wait .loadActive }
  /-- The JTC is inactive and the descent is requested. -/
  | complete
      (awaiting : s.disablePc = .switch .await)
      (answered : s.jtc.answer = some true) :
      DisableBlock s late { s with
        switchInProgress := false
        disableRequest := true
        disablePc := .wait .loadActive }
  /-- The call returns from its wait for the result. -/
  | returnLast (response : Response)
      (waiting : s.disablePc = .wait .loadActive)
      (ended : s.disableResult.ready = true ∨ (s.active = true → late = true)) :
      DisableBlock s late { s with
        disableResponse := response
        disableCallbackActive := false
        disablePc := .idle }

/-- The outcomes of one block of `handleResetFault`. -/
inductive ResetBlock (s : System) (late : Bool) : System → Prop
  /-- A second caller is refused, or the callback goes on waiting. -/
  | stay : ResetBlock s late s
  /-- The call is answered without an operation. -/
  | refuse (response : Response)
      (fresh : s.resetPc = .idle) :
      ResetBlock s late { s with
        resetResponse := response
        resetCallbackActive := false
        resetPc := .idle }
  /-- The call takes a resting group and raises its request. -/
  | accept
      (fresh : s.resetPc = .idle)
      (active : s.active = true)
      (running : s.restartRequired = false)
      (resting : s.phase = .idle ∨ s.phase = .failed)
      (free : s.owner = .none) :
      ResetBlock s late { s with
        resetCallbackActive := true
        owner := .reset
        resetResult := { s.resetResult with ready := false }
        resetRequest := true
        resetPc := .wait .loadActive }
  /-- The call returns from its wait for the result. -/
  | returnLast (response : Response)
      (waiting : s.resetPc = .wait .loadActive)
      (ended : s.resetResult.ready = true ∨ (s.active = true → late = true)) :
      ResetBlock s late { s with
        resetResponse := response
        resetCallbackActive := false
        resetPc := .idle }

/-- The outcomes of one block of a worker invocation. -/
inductive WorkerBlock (s : System) : Event → System → Prop
  /-- Nothing is requested. -/
  | rest : WorkerBlock s .fireWorker s
  /-- The invocation takes the request. -/
  | take
      (requested : s.emergencyJtcDeactivateRequest = true) :
      WorkerBlock s .fireWorker { s with
        emergencyJtcDeactivateRequest := false
        workersCalling := s.workersCalling + 1 }
  /-- The deactivation request is sent. -/
  | send
      (calling : s.workersCalling ≠ 0)
      (free : s.switchInProgress = false) :
      WorkerBlock s (.callWorker false) { s with
        workersCalling := s.workersCalling - 1
        switchInProgress := true
        jtc := s.jtc.send false
        worker := .switch .await }
  /-- Another switch is in progress. -/
  | busy (late : Bool)
      (calling : s.workersCalling ≠ 0)
      (blocked : s.switchInProgress = true) :
      WorkerBlock s (.callWorker late) { s with
        workersCalling := s.workersCalling - 1
        workersFailed := s.workersFailed + 1 }
  /-- The switch service is missing. -/
  | missing
      (calling : s.workersCalling ≠ 0)
      (free : s.switchInProgress = false) :
      WorkerBlock s (.callWorker true) { s with
        workersCalling := s.workersCalling - 1
        switchInProgress := false
        worker := .idle
        workersFailed := s.workersFailed + 1 }
  /-- The answer is still awaited. -/
  | stay
      (awaiting : s.worker = .switch .await)
      (unanswered : s.jtc.answer = none) :
      WorkerBlock s (.resumeWorker false) s
  /-- The deactivation is declined or not answered in time. -/
  | declined (late : Bool)
      (awaiting : s.worker = .switch .await)
      (answered : s.jtc.answer = some false ∨ s.jtc.answer = none ∧ late = true) :
      WorkerBlock s (.resumeWorker late) { s with
        switchInProgress := false
        worker := .idle
        workersFailed := s.workersFailed + 1 }
  /-- The JTC is inactive. -/
  | complete (late : Bool)
      (awaiting : s.worker = .switch .await)
      (answered : s.jtc.answer = some true) :
      WorkerBlock s (.resumeWorker late) { s with
        switchInProgress := false
        worker := .idle }
  /-- The restart is stored for a switch that did not succeed. -/
  | latch
      (failed : s.workersFailed ≠ 0) :
      WorkerBlock s .latchRestart { s with
        restartRequired := true
        workersFailed := s.workersFailed - 1 }

/-! ## The lists are complete -/

section Completeness

attribute [local simp] runOn blockLength settle EnablePc.yields DisablePc.yields ResetPc.yields
  WorkerPc.yields System.enableStep System.disableStep System.resetStep System.switchStep waitStep
  System.callEnable System.callDisable System.callReset System.answerEnable
  System.answerDisable System.answerReset SlotField.next FailureField.next Failure.setField

variable {s : System} {late : Bool}

theorem enableBlock_call (parked : Parked s) :
    EnableBlock s false (runOn .callEnable s.callEnable) := by
  by_cases busy : s.enableCallbackActive = true
  · simp only [System.callEnable, busy, if_true, runOn, blockLength, settle, parked.enable]
    exact .stay
  · have fresh : s.enablePc = .idle := by
      by_contra running
      exact busy (parked.enableActive.mpr running)
    have refused (response : Response) : EnableBlock s false { s with
        enableResponse := response
        enableCallbackActive := false
        enablePc := .idle } := .refuse response fresh
    by_cases active : s.active = true
    · by_cases restart : s.restartRequired = true
      · simpa [busy, active, restart] using refused _
      · by_cases enabled : s.phase = .enabled
        · simpa [busy, active, restart, enabled] using refused _
        · by_cases resting : s.phase = .idle
          · by_cases free : s.owner = .none
            · have admitted : EnableBlock s false _ :=
                .accept fresh active (by simpa using restart) resting free
              simpa [busy, active, restart, resting, free] using admitted
            · simpa [busy, active, restart, resting, free] using refused _
          · simpa [busy, active, restart, enabled, resting] using refused _
    · simpa [busy, active] using refused _

/-- A call starts the callback or is turned away at once. -/
theorem callEnable_fresh (parked : Parked s) :
    s.enablePc = .idle ∨ runOn .callEnable s.callEnable = s := by
  by_cases fresh : s.enablePc = .idle
  · exact Or.inl fresh
  · right
    simp only [System.callEnable, parked.enableActive.mpr fresh, if_true, runOn, blockLength,
      settle, parked.enable]

theorem enableBlock_poll (polling : s.enablePc = .loopActive) :
    EnableBlock s late (runOn (.enable late) (s.enableStep late)) := by
  have returned (response : Response)
      (ended : s.enableResult.ready = true ∨
        s.enableHardwareReady = false ∧ (s.active = true → late = true)) :
      EnableBlock s late { s with
        enableResponse := response
        enableCallbackActive := false
        enablePc := .idle } := .returnFirst response polling ended
  by_cases ready : s.enableResult.ready = true
  · have answered := fun response => returned response (Or.inl ready)
    by_cases active : s.active = true
    · by_cases hardware : s.enableHardwareReady = true
      · simpa [polling, active, hardware, ready] using answered _
      · simpa [polling, active, hardware, ready] using answered _
    · simpa [polling, active, ready] using answered _
  · by_cases hardware : s.enableHardwareReady = true
    · have proceeded : EnableBlock s late _ :=
        .proceed polling hardware (by simpa using ready)
      by_cases active : s.active = true
      · simpa [polling, active, hardware, ready] using proceeded
      · simpa [polling, active, hardware, ready] using proceeded
    · have unready : s.enableHardwareReady = false := by simpa using hardware
      by_cases active : s.active = true
      · cases late with
        | true =>
            have expired := fun response => returned response (Or.inr ⟨unready, fun _ => rfl⟩)
            simpa [polling, active, hardware, ready] using expired _
        | false =>
            have unchanged : ({ s with enablePc := .loopActive } : System) = s := by
              rw [← polling]
            have stayed : EnableBlock s false { s with enablePc := .loopActive } := by
              rw [unchanged]
              exact .stay
            simpa [polling, active, hardware, ready] using stayed
      · have stopped := fun response =>
          returned response (Or.inr ⟨unready, fun running => absurd running active⟩)
        simpa [polling, active, hardware, ready] using stopped _

theorem enableBlock_acquire (calling : s.enablePc = .switch .acquire) :
    EnableBlock s late (runOn (.enable late) (s.enableStep late)) := by
  by_cases busy : s.switchInProgress = true
  · have unsent : EnableBlock s late _ := .unsent calling (Or.inl busy)
    by_cases activating : s.phase = .jtcActivating
    · simpa [calling, busy, activating] using unsent
    · simpa [calling, busy, activating] using unsent
  · have free : s.switchInProgress = false := by simpa using busy
    cases late with
    | true =>
        have unsent : EnableBlock s true _ := .unsent calling (Or.inr rfl)
        by_cases activating : s.phase = .jtcActivating
        · simpa [calling, free, activating] using unsent
        · simpa [calling, free, activating] using unsent
    | false =>
        have sent : EnableBlock s false _ := .send calling free rfl
        simpa [calling, free] using sent

theorem enableBlock_await (awaiting : s.enablePc = .switch .await) :
    EnableBlock s late (runOn (.enable late) (s.enableStep late)) := by
  cases answer : s.jtc.answer with
  | none =>
      cases late with
      | true =>
          have lapsed : EnableBlock s true _ := .lapse awaiting answer rfl
          by_cases activating : s.phase = .jtcActivating
          · simpa [awaiting, answer, activating] using lapsed
          · simpa [awaiting, answer, activating] using lapsed
      | false =>
          have unchanged : ({ s with enablePc := .switch .await } : System) = s := by
            rw [← awaiting]
          have stayed : EnableBlock s false { s with enablePc := .switch .await } := by
            rw [unchanged]
            exact .stay
          simpa [awaiting, answer] using stayed
  | some ok =>
      cases ok with
      | false =>
          have declined : EnableBlock s late _ := .declined awaiting answer
          by_cases activating : s.phase = .jtcActivating
          · simpa [awaiting, answer, activating] using declined
          · simpa [awaiting, answer, activating] using declined
      | true =>
          by_cases activating : s.phase = .jtcActivating
          · have completed : EnableBlock s late _ := .complete awaiting answer activating
            simpa [awaiting, answer, activating, ResultSlot.setField, Controller.published]
              using completed
          · have overtaken : EnableBlock s late _ := .overtaken awaiting answer activating
            simpa [awaiting, answer, activating] using overtaken

theorem enableBlock_wait (waiting : s.enablePc = .wait .loadActive) :
    EnableBlock s late (runOn (.enable late) (s.enableStep late)) := by
  have returned (response : Response)
      (ended : s.enableResult.ready = true ∨ (s.active = true → late = true)) :
      EnableBlock s late { s with
        enableResponse := response
        enableCallbackActive := false
        enablePc := .idle } := .returnLast response waiting ended
  by_cases ready : s.enableResult.ready = true
  · have answered := fun response => returned response (Or.inl ready)
    by_cases active : s.active = true
    · simpa [waiting, active, ready] using answered _
    · simpa [waiting, active, ready] using answered _
  · by_cases active : s.active = true
    · cases late with
      | true =>
          have expired := fun response => returned response (Or.inr fun _ => rfl)
          simpa [waiting, active, ready] using expired _
      | false =>
          have unchanged : ({ s with enablePc := .wait .loadActive } : System) = s := by
            rw [← waiting]
          have stayed : EnableBlock s false { s with enablePc := .wait .loadActive } := by
            rw [unchanged]
            exact .stay
          simpa [waiting, active, ready] using stayed
    · have stopped := fun response =>
        returned response (Or.inr fun running => absurd running active)
      simpa [waiting, active, ready] using stopped _

/-- Every block of a running enable callback is one of the listed outcomes. -/
theorem enableBlock_of_running (yields : s.enablePc.yields = true)
    (running : s.enablePc ≠ .idle) :
    EnableBlock s late (runOn (.enable late) (s.enableStep late)) := by
  match pc : s.enablePc, yields, running with
  | .loopActive, _, _ => exact enableBlock_poll pc
  | .switch .acquire, _, _ => exact enableBlock_acquire pc
  | .switch .await, _, _ => exact enableBlock_await pc
  | .wait .loadActive, _, _ => exact enableBlock_wait pc

theorem disableBlock_call (parked : Parked s) :
    DisableBlock s false (runOn .callDisable s.callDisable) := by
  by_cases busy : s.disableCallbackActive = true
  · simp only [System.callDisable, busy, if_true, runOn, blockLength, settle, parked.disable]
    exact .stay
  · have fresh : s.disablePc = .idle := by
      by_contra running
      exact busy (parked.disableActive.mpr running)
    have refused (response : Response) : DisableBlock s false { s with
        disableResponse := response
        disableCallbackActive := false
        disablePc := .idle } := .refuse response fresh
    by_cases active : s.active = true
    · by_cases resting : s.phase = .idle
      · simpa [busy, active, resting] using refused _
      · by_cases rejected : rejectsDisable s.phase = true
        · simpa [busy, active, resting, rejected] using refused _
        · by_cases running : preempts s.phase s.owner = true
          · have lower : s.phase ≠ .enabled := by
              rintro enabled
              simp [enabled, preempts] at running
            have preempted : DisableBlock s false _ := .preempt fresh active running
            simpa [busy, active, resting, rejected, running, lower] using preempted
          · by_cases free : s.owner = .none
            · rw [free] at running
              by_cases enabled : s.phase = .enabled
              · have taken : DisableBlock s false _ := .takeEnabled fresh active enabled free
                rw [enabled] at rejected running
                simpa [busy, active, rejected, running, free, enabled] using taken
              · have taken : DisableBlock s false _ :=
                  .take fresh active ⟨resting, enabled, by simpa using rejected⟩ free
                simpa [busy, active, resting, rejected, running, free, enabled] using taken
            · simpa [busy, active, resting, rejected, running, free] using refused _
    · simpa [busy, active] using refused _

/-- A call starts the callback or is turned away at once. -/
theorem callDisable_fresh (parked : Parked s) :
    s.disablePc = .idle ∨ runOn .callDisable s.callDisable = s := by
  by_cases fresh : s.disablePc = .idle
  · exact Or.inl fresh
  · right
    simp only [System.callDisable, parked.disableActive.mpr fresh, if_true, runOn, blockLength,
      settle, parked.disable]

theorem disableBlock_acquire (calling : s.disablePc = .switch .acquire) :
    DisableBlock s late (runOn (.disable late) (s.disableStep late)) := by
  by_cases busy : s.switchInProgress = true
  · have unsent : DisableBlock s late _ := .unsent calling (Or.inl busy)
    simpa [calling, busy] using unsent
  · have free : s.switchInProgress = false := by simpa using busy
    cases late with
    | true =>
        have unsent : DisableBlock s true _ := .unsent calling (Or.inr rfl)
        simpa [calling, free] using unsent
    | false =>
        have sent : DisableBlock s false _ := .send calling free rfl
        simpa [calling, free] using sent

theorem disableBlock_await (awaiting : s.disablePc = .switch .await) :
    DisableBlock s late (runOn (.disable late) (s.disableStep late)) := by
  cases answer : s.jtc.answer with
  | none =>
      cases late with
      | true =>
          have declined : DisableBlock s true _ := .declined awaiting (Or.inr ⟨answer, rfl⟩)
          simpa [awaiting, answer] using declined
      | false =>
          have unchanged : ({ s with disablePc := .switch .await } : System) = s := by
            rw [← awaiting]
          have stayed : DisableBlock s false { s with disablePc := .switch .await } := by
            rw [unchanged]
            exact .stay
          simpa [awaiting, answer] using stayed
  | some ok =>
      cases ok with
      | false =>
          have declined : DisableBlock s late _ := .declined awaiting (Or.inl answer)
          simpa [awaiting, answer] using declined
      | true =>
          have completed : DisableBlock s late _ := .complete awaiting answer
          simpa [awaiting, answer] using completed

theorem disableBlock_wait (waiting : s.disablePc = .wait .loadActive) :
    DisableBlock s late (runOn (.disable late) (s.disableStep late)) := by
  have returned (response : Response)
      (ended : s.disableResult.ready = true ∨ (s.active = true → late = true)) :
      DisableBlock s late { s with
        disableResponse := response
        disableCallbackActive := false
        disablePc := .idle } := .returnLast response waiting ended
  by_cases ready : s.disableResult.ready = true
  · have answered := fun response => returned response (Or.inl ready)
    by_cases active : s.active = true
    · simpa [waiting, active, ready] using answered _
    · simpa [waiting, active, ready] using answered _
  · by_cases active : s.active = true
    · cases late with
      | true =>
          have expired := fun response => returned response (Or.inr fun _ => rfl)
          simpa [waiting, active, ready] using expired _
      | false =>
          have unchanged : ({ s with disablePc := .wait .loadActive } : System) = s := by
            rw [← waiting]
          have stayed : DisableBlock s false { s with disablePc := .wait .loadActive } := by
            rw [unchanged]
            exact .stay
          simpa [waiting, active, ready] using stayed
    · have stopped := fun response =>
        returned response (Or.inr fun running => absurd running active)
      simpa [waiting, active, ready] using stopped _

/-- Every block of a running disable callback is one of the listed outcomes. -/
theorem disableBlock_of_running (yields : s.disablePc.yields = true)
    (running : s.disablePc ≠ .idle) :
    DisableBlock s late (runOn (.disable late) (s.disableStep late)) := by
  match pc : s.disablePc, yields, running with
  | .switch .acquire, _, _ => exact disableBlock_acquire pc
  | .switch .await, _, _ => exact disableBlock_await pc
  | .wait .loadActive, _, _ => exact disableBlock_wait pc

theorem resetBlock_call (parked : Parked s) :
    ResetBlock s false (runOn .callReset s.callReset) := by
  by_cases busy : s.resetCallbackActive = true
  · simp only [System.callReset, busy, if_true, runOn, blockLength, settle, parked.reset]
    exact .stay
  · have fresh : s.resetPc = .idle := by
      by_contra running
      exact busy (parked.resetActive.mpr running)
    have refused (response : Response) : ResetBlock s false { s with
        resetResponse := response
        resetCallbackActive := false
        resetPc := .idle } := .refuse response fresh
    by_cases active : s.active = true
    · by_cases restart : s.restartRequired = true
      · simpa [busy, active, restart] using refused _
      · by_cases resting : s.phase = .idle ∨ s.phase = .failed
        · have accepted : ¬(s.phase ≠ .idle ∧ s.phase ≠ .failed) := by tauto
          by_cases free : s.owner = .none
          · have admitted : ResetBlock s false _ :=
              .accept fresh active (by simpa using restart) resting free
            simpa [busy, active, restart, accepted, free] using admitted
          · simpa [busy, active, restart, accepted, free] using refused _
        · have rejected : s.phase ≠ .idle ∧ s.phase ≠ .failed := by tauto
          simpa [busy, active, restart, rejected] using refused _
    · simpa [busy, active] using refused _

theorem resetBlock_wait (waiting : s.resetPc = .wait .loadActive) :
    ResetBlock s late (runOn (.reset late) (s.resetStep late)) := by
  have returned (response : Response)
      (ended : s.resetResult.ready = true ∨ (s.active = true → late = true)) :
      ResetBlock s late { s with
        resetResponse := response
        resetCallbackActive := false
        resetPc := .idle } := .returnLast response waiting ended
  by_cases ready : s.resetResult.ready = true
  · have answered := fun response => returned response (Or.inl ready)
    by_cases active : s.active = true
    · simpa [waiting, active, ready] using answered _
    · simpa [waiting, active, ready] using answered _
  · by_cases active : s.active = true
    · cases late with
      | true =>
          have expired := fun response => returned response (Or.inr fun _ => rfl)
          simpa [waiting, active, ready] using expired _
      | false =>
          have unchanged : ({ s with resetPc := .wait .loadActive } : System) = s := by
            rw [← waiting]
          have stayed : ResetBlock s false { s with resetPc := .wait .loadActive } := by
            rw [unchanged]
            exact .stay
          simpa [waiting, active, ready] using stayed
    · have stopped := fun response =>
        returned response (Or.inr fun running => absurd running active)
      simpa [waiting, active, ready] using stopped _

/-- Every block of a running reset callback is one of the listed outcomes. -/
theorem resetBlock_of_running (yields : s.resetPc.yields = true)
    (running : s.resetPc ≠ .idle) :
    ResetBlock s late (runOn (.reset late) (s.resetStep late)) := by
  match pc : s.resetPc, yields, running with
  | .wait .loadActive, _, _ => exact resetBlock_wait pc

theorem workerBlock_fire : WorkerBlock s .fireWorker s.fireWorker := by
  by_cases requested : s.emergencyJtcDeactivateRequest = true
  · simp only [System.fireWorker, requested, if_true]
    exact .take requested
  · simp only [System.fireWorker, requested]
    exact .rest

theorem workerBlock_call (parked : Parked s) (calling : s.workersCalling ≠ 0) :
    WorkerBlock s (.callWorker late) (runOn (.callWorker late) s.callWorker) := by
  by_cases blocked : s.switchInProgress = true
  · simp only [System.callWorker, blocked, if_true, runOn, blockLength, settle, parked.worker]
    exact .busy late calling blocked
  · have free : s.switchInProgress = false := by simpa using blocked
    cases late with
    | true =>
        have missing : WorkerBlock s (.callWorker true) _ := .missing calling free
        simpa [System.callWorker, System.resumeWorker, free] using missing
    | false =>
        have sent : WorkerBlock s (.callWorker false) _ := .send calling free
        simpa [System.callWorker, System.resumeWorker, free] using sent

theorem workerBlock_resume (awaiting : s.worker = .switch .await) :
    WorkerBlock s (.resumeWorker late) (runOn (.resumeWorker late) (s.resumeWorker late)) := by
  cases answer : s.jtc.answer with
  | none =>
      cases late with
      | true =>
          have lapsed : WorkerBlock s (.resumeWorker true) _ :=
            .declined true awaiting (Or.inr ⟨answer, rfl⟩)
          simpa [System.resumeWorker, awaiting, answer] using lapsed
      | false =>
          have same : { s with worker := .switch .await } = s := by rw [← awaiting]
          have waiting : WorkerBlock s (.resumeWorker false) s := .stay awaiting answer
          simpa [System.resumeWorker, awaiting, answer, same] using waiting
  | some ok =>
      cases ok with
      | true =>
          have switched : WorkerBlock s (.resumeWorker late) _ := .complete late awaiting answer
          simpa [System.resumeWorker, awaiting, answer] using switched
      | false =>
          have refused : WorkerBlock s (.resumeWorker late) _ :=
            .declined late awaiting (Or.inl answer)
          simpa [System.resumeWorker, awaiting, answer] using refused

/-- A worker inside `switchJtc` that is parked awaits its answer. -/
theorem awaiting_of_worker (parked : Parked s) (running : s.worker ≠ .idle) :
    s.worker = .switch .await := by
  have yields := parked.worker
  cases pc : s.worker with
  | idle => exact absurd pc running
  | switch inner => cases inner <;> simp_all

end Completeness

/-! ## Block-wise runs -/

/-- Every step of a block-wise run. -/
inductive BlockMove (config : Config) (s : System) : Event → System → Prop
  | skip (now : Int) (readings : Readings)
      (inactive : s.active = false) :
      BlockMove config s (.update now readings) s
  | update (now : Int) (readings : Readings) (t : Controller)
      (active : s.active = true)
      (cycle : Cycle config now (s.toController.refreshStatusWords readings) t) :
      BlockMove config s (.update now readings) { s with toController := t }
  | callEnable (t : System)
      (block : EnableBlock s false t)
      (fresh : s.enablePc = .idle ∨ t = s) :
      BlockMove config s .callEnable t
  | enable (late : Bool) (t : System)
      (running : s.enablePc ≠ .idle)
      (block : EnableBlock s late t) :
      BlockMove config s (.enable late) t
  | callDisable (t : System)
      (block : DisableBlock s false t)
      (fresh : s.disablePc = .idle ∨ t = s) :
      BlockMove config s .callDisable t
  | disable (late : Bool) (t : System)
      (running : s.disablePc ≠ .idle)
      (block : DisableBlock s late t) :
      BlockMove config s (.disable late) t
  | callReset (t : System)
      (block : ResetBlock s false t) :
      BlockMove config s .callReset t
  | reset (late : Bool) (t : System)
      (running : s.resetPc ≠ .idle)
      (block : ResetBlock s late t) :
      BlockMove config s (.reset late) t
  | fireWorker (t : System)
      (block : WorkerBlock s .fireWorker t) :
      BlockMove config s .fireWorker t
  | callWorker (late : Bool) (t : System)
      (block : WorkerBlock s (.callWorker late) t) :
      BlockMove config s (.callWorker late) t
  | resumeWorker (late : Bool) (t : System)
      (block : WorkerBlock s (.resumeWorker late) t) :
      BlockMove config s (.resumeWorker late) t
  | latchRestart (t : System)
      (block : WorkerBlock s .latchRestart t) :
      BlockMove config s .latchRestart t
  | controllerManager (ok changed activate : Bool) (pending : List Bool)
      (oldest : s.jtc.pending = activate :: pending) :
      BlockMove config s (.controllerManager ok changed) { s with
        jtc := {
          active := if changed then activate else s.jtc.active
          pending := pending
          answer := if pending = [] then some ok else s.jtc.answer } }
  | activate
      (inactive : s.active = false) :
      BlockMove config s .activate { s with toController := s.toController.onActivate }
  | deactivate
      (active : s.active = true) :
      BlockMove config s .deactivate { s with toController := s.toController.onDeactivate }

section Runs

variable {config : Config} {s t : System} {event : Event}

/-- Every block step of a parked system is one of the listed moves. -/
theorem blockMove_of_step (parked : Parked s) (step : blockStep config s event = some t) :
    BlockMove config s event t := by
  rw [blockStep, Option.map_eq_some_iff] at step
  obtain ⟨middle, first, rfl⟩ := step
  cases event with
  | update now readings =>
      cases first
      by_cases active : s.active = true
      · exact .update now readings _ active (s.toController.update_cycle config now readings active)
      · simp only [Bool.not_eq_true] at active
        simp only [runOn, s.toController.update_inactive config now readings active]
        exact .skip now readings active
  | callEnable =>
      cases first
      exact .callEnable _ (enableBlock_call parked) (callEnable_fresh parked)
  | enable late =>
      rw [atomicStep, Option.ite_none_left_eq_some] at first
      obtain ⟨running, same⟩ := first
      cases same
      exact .enable late _ running (enableBlock_of_running parked.enable running)
  | callDisable =>
      cases first
      exact .callDisable _ (disableBlock_call parked) (callDisable_fresh parked)
  | disable late =>
      rw [atomicStep, Option.ite_none_left_eq_some] at first
      obtain ⟨running, same⟩ := first
      cases same
      exact .disable late _ running (disableBlock_of_running parked.disable running)
  | callReset =>
      cases first
      exact .callReset _ (resetBlock_call parked)
  | reset late =>
      rw [atomicStep, Option.ite_none_left_eq_some] at first
      obtain ⟨running, same⟩ := first
      cases same
      exact .reset late _ running (resetBlock_of_running parked.reset running)
  | fireWorker =>
      cases first
      exact .fireWorker _ workerBlock_fire
  | callWorker late =>
      rw [atomicStep, Option.ite_none_left_eq_some] at first
      obtain ⟨calling, same⟩ := first
      cases same
      exact .callWorker late _ (workerBlock_call parked calling)
  | resumeWorker late =>
      rw [atomicStep, Option.ite_none_left_eq_some] at first
      obtain ⟨running, same⟩ := first
      cases same
      exact .resumeWorker late _ (workerBlock_resume (awaiting_of_worker parked running))
  | latchRestart =>
      rw [atomicStep, Option.ite_none_left_eq_some] at first
      obtain ⟨failed, same⟩ := first
      cases same
      exact .latchRestart _ (.latch failed)
  | controllerManager ok changed =>
      rw [atomicStep, Option.map_eq_some_iff] at first
      obtain ⟨jtc, executed, same⟩ := first
      cases same
      unfold Jtc.execute at executed
      split at executed
      · contradiction
      · rename_i activate pending oldest
        cases executed
        exact .controllerManager ok changed activate pending oldest
  | activate =>
      rw [atomicStep, Option.ite_none_left_eq_some] at first
      obtain ⟨inactive, same⟩ := first
      cases same
      exact .activate (by simpa using inactive)
  | deactivate =>
      rw [atomicStep, Option.ite_none_right_eq_some] at first
      obtain ⟨active, same⟩ := first
      cases same
      exact .deactivate active

theorem parked_enable {late : Bool} (parked : Parked s) (block : EnableBlock s late t) :
    Parked t := by
  obtain ⟨enable, disable, reset, worker, enableActive, disableActive, resetActive⟩ := parked
  cases block <;>
    exact ⟨by simp_all [EnablePc.yields], disable, reset, worker, by simp_all, disableActive,
      resetActive⟩

theorem parked_disable {late : Bool} (parked : Parked s) (block : DisableBlock s late t) :
    Parked t := by
  obtain ⟨enable, disable, reset, worker, enableActive, disableActive, resetActive⟩ := parked
  cases block <;>
    exact ⟨enable, by simp_all [DisablePc.yields], reset, worker, enableActive, by simp_all,
      resetActive⟩

theorem parked_reset {late : Bool} (parked : Parked s) (block : ResetBlock s late t) :
    Parked t := by
  obtain ⟨enable, disable, reset, worker, enableActive, disableActive, resetActive⟩ := parked
  cases block <;>
    exact ⟨enable, disable, by simp_all [ResetPc.yields], worker, enableActive, disableActive,
      by simp_all⟩

theorem parked_worker (parked : Parked s) (block : WorkerBlock s event t) : Parked t := by
  obtain ⟨enable, disable, reset, worker, enableActive, disableActive, resetActive⟩ := parked
  cases block <;>
    exact ⟨enable, disable, reset, by simp_all [WorkerPc.yields], enableActive, disableActive,
      resetActive⟩

/-- A block step parks every callback again. -/
theorem parked_of_move (parked : Parked s) (move : BlockMove config s event t) : Parked t := by
  cases move with
  | skip => exact parked
  | update now readings t active cycle =>
      have kept := Controller.untouched_of_cycle cycle
      exact {
        enable := parked.enable
        disable := parked.disable
        reset := parked.reset
        worker := parked.worker
        enableActive := by rw [kept.enableCallbackActive]; exact parked.enableActive
        disableActive := by rw [kept.disableCallbackActive]; exact parked.disableActive
        resetActive := by rw [kept.resetCallbackActive]; exact parked.resetActive }
  | callEnable t block => exact parked_enable parked block
  | enable late t running block => exact parked_enable parked block
  | callDisable t block => exact parked_disable parked block
  | disable late t running block => exact parked_disable parked block
  | callReset t block => exact parked_reset parked block
  | reset late t running block => exact parked_reset parked block
  | fireWorker t block => exact parked_worker parked block
  | callWorker late t block => exact parked_worker parked block
  | resumeWorker late t block => exact parked_worker parked block
  | latchRestart t block => exact parked_worker parked block
  | controllerManager ok changed activate pending oldest =>
      exact ⟨parked.enable, parked.disable, parked.reset, parked.worker, parked.enableActive,
        parked.disableActive, parked.resetActive⟩
  | activate inactive =>
      exact ⟨parked.enable, parked.disable, parked.reset, parked.worker, parked.enableActive,
        parked.disableActive, parked.resetActive⟩
  | deactivate active =>
      exact ⟨parked.enable, parked.disable, parked.reset, parked.worker, parked.enableActive,
        parked.disableActive, parked.resetActive⟩

/-! ## The phase between cycles -/

/-- A block step as the phase sees it. -/
inductive PhaseMove (config : Config) (s : System) (event : Event) (t : System) : Prop
  /-- The phase stays. -/
  | same
      (phase : t.phase = s.phase)
  /-- A cycle runs. -/
  | cycle (now : Int) (readings : Readings) (c : Controller)
      (update : event = .update now readings)
      (cycle : Cycle config now (s.toController.refreshStatusWords readings) c)
      (target : t = { s with toController := c })
  /-- The enable callback stores `kEnabled`. -/
  | enabled
      (before : s.phase = .jtcActivating)
      (after : t.phase = .enabled)
  /-- The disable callback stores `kJtcDeactivating`. -/
  | deactivating
      (before : s.phase = .enabled)
      (after : t.phase = .jtcDeactivating)
  /-- The controller is activated or deactivated. -/
  | lifecycle
      (after : t.phase = .startupSanitizing ∨ t.phase = .inactive)

theorem phaseMove_enable {late : Bool} (block : EnableBlock s late t) :
    PhaseMove config s event t := by
  cases block with
  | complete _ _ activating => exact .enabled activating rfl
  | _ => exact .same rfl

theorem phaseMove_disable {late : Bool} (block : DisableBlock s late t) :
    PhaseMove config s event t := by
  cases block with
  | takeEnabled _ _ enabled => exact .deactivating enabled rfl
  | _ => exact .same rfl

theorem phaseMove_reset {late : Bool} (block : ResetBlock s late t) :
    PhaseMove config s event t := by
  cases block <;> exact .same rfl

theorem phaseMove_worker (block : WorkerBlock s event t) : PhaseMove config s event t := by
  cases block <;> exact .same rfl

/-- Between cycles only the two stores of the callbacks and the lifecycle change
the phase. -/
theorem phaseMove_of_move (move : BlockMove config s event t) : PhaseMove config s event t := by
  cases move with
  | skip | controllerManager => exact .same rfl
  | update now readings c active cycle => exact .cycle now readings c rfl cycle rfl
  | callEnable t block | enable late t running block => exact phaseMove_enable block
  | callDisable t block | disable late t running block => exact phaseMove_disable block
  | callReset t block | reset late t running block => exact phaseMove_reset block
  | fireWorker t block | callWorker late t block | resumeWorker late t block
  | latchRestart t block => exact phaseMove_worker block
  | activate => exact .lifecycle (Or.inl rfl)
  | deactivate => exact .lifecycle (Or.inr rfl)

/-! ## Invariants of runs -/

/-- The invariant rule of block-wise runs with a history variable; a step is given
both as a computation and by its outcome. -/
theorem observed_step_invariant {ω : Type} {record : System → Event → System → ω → ω}
    {guard : Guard System Event} {start : System} {history : ω} {observation : System × ω}
    (property : System → ω → Prop) (parked : Parked start) (initial : property start history)
    (preserved : ∀ {source target : System} {history : ω} (event : Event), Parked source →
      property source history → guard source event = true →
        blockStep config source event = some target → BlockMove config source event target →
          property target (record source event target history))
    (reachable : Reachable (observed (blockStep config) record) (onState guard) (start, history)
      observation) :
    Parked observation.1 ∧ property observation.1 observation.2 := by
  refine reachable.invariant (fun current => Parked current.1 ∧ property current.1 current.2)
    ⟨parked, initial⟩ ?_
  rintro source target event ⟨parked, holds⟩ allowed step
  obtain ⟨moves, recorded⟩ := observed_eq_some_iff.mp step
  have move := blockMove_of_step parked moves
  rw [recorded]
  exact ⟨parked_of_move parked move, preserved event parked holds allowed moves move⟩

/-- The invariant rule of block-wise runs with a history variable. -/
theorem observed_invariant {ω : Type} {record : System → Event → System → ω → ω}
    {guard : Guard System Event} {start : System} {history : ω} {observation : System × ω}
    (property : System → ω → Prop) (parked : Parked start) (initial : property start history)
    (preserved : ∀ {source target : System} {history : ω} (event : Event), Parked source →
      property source history → guard source event = true →
        BlockMove config source event target →
          property target (record source event target history))
    (reachable : Reachable (observed (blockStep config) record) (onState guard) (start, history)
      observation) :
    Parked observation.1 ∧ property observation.1 observation.2 := by
  apply observed_step_invariant property parked initial _ reachable
  intro source target history event parked holds allowed _ move
  exact preserved event parked holds allowed move

/-- The invariant rule of block-wise runs; a step is given both as a computation
and by its outcome. -/
theorem block_step_invariant {guard : Guard System Event} {start state : System}
    (property : System → Prop) (parked : Parked start) (initial : property start)
    (preserved : ∀ {source target : System} (event : Event), Parked source → property source →
      guard source event = true → blockStep config source event = some target →
        BlockMove config source event target → property target)
    (reachable : Reachable (blockStep config) guard start state) :
    Parked state ∧ property state := by
  refine reachable.invariant (fun current => Parked current ∧ property current)
    ⟨parked, initial⟩ ?_
  rintro source target event ⟨parked, holds⟩ allowed step
  have move := blockMove_of_step parked step
  exact ⟨parked_of_move parked move, preserved event parked holds allowed step move⟩

/-- The invariant rule of block-wise runs. -/
theorem block_invariant {guard : Guard System Event} {start state : System}
    (property : System → Prop) (parked : Parked start) (initial : property start)
    (preserved : ∀ {source target : System} (event : Event), Parked source → property source →
      guard source event = true → BlockMove config source event target → property target)
    (reachable : Reachable (blockStep config) guard start state) :
    Parked state ∧ property state := by
  apply block_step_invariant property parked initial _ reachable
  intro source target event parked holds allowed _ move
  exact preserved event parked holds allowed move

/-- Nothing runs when the controller is configured. -/
theorem parked_configured : Parked configured := by
  constructor <;> decide

/-- Nothing runs when the controller is first activated. -/
theorem parked_activated : Parked activated := by
  constructor <;> decide

end Runs

end RtControl.EnableManager
