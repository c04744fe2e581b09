import RtControl.EnableManager.Stations
import RtControl.EnableManager.Atomic

/-!
# Positions of the callbacks

In a closed loop at most one callback runs.  Its program counter and the station
of the group determine each other up to the wait loops, and each of its steps
takes the group to a station that the counter names.
-/

namespace RtControl.EnableManager

/-! ## Positions of the callbacks -/

/-- The slot and the response of a successful operation. -/
def succeeded : ResultSlot :=
  Controller.published true { stage := .success }

/-- The fields from a field on. -/
def SlotField.rest : SlotField → List SlotField
  | .ok => [.ok, .failedBatch, .failedJoint, .statusWord, .stage]
  | .failedBatch => [.failedBatch, .failedJoint, .statusWord, .stage]
  | .failedJoint => [.failedJoint, .statusWord, .stage]
  | .statusWord => [.statusWord, .stage]
  | .stage => [.stage]

/-- The stations at which a call may find the group. -/
def Station.isResting : Station → Bool
  | .startup _ | .idle .none | .enabled .none => true
  | _ => false

/-- The stations at which the enable callback polls. -/
def Station.isClimbing : Station → Bool
  | .enableRequested | .batch _ | .delay _ | .activating => true
  | _ => false

/-- The stations at which the disable callback polls. -/
def Station.isFalling : Station → Bool
  | .deactivating true | .disabling _ => true
  | _ => false

/-- No switch request is in flight. -/
structure SwitchFree (s : System) : Prop where
  released : s.switchInProgress = false
  settled : s.jtc.pending = []

/-- Where a `switchJtc` that succeeds stands. -/
def SwitchAt (activate : Bool) (s : System) : SwitchPc → Prop
  | .acquire => SwitchFree s
  | .probe => s.switchInProgress = true ∧ s.jtc.pending = []
  | .await => s.switchInProgress = true ∧
      (s.jtc.pending = [activate] ∧ s.jtc.answer = none ∨
        s.jtc.pending = [] ∧ s.jtc.answer = some true)
  | .clear result => s.switchInProgress = true ∧ s.jtc.pending = [] ∧ result = .success
  | .returned result => SwitchFree s ∧ result = .success

/-- Where the enable callback stands at a station. -/
def EnableAt (station : Station) (s : System) : EnablePc → Prop
  | .idle | .loadActive | .loadRestart | .loadEnabled | .loadIdle | .wait .release =>
      station.isResting = true ∧ SwitchFree s
  | .casOwner => station = .idle .none ∧ SwitchFree s
  | .clearReady => station = .idle .enable ∧ SwitchFree s
  | .clearHardware => station = .idle .enable ∧ SwitchFree s ∧ s.enableResult.ready = false
  | .raiseRequest =>
      station = .idle .enable ∧ SwitchFree s ∧ s.enableResult.ready = false ∧
        s.enableHardwareReady = false
  | .loopActive | .loopHardware | .loopReady | .loopClock =>
      station.isClimbing = true ∧ SwitchFree s ∧ s.enableResult.ready = false
  | .afterReady | .afterHardware | .finalCheck | .clearFailure _ | .storeEnabled =>
      station = .activating ∧ SwitchFree s ∧ s.enableResult.ready = false
  | .switch pc => station = .activating ∧ SwitchAt true s pc ∧ s.enableResult.ready = false
  | .publish field =>
      station = .enabled .enable ∧ SwitchFree s ∧
        field.rest.foldl (·.setField succeeded) s.enableResult = { succeeded with ready := false }
  | .publishReady =>
      station = .enabled .enable ∧ SwitchFree s ∧
        s.enableResult = { succeeded with ready := false }
  | .releaseOwner => station = .enabled .enable ∧ SwitchFree s ∧ s.enableResult = succeeded
  | .wait .loadActive | .wait .loadReady | .wait .confirmReady =>
      station = .enabled .none ∧ SwitchFree s ∧ s.enableResult = succeeded
  | .wait (.fill field) =>
      station = .enabled .none ∧ SwitchFree s ∧ s.enableResult = succeeded ∧
        field.rest.foldl (·.readField succeeded) s.enableResponse = fillResponse succeeded
  | .storeRestart | .storeEmergency | .failedCheck | .raiseFailed | .wait .checkClock => False

/-- Where the disable callback stands at a station. -/
def DisableAt (station : Station) (s : System) : DisablePc → Prop
  | .idle | .loadActive | .loadPhase | .wait .release =>
      station.isResting = true ∧ SwitchFree s
  | .loadOwner phase | .casOwner phase =>
      station = .enabled .none ∧ SwitchFree s ∧ phase = .enabled
  | .clearReady phase => station = .enabled .disable ∧ SwitchFree s ∧ phase = .enabled
  | .clearFailed phase =>
      station = .enabled .disable ∧ SwitchFree s ∧ s.disableResult.ready = false ∧
        phase = .enabled
  | .storeDeactivating =>
      station = .enabled .disable ∧ SwitchFree s ∧ s.disableResult.ready = false
  | .switch pc =>
      station = .deactivating false ∧ SwitchAt false s pc ∧ s.disableResult.ready = false
  | .raiseRequest _ =>
      station = .deactivating false ∧ SwitchFree s ∧ s.disableResult.ready = false
  | .wait .loadActive | .wait .loadReady | .wait .checkClock =>
      SwitchFree s ∧
        (station.isFalling = true ∧ s.disableResult.ready = false ∨
          station = .idle .none ∧ s.disableResult = succeeded)
  | .wait .confirmReady => station = .idle .none ∧ SwitchFree s ∧ s.disableResult = succeeded
  | .wait (.fill field) =>
      station = .idle .none ∧ SwitchFree s ∧ s.disableResult = succeeded ∧
        field.rest.foldl (·.readField succeeded) s.disableResponse = fillResponse succeeded
  | .storeFailed | .storeRestart | .recordFailure _ => False

/-- Where the reset callback stands at a station. -/
def ResetAt (station : Station) (s : System) : ResetPc → Prop
  | .idle | .loadActive | .loadRestart | .loadPhase | .wait .release =>
      station.isResting = true ∧ SwitchFree s
  | .casOwner => station = .idle .none ∧ SwitchFree s
  | .clearReady => station = .idle .reset ∧ SwitchFree s
  | .raiseRequest => station = .idle .reset ∧ SwitchFree s ∧ s.resetResult.ready = false
  | .wait .loadActive | .wait .loadReady | .wait .checkClock =>
      SwitchFree s ∧
        (station = .resetRequested ∧ s.resetResult.ready = false ∨
          station = .idle .none ∧ s.resetResult.ready = true)
  | .wait .confirmReady | .wait (.fill _) =>
      station = .idle .none ∧ SwitchFree s ∧ s.resetResult.ready = true

/-- At most one callback runs. -/
inductive Occupied (station : Station) (s : System) : Prop
  | enable
      (position : EnableAt station s s.enablePc)
      (disable : s.disablePc = .idle)
      (reset : s.resetPc = .idle) : Occupied station s
  | disable
      (position : DisableAt station s s.disablePc)
      (enable : s.enablePc = .idle)
      (reset : s.resetPc = .idle) : Occupied station s
  | reset
      (position : ResetAt station s s.resetPc)
      (enable : s.enablePc = .idle)
      (disable : s.disablePc = .idle) : Occupied station s

/-- The invocations of the worker timer: those that go on to call `switchJtc`, the
one inside it and those that have the restart to store. -/
def System.workers (s : System) : Nat × WorkerPc × Nat :=
  (s.workersCalling, s.worker, s.workersFailed)

/-- The closed loop at a station. -/
structure ClosedLoop (station : Station) (s : System) : Prop where
  stands : Stands station s.toController
  occupied : Occupied station s
  workers : s.workers = (0, .idle, 0)
  enableActive : s.enableCallbackActive = true ↔ s.enablePc ≠ .idle
  disableActive : s.disableCallbackActive = true ↔ s.disablePc ≠ .idle
  resetActive : s.resetCallbackActive = true ↔ s.resetPc ≠ .idle

/-! ## The station after a step -/

/-- The station after a step of the enable callback. -/
def EnablePc.moves (station : Station) : EnablePc → Station
  | .casOwner => .idle .enable
  | .raiseRequest => .enableRequested
  | .storeEnabled => .enabled .enable
  | .releaseOwner => .enabled .none
  | _ => station

/-- The station after a step of the disable callback. -/
def DisablePc.moves (station : Station) : DisablePc → Station
  | .casOwner _ => .enabled .disable
  | .storeDeactivating => .deactivating false
  | .raiseRequest _ => .deactivating true
  | _ => station

/-- The station after a step of the reset callback. -/
def ResetPc.moves (station : Station) : ResetPc → Station
  | .casOwner => .idle .reset
  | .raiseRequest => .resetRequested
  | _ => station

/-- The station after a step. -/
def stationAfter (s : System) (station : Station) : Event → Station
  | .update now readings =>
      station.next ((s.toController.refreshStatusWords readings).settles now)
  | .enable _ => s.enablePc.moves station
  | .disable _ => s.disablePc.moves station
  | .reset _ => s.resetPc.moves station
  | _ => station

/-! ## Cycles between the steps of a callback -/

section Cycles

variable {station : Station} {settled : Bool} {s t : System}

theorem Station.next_isResting (resting : station.isResting = true) :
    (station.next settled).isResting = true := by
  cases station with
  | startup stage =>
      simp only [next]
      split_ifs <;> rfl
  | idle owner => exact resting
  | enabled owner => exact resting
  | _ => exact absurd resting Bool.false_ne_true

theorem Station.next_isClimbing (climbing : station.isClimbing = true) :
    (station.next settled).isClimbing = true := by
  cases station with
  | enableRequested => rfl
  | batch number =>
      simp only [next]
      split_ifs <;> rfl
  | delay number =>
      simp only [next]
      split_ifs <;> rfl
  | activating => rfl
  | _ => exact absurd climbing Bool.false_ne_true

/-- A descent of the disable callback goes on, or its last stage ends in idle. -/
theorem Station.next_isFalling {s : Controller} (stands : Stands station s)
    (falling : station.isFalling = true) :
    (station.next settled).isFalling = true ∧ ¬(settled = true ∧ station = .disabling 2) ∨
      station.next settled = .idle .none ∧ settled = true ∧ station = .disabling 2 := by
  cases station with
  | deactivating requested =>
      cases requested
      · exact absurd falling Bool.false_ne_true
      · exact Or.inl ⟨rfl, by simp⟩
  | disabling stage =>
      have low : stage ≤ 2 := stands.counts.2
      cases settled with
      | false => exact Or.inl ⟨rfl, by simp⟩
      | true =>
          by_cases last : stage = 2
          · subst last
            exact Or.inr ⟨rfl, rfl, rfl⟩
          · have more : stage < 2 := by omega
            exact Or.inl ⟨by simp [next, more, isFalling], by simp [last]⟩
  | _ => exact absurd falling Bool.false_ne_true

/-- The members of the callbacks and of the JTC that a cycle leaves alone. -/
structure SameCallbacks (s t : System) : Prop where
  switchInProgress : t.switchInProgress = s.switchInProgress
  jtc : t.jtc = s.jtc
  enableResponse : t.enableResponse = s.enableResponse
  disableResponse : t.disableResponse = s.disableResponse

theorem SwitchFree.congr (free : SwitchFree s) (same : SameCallbacks s t) : SwitchFree t :=
  ⟨same.switchInProgress.trans free.released, by rw [same.jtc, free.settled]⟩

theorem SwitchAt.congr {activate : Bool} {pc : SwitchPc} (position : SwitchAt activate s pc)
    (same : SameCallbacks s t) : SwitchAt activate t pc := by
  cases pc with
  | acquire => exact SwitchFree.congr position same
  | returned result => exact ⟨position.1.congr same, position.2⟩
  | _ => simpa only [SwitchAt, same.switchInProgress, same.jtc] using position

theorem EnableAt.cycled {pc : EnablePc} (position : EnableAt station s pc)
    (cycled : Cycled station settled s.toController t.toController) (same : SameCallbacks s t) :
    EnableAt (station.next settled) t pc := by
  have hardware := cycled.enableHardwareReady
  fun_cases EnableAt station s pc <;>
    simp only [EnableAt, cycled.enableResult, same.enableResponse] at position ⊢ <;>
    grind [Station.next, Station.next_isResting, Station.next_isClimbing, SwitchFree.congr,
      SwitchAt.congr]

theorem DisableAt.cycled {pc : DisablePc} (position : DisableAt station s pc)
    (stands : Stands station s.toController)
    (cycled : Cycled station settled s.toController t.toController) (same : SameCallbacks s t) :
    DisableAt (station.next settled) t pc := by
  have published := cycled.disableResult
  fun_cases DisableAt station s pc <;>
    simp only [DisableAt, same.disableResponse] at position ⊢ <;>
    grind [Station.next, Station.next_isResting, Station.next_isFalling, SwitchFree.congr,
      SwitchAt.congr, succeeded]

theorem ResetAt.cycled {pc : ResetPc} (position : ResetAt station s pc)
    (cycled : Cycled station settled s.toController t.toController) (same : SameCallbacks s t) :
    ResetAt (station.next settled) t pc := by
  have published := cycled.resetResult
  fun_cases ResetAt station s pc <;>
    simp only [ResetAt] at position ⊢ <;>
    grind [Station.next, Station.next_isResting, SwitchFree.congr, Controller.published]

end Cycles

/-! ## Steps of the callbacks -/

section Asides

variable (s : System) (late : Bool)

/-- A step of the enable callback leaves the other callbacks, the workers and the
stage deadline alone. -/
theorem enableStep_aside :
    (s.enableStep late).disablePc = s.disablePc ∧ (s.enableStep late).resetPc = s.resetPc ∧
      (s.enableStep late).workers = s.workers ∧
      (s.enableStep late).disableCallbackActive = s.disableCallbackActive ∧
      (s.enableStep late).resetCallbackActive = s.resetCallbackActive ∧
      (s.enableStep late).stageDeadlineNs = s.stageDeadlineNs := by
  cases pc : s.enablePc with
  | switch inner =>
      rcases switchStep_frame s late true inner with ⟨switchInProgress, jtc, switched⟩
      cases inner with
      | returned result => cases result <;> simp [System.enableStep, System.workers, pc]
      | _ => simp [System.enableStep, System.workers, pc, switched]
  | wait inner => cases inner <;> simp [System.enableStep, System.workers, pc]
  | _ =>
      simp only [System.enableStep, pc]
      try split_ifs
      all_goals simp [System.answerEnable, System.workers]

/-- A step of the disable callback leaves the other callbacks, the workers and the
stage deadline alone. -/
theorem disableStep_aside :
    (s.disableStep late).enablePc = s.enablePc ∧ (s.disableStep late).resetPc = s.resetPc ∧
      (s.disableStep late).workers = s.workers ∧
      (s.disableStep late).enableCallbackActive = s.enableCallbackActive ∧
      (s.disableStep late).resetCallbackActive = s.resetCallbackActive ∧
      (s.disableStep late).stageDeadlineNs = s.stageDeadlineNs := by
  cases pc : s.disablePc with
  | switch inner =>
      rcases switchStep_frame s late false inner with ⟨switchInProgress, jtc, switched⟩
      cases inner with
      | returned result => cases result <;> simp [System.disableStep, System.workers, pc]
      | _ => simp [System.disableStep, System.workers, pc, switched]
  | wait inner => cases inner <;> simp [System.disableStep, System.workers, pc]
  | _ =>
      simp only [System.disableStep, pc]
      try split_ifs
      all_goals simp [System.answerDisable, System.workers]

/-- A step of the reset callback leaves the other callbacks, the workers and the
stage deadline alone. -/
theorem resetStep_aside :
    (s.resetStep late).enablePc = s.enablePc ∧ (s.resetStep late).disablePc = s.disablePc ∧
      (s.resetStep late).workers = s.workers ∧
      (s.resetStep late).enableCallbackActive = s.enableCallbackActive ∧
      (s.resetStep late).disableCallbackActive = s.disableCallbackActive ∧
      (s.resetStep late).stageDeadlineNs = s.stageDeadlineNs := by
  cases pc : s.resetPc with
  | wait inner => cases inner <;> simp [System.resetStep, System.workers, pc]
  | _ =>
      simp only [System.resetStep, pc]
      try split_ifs
      all_goals simp [System.answerReset, System.workers]

/-- A step of a running disable callback keeps the callback flag or ends the
callback. -/
theorem disableStep_callback (running : s.disablePc ≠ .idle) :
    (s.disableStep late).disablePc ≠ .idle ∧
        (s.disableStep late).disableCallbackActive = s.disableCallbackActive ∨
      (s.disableStep late).disablePc = .idle ∧
        (s.disableStep late).disableCallbackActive = false := by
  cases pc : s.disablePc with
  | idle => exact absurd pc running
  | switch inner =>
      rcases switchStep_frame s late false inner with ⟨switchInProgress, jtc, switched⟩
      cases inner with
      | returned result => cases result <;> simp [System.disableStep, pc]
      | _ => simp [System.disableStep, pc, switched]
  | wait inner => cases inner <;> simp [System.disableStep, pc]
  | recordFailure field => cases field <;> simp [System.disableStep, pc, FailureField.next]
  | _ =>
      simp only [System.disableStep, pc]
      try split_ifs
      all_goals simp [System.answerDisable]

/-- A step of a running reset callback keeps the callback flag or ends the
callback. -/
theorem resetStep_callback (running : s.resetPc ≠ .idle) :
    (s.resetStep late).resetPc ≠ .idle ∧
        (s.resetStep late).resetCallbackActive = s.resetCallbackActive ∨
      (s.resetStep late).resetPc = .idle ∧ (s.resetStep late).resetCallbackActive = false := by
  cases pc : s.resetPc with
  | idle => exact absurd pc running
  | wait inner => cases inner <;> simp [System.resetStep, pc]
  | _ =>
      simp only [System.resetStep, pc]
      try split_ifs
      all_goals simp [System.answerReset]

end Asides

/-- The members a station does not speak about. -/
theorem Stands.unread {station : Station} {s : Controller} (stands : Stands station s)
    (switchInProgress enableCallbackActive disableCallbackActive resetCallbackActive : Bool)
    (enableResult disableResult resetResult : ResultSlot) (lastFailure : Failure) :
    Stands station { s with
      switchInProgress, enableCallbackActive, disableCallbackActive, resetCallbackActive,
      enableResult, disableResult, resetResult, lastFailure } := by
  cases station <;> exact { stands with }

section Callbacks

variable {station : Station} {s : System}

/-- One step of a `switchJtc` that succeeds. -/
theorem SwitchAt.step {activate : Bool} {pc : SwitchPc} (position : SwitchAt activate s pc) :
    SwitchAt activate (s.switchStep activate false pc).1 (s.switchStep activate false pc).2 := by
  cases pc with
  | acquire =>
      simp only [System.switchStep, position.released, Bool.false_eq_true, if_false]
      exact ⟨rfl, position.settled⟩
  | probe =>
      rcases position with ⟨held, empty⟩
      simp only [System.switchStep, Bool.false_eq_true, if_false]
      exact ⟨held, Or.inl ⟨by simp [Jtc.send, empty], rfl⟩⟩
  | await =>
      rcases position with ⟨held, ⟨sent, unanswered⟩ | ⟨empty, answered⟩⟩
      · simp only [System.switchStep, unanswered, Bool.false_eq_true, if_false]
        exact ⟨held, Or.inl ⟨sent, unanswered⟩⟩
      · simp only [System.switchStep, answered, if_true]
        exact ⟨held, empty, rfl⟩
  | clear result =>
      rcases position with ⟨held, empty, success⟩
      exact ⟨⟨rfl, empty⟩, success⟩
  | returned result => exact position

theorem Station.eq_idle (resting : station.isResting = true) (idle : station.phase = .idle) :
    station = .idle .none := by
  cases station with
  | idle owner => cases owner <;> first | rfl | exact absurd resting Bool.false_ne_true
  | startup | enabled => exact absurd idle (by simp [phase])
  | _ => exact absurd resting Bool.false_ne_true

theorem Station.eq_enabled (resting : station.isResting = true)
    (enabled : station.phase = .enabled) : station = .enabled .none := by
  cases station with
  | enabled owner => cases owner <;> first | rfl | exact absurd resting Bool.false_ne_true
  | startup | idle => exact absurd enabled (by simp [phase])
  | _ => exact absurd resting Bool.false_ne_true

/-- A step of the enable callback keeps the closed loop on its course. -/
theorem EnableAt.step (stands : Stands station s.toController)
    (position : EnableAt station s s.enablePc) :
    Stands (s.enablePc.moves station) (s.enableStep false).toController ∧
      EnableAt (s.enablePc.moves station) (s.enableStep false) (s.enableStep false).enablePc := by
  cases pc : s.enablePc with
  | idle =>
      rw [pc] at position
      simp only [System.enableStep, pc, EnablePc.moves]
      exact ⟨stands, position⟩
  | loadActive =>
      rw [pc] at position
      simp only [System.enableStep, pc, stands.active, if_true, EnablePc.moves]
      exact ⟨stands, position.1, position.2.released, position.2.settled⟩
  | loadRestart =>
      rw [pc] at position
      simp only [System.enableStep, pc, stands.running, Bool.false_eq_true, if_false,
        EnablePc.moves]
      exact ⟨stands, position.1, position.2.released, position.2.settled⟩
  | loadEnabled =>
      rw [pc] at position
      simp only [System.enableStep, pc, EnablePc.moves]
      split_ifs
      · exact ⟨stands, position.1, position.2.released, position.2.settled⟩
      · exact ⟨stands, position.1, position.2.released, position.2.settled⟩
  | loadIdle =>
      rw [pc] at position
      simp only [System.enableStep, pc, EnablePc.moves]
      split_ifs with busy
      · exact ⟨stands, position.1, position.2.released, position.2.settled⟩
      · have resting : station = .idle .none :=
          Station.eq_idle position.1 (stands.phase ▸ not_not.mp busy)
        exact ⟨stands, resting, position.2.released, position.2.settled⟩
  | casOwner =>
      rw [pc] at position
      rcases position with ⟨rfl, free⟩
      have owner : s.owner = .none := stands.owner
      simp only [System.enableStep, pc, owner, if_true, EnablePc.moves]
      exact ⟨{ stands with owner := rfl, counts := trivial }, rfl, free.released, free.settled⟩
  | clearReady =>
      rw [pc] at position
      rcases position with ⟨rfl, free⟩
      simp only [System.enableStep, pc, EnablePc.moves]
      exact ⟨{ stands with }, rfl, ⟨free.released, free.settled⟩, rfl⟩
  | clearHardware =>
      rw [pc] at position
      rcases position with ⟨rfl, free, unready⟩
      simp only [System.enableStep, pc, EnablePc.moves]
      exact ⟨{ stands with }, rfl, ⟨free.released, free.settled⟩, unready, rfl⟩
  | raiseRequest =>
      rw [pc] at position
      rcases position with ⟨rfl, free, unready, hardware⟩
      simp only [System.enableStep, pc, EnablePc.moves]
      exact ⟨{ stands with enableRequest := rfl, counts := hardware }, rfl,
        ⟨free.released, free.settled⟩, unready⟩
  | loopActive =>
      rw [pc] at position
      rcases position with ⟨climbing, free, unready⟩
      simp only [System.enableStep, pc, stands.active, if_true, EnablePc.moves]
      exact ⟨stands, climbing, ⟨free.released, free.settled⟩, unready⟩
  | loopHardware =>
      rw [pc] at position
      rcases position with ⟨climbing, free, unready⟩
      simp only [System.enableStep, pc, EnablePc.moves]
      split_ifs with hardware
      · have activating : station = .activating := by
          have counts := stands.counts
          cases station <;> simp_all [Station.Counts, Station.isClimbing]
        exact ⟨stands, activating, ⟨free.released, free.settled⟩, unready⟩
      · exact ⟨stands, climbing, ⟨free.released, free.settled⟩, unready⟩
  | loopReady =>
      rw [pc] at position
      rcases position with ⟨climbing, free, unready⟩
      simp only [System.enableStep, pc, unready, Bool.false_eq_true, if_false, EnablePc.moves]
      exact ⟨stands, climbing, ⟨free.released, free.settled⟩, unready⟩
  | loopClock =>
      rw [pc] at position
      rcases position with ⟨climbing, free, unready⟩
      simp only [System.enableStep, pc, Bool.false_eq_true, if_false, EnablePc.moves]
      exact ⟨stands, climbing, ⟨free.released, free.settled⟩, unready⟩
  | afterReady =>
      rw [pc] at position
      rcases position with ⟨activating, free, unready⟩
      simp only [System.enableStep, pc, unready, Bool.false_eq_true, if_false, EnablePc.moves]
      exact ⟨stands, activating, ⟨free.released, free.settled⟩, unready⟩
  | afterHardware =>
      rw [pc] at position
      rcases position with ⟨rfl, free, unready⟩
      have hardware : s.enableHardwareReady = true := stands.counts
      simp only [System.enableStep, pc, hardware, if_true, EnablePc.moves]
      exact ⟨{ stands with }, rfl, ⟨free.released, free.settled⟩, unready⟩
  | switch inner =>
      rw [pc] at position
      rcases position with ⟨rfl, switching, unready⟩
      rcases switchStep_frame s false true inner with ⟨switchInProgress, jtc, switched⟩
      have moved := switching.step
      cases inner with
      | returned result =>
          cases switching.2
          simp only [System.enableStep, pc, EnablePc.moves]
          exact ⟨{ stands with }, rfl, ⟨switching.1.released, switching.1.settled⟩, unready⟩
      | _ =>
          simp only [System.enableStep, pc, switched, EnablePc.moves]
          rw [switched] at moved
          exact ⟨{ stands with }, rfl, moved.congr ⟨rfl, rfl, rfl, rfl⟩, unready⟩
  | finalCheck =>
      rw [pc] at position
      rcases position with ⟨rfl, free, unready⟩
      have activating : s.phase = .jtcActivating := stands.phase
      simp only [System.enableStep, pc, activating, if_true, EnablePc.moves]
      exact ⟨{ stands with }, rfl, ⟨free.released, free.settled⟩, unready⟩
  | clearFailure field =>
      rw [pc] at position
      rcases position with ⟨rfl, free, unready⟩
      simp only [System.enableStep, pc, EnablePc.moves]
      cases field <;> exact ⟨{ stands with }, rfl, ⟨free.released, free.settled⟩, unready⟩
  | storeEnabled =>
      rw [pc] at position
      rcases position with ⟨rfl, free, unready⟩
      simp only [System.enableStep, pc, EnablePc.moves]
      refine ⟨{ stands with phase := rfl, counts := trivial }, rfl,
        ⟨free.released, free.settled⟩, ?_⟩
      cases slot : s.enableResult
      simp_all [SlotField.rest, ResultSlot.setField, succeeded, Controller.published]
  | publish field =>
      rw [pc] at position
      rcases position with ⟨rfl, free, remaining⟩
      simp only [System.enableStep, pc, EnablePc.moves]
      cases field <;> exact ⟨{ stands with }, rfl, ⟨free.released, free.settled⟩, remaining⟩
  | publishReady =>
      rw [pc] at position
      rcases position with ⟨rfl, free, filled⟩
      simp only [System.enableStep, pc, EnablePc.moves, filled]
      exact ⟨{ stands with }, rfl, ⟨free.released, free.settled⟩, rfl⟩
  | releaseOwner =>
      rw [pc] at position
      rcases position with ⟨rfl, free, filled⟩
      simp only [System.enableStep, pc, EnablePc.moves]
      exact ⟨{ stands with owner := rfl, counts := trivial }, rfl,
        ⟨free.released, free.settled⟩, filled⟩
  | wait inner =>
      rw [pc] at position
      cases inner with
      | loadActive =>
          rcases position with ⟨rfl, free, filled⟩
          simp only [System.enableStep, pc, waitStep, stands.active, if_true, EnablePc.moves]
          exact ⟨{ stands with }, rfl, ⟨free.released, free.settled⟩, filled⟩
      | loadReady =>
          rcases position with ⟨rfl, free, filled⟩
          have ready : s.enableResult.ready = true := by rw [filled]; rfl
          simp only [System.enableStep, pc, waitStep, ready, if_true, EnablePc.moves]
          exact ⟨{ stands with }, rfl, ⟨free.released, free.settled⟩, filled⟩
      | checkClock => exact position.elim
      | confirmReady =>
          rcases position with ⟨rfl, free, filled⟩
          have ready : s.enableResult.ready = true := by rw [filled]; rfl
          simp only [System.enableStep, pc, waitStep, ready, if_true, EnablePc.moves]
          exact ⟨{ stands with }, rfl, ⟨free.released, free.settled⟩, filled, rfl⟩
      | fill field =>
          rcases position with ⟨rfl, free, filled, remaining⟩
          simp only [System.enableStep, pc, waitStep, filled, EnablePc.moves]
          cases field <;>
            exact ⟨{ stands with }, by first
              | exact ⟨rfl, ⟨free.released, free.settled⟩, filled, remaining⟩
              | exact ⟨rfl, ⟨free.released, free.settled⟩⟩⟩
      | release =>
          simp only [System.enableStep, pc, EnablePc.moves]
          exact ⟨stands.unread _ _ _ _ _ _ _ _, position.1, position.2.released, position.2.settled⟩
  | storeRestart | storeEmergency | failedCheck | raiseFailed =>
      rw [pc] at position
      exact position.elim

/-- A step of the disable callback keeps the closed loop on its course. -/
theorem DisableAt.step (stands : Stands station s.toController)
    (position : DisableAt station s s.disablePc) :
    Stands (s.disablePc.moves station) (s.disableStep false).toController ∧
      DisableAt (s.disablePc.moves station) (s.disableStep false)
        (s.disableStep false).disablePc := by
  cases pc : s.disablePc with
  | idle =>
      rw [pc] at position
      simp only [System.disableStep, pc, DisablePc.moves]
      exact ⟨stands, position⟩
  | loadActive =>
      rw [pc] at position
      simp only [System.disableStep, pc, stands.active, if_true, DisablePc.moves]
      exact ⟨stands, position.1, position.2.released, position.2.settled⟩
  | loadPhase =>
      rw [pc] at position
      simp only [System.disableStep, pc, DisablePc.moves]
      split_ifs with resting rejected
      · exact ⟨stands, position.1, position.2.released, position.2.settled⟩
      · exact ⟨stands, position.1, position.2.released, position.2.settled⟩
      · have enabled : s.phase = .enabled := by
          have phase := stands.phase
          have rests := position.1
          cases station <;>
            simp_all [Station.phase, rejectsDisable, Station.isResting]
        have taken : station = .enabled .none :=
          Station.eq_enabled position.1 (stands.phase ▸ enabled)
        exact ⟨stands, taken, ⟨position.2.released, position.2.settled⟩, enabled⟩
  | loadOwner phase =>
      rw [pc] at position
      rcases position with ⟨rfl, free, rfl⟩
      have owner : s.owner = .none := stands.owner
      simp only [System.disableStep, pc, owner, preempts, DisablePc.moves]
      exact ⟨{ stands with }, rfl, ⟨free.released, free.settled⟩, rfl⟩
  | casOwner phase =>
      rw [pc] at position
      rcases position with ⟨rfl, free, rfl⟩
      have owner : s.owner = .none := stands.owner
      simp only [System.disableStep, pc, owner, if_true, DisablePc.moves]
      exact ⟨{ stands with owner := rfl, counts := trivial }, rfl,
        ⟨free.released, free.settled⟩, rfl⟩
  | clearReady phase =>
      rw [pc] at position
      rcases position with ⟨rfl, free, enabled⟩
      simp only [System.disableStep, pc, DisablePc.moves]
      exact ⟨{ stands with }, rfl, ⟨free.released, free.settled⟩, rfl, enabled⟩
  | clearFailed phase =>
      rw [pc] at position
      rcases position with ⟨rfl, free, unready, rfl⟩
      simp only [System.disableStep, pc, if_true, DisablePc.moves]
      exact ⟨{ stands with switchedOff := rfl }, rfl, ⟨free.released, free.settled⟩, unready⟩
  | storeDeactivating =>
      rw [pc] at position
      rcases position with ⟨rfl, free, unready⟩
      have owner : s.owner = .disable := stands.owner
      simp only [System.disableStep, pc, DisablePc.moves]
      exact ⟨{ stands with phase := rfl, counts := trivial }, rfl,
        ⟨free.released, free.settled⟩, unready⟩
  | switch inner =>
      rw [pc] at position
      rcases position with ⟨rfl, switching, unready⟩
      rcases switchStep_frame s false false inner with ⟨switchInProgress, jtc, switched⟩
      have moved := switching.step
      cases inner with
      | returned result =>
          cases switching.2
          simp only [System.disableStep, pc, DisablePc.moves]
          exact ⟨{ stands with }, rfl, ⟨switching.1.released, switching.1.settled⟩, unready⟩
      | _ =>
          simp only [System.disableStep, pc, switched, DisablePc.moves]
          rw [switched] at moved
          exact ⟨{ stands with }, rfl, moved.congr ⟨rfl, rfl, rfl, rfl⟩, unready⟩
  | raiseRequest phase =>
      rw [pc] at position
      rcases position with ⟨rfl, free, unready⟩
      simp only [System.disableStep, pc, DisablePc.moves]
      exact ⟨{ stands with disableRequest := rfl, counts := trivial },
        ⟨free.released, free.settled⟩, Or.inl ⟨rfl, unready⟩⟩
  | wait inner =>
      rw [pc] at position
      cases inner with
      | loadActive =>
          rcases position with ⟨free, waiting⟩
          simp only [System.disableStep, pc, waitStep, stands.active, if_true, DisablePc.moves]
          exact ⟨stands, ⟨free.released, free.settled⟩, waiting⟩
      | loadReady =>
          rcases position with ⟨free, ⟨falling, unready⟩ | ⟨rfl, filled⟩⟩
          · simp only [System.disableStep, pc, waitStep, unready, Bool.false_eq_true, if_false,
              DisablePc.moves]
            exact ⟨stands, ⟨free.released, free.settled⟩, Or.inl ⟨falling, unready⟩⟩
          · have ready : s.disableResult.ready = true := by rw [filled]; rfl
            simp only [System.disableStep, pc, waitStep, ready, if_true, DisablePc.moves]
            exact ⟨{ stands with }, rfl, ⟨free.released, free.settled⟩, filled⟩
      | checkClock =>
          rcases position with ⟨free, waiting⟩
          simp only [System.disableStep, pc, waitStep, Bool.false_eq_true, if_false,
            DisablePc.moves]
          exact ⟨stands, ⟨free.released, free.settled⟩, waiting⟩
      | confirmReady =>
          rcases position with ⟨rfl, free, filled⟩
          have ready : s.disableResult.ready = true := by rw [filled]; rfl
          simp only [System.disableStep, pc, waitStep, ready, if_true, DisablePc.moves]
          exact ⟨{ stands with }, rfl, ⟨free.released, free.settled⟩, filled, rfl⟩
      | fill field =>
          rcases position with ⟨rfl, free, filled, remaining⟩
          simp only [System.disableStep, pc, waitStep, filled, DisablePc.moves]
          cases field <;>
            exact ⟨{ stands with }, by first
              | exact ⟨rfl, ⟨free.released, free.settled⟩, filled, remaining⟩
              | exact ⟨rfl, ⟨free.released, free.settled⟩⟩⟩
      | release =>
          simp only [System.disableStep, pc, DisablePc.moves]
          exact ⟨stands.unread _ _ _ _ _ _ _ _, position.1, position.2.released, position.2.settled⟩
  | storeFailed | storeRestart | recordFailure =>
      rw [pc] at position
      exact position.elim

/-- A step of the reset callback keeps the closed loop on its course. -/
theorem ResetAt.step (stands : Stands station s.toController)
    (position : ResetAt station s s.resetPc) :
    Stands (s.resetPc.moves station) (s.resetStep false).toController ∧
      ResetAt (s.resetPc.moves station) (s.resetStep false) (s.resetStep false).resetPc := by
  cases pc : s.resetPc with
  | idle =>
      rw [pc] at position
      simp only [System.resetStep, pc, ResetPc.moves]
      exact ⟨stands, position⟩
  | loadActive =>
      rw [pc] at position
      simp only [System.resetStep, pc, stands.active, if_true, ResetPc.moves]
      exact ⟨stands, position.1, position.2.released, position.2.settled⟩
  | loadRestart =>
      rw [pc] at position
      simp only [System.resetStep, pc, stands.running, Bool.false_eq_true, if_false,
        ResetPc.moves]
      exact ⟨stands, position.1, position.2.released, position.2.settled⟩
  | loadPhase =>
      rw [pc] at position
      simp only [System.resetStep, pc, ResetPc.moves]
      split_ifs with busy
      · exact ⟨stands, position.1, position.2.released, position.2.settled⟩
      · have idle : s.phase = .idle := by
          have phase := stands.phase
          have rests := position.1
          cases station <;> simp_all [Station.phase, Station.isResting]
        have resting : station = .idle .none :=
          Station.eq_idle position.1 (stands.phase ▸ idle)
        exact ⟨stands, resting, position.2.released, position.2.settled⟩
  | casOwner =>
      rw [pc] at position
      rcases position with ⟨rfl, free⟩
      have owner : s.owner = .none := stands.owner
      simp only [System.resetStep, pc, owner, if_true, ResetPc.moves]
      exact ⟨{ stands with owner := rfl, counts := trivial }, rfl, free.released, free.settled⟩
  | clearReady =>
      rw [pc] at position
      rcases position with ⟨rfl, free⟩
      simp only [System.resetStep, pc, ResetPc.moves]
      exact ⟨{ stands with }, rfl, ⟨free.released, free.settled⟩, rfl⟩
  | raiseRequest =>
      rw [pc] at position
      rcases position with ⟨rfl, free, unready⟩
      simp only [System.resetStep, pc, ResetPc.moves]
      exact ⟨{ stands with resetRequest := rfl, counts := trivial },
        ⟨free.released, free.settled⟩, Or.inl ⟨rfl, unready⟩⟩
  | wait inner =>
      rw [pc] at position
      cases inner with
      | loadActive =>
          rcases position with ⟨free, waiting⟩
          simp only [System.resetStep, pc, waitStep, stands.active, if_true, ResetPc.moves]
          exact ⟨stands, ⟨free.released, free.settled⟩, waiting⟩
      | loadReady =>
          rcases position with ⟨free, ⟨requested, unready⟩ | ⟨rfl, ready⟩⟩
          · simp only [System.resetStep, pc, waitStep, unready, Bool.false_eq_true, if_false,
              ResetPc.moves]
            exact ⟨stands, ⟨free.released, free.settled⟩, Or.inl ⟨requested, unready⟩⟩
          · simp only [System.resetStep, pc, waitStep, ready, if_true, ResetPc.moves]
            exact ⟨{ stands with }, rfl, ⟨free.released, free.settled⟩, ready⟩
      | checkClock =>
          rcases position with ⟨free, waiting⟩
          simp only [System.resetStep, pc, waitStep, Bool.false_eq_true, if_false, ResetPc.moves]
          exact ⟨stands, ⟨free.released, free.settled⟩, waiting⟩
      | confirmReady =>
          rcases position with ⟨rfl, free, ready⟩
          simp only [System.resetStep, pc, waitStep, ready, if_true, ResetPc.moves]
          exact ⟨{ stands with }, rfl, ⟨free.released, free.settled⟩, ready⟩
      | fill field =>
          rcases position with ⟨rfl, free, ready⟩
          simp only [System.resetStep, pc, waitStep, ResetPc.moves]
          cases field <;>
            exact ⟨{ stands with }, by first
              | exact ⟨rfl, ⟨free.released, free.settled⟩, ready⟩
              | exact ⟨rfl, ⟨free.released, free.settled⟩⟩⟩
      | release =>
          simp only [System.resetStep, pc, ResetPc.moves]
          exact ⟨stands.unread _ _ _ _ _ _ _ _, position.1, position.2.released, position.2.settled⟩

end Callbacks

end RtControl.EnableManager
