import RtControl.EnableManager.Positions
import RtControl.Transition.Progress

/-!
# The closed loop with conforming drives

The controller, its callbacks and fourteen conforming drives run together in
atomic steps.  Every stage ends before its deadline, every switch of the JTC
succeeds, no wait of a callback expires and no call is made while another one is
being served.  Every step of the loop takes it from one station and position to
the next.
-/

namespace RtControl.EnableManager

open RtControl.Transition

/-- No service call is being served. -/
def unoccupied (s : System) : Bool :=
  !s.enableCallbackActive && !s.disableCallbackActive && !s.resetCallbackActive

/-- The steps of a closed loop with conforming drives. -/
def conformingLoop (config : Config) : Guard System Event := fun s event =>
  match event with
  | .update now readings =>
      0 ≤ now &&
        axes.all (fun axis => follows axis (s.controlWords axis) (decodeState (s.statusWords axis))
          (decodeState (refreshedWord (readings axis)))) &&
        (s.toController.refreshStatusWords readings).inTime config now
  | .callEnable | .callDisable | .callReset => unoccupied s
  | .enable late | .disable late | .reset late => !late
  | .controllerManager ok _ => ok
  | .fireWorker | .callWorker _ | .resumeWorker _ | .latchRestart => true
  | .activate | .deactivate => false

/-- The activated controller of a group whose drives last reported the given
words. -/
def poweredUp (words : Words) : System :=
  { activated with statusWords := words }

/-! ## One step of the closed loop -/

/-- The steps the closed loop can take. -/
inductive LoopMove (config : Config) (s : System) : Event → System → Prop
  | cycle (now : Int) (readings : Readings)
      (started : 0 ≤ now)
      (conforming : ∀ axis, follows axis (s.controlWords axis) (decodeState (s.statusWords axis))
        (decodeState (refreshedWord (readings axis))) = true)
      (timely : (s.toController.refreshStatusWords readings).inTime config now = true) :
      LoopMove config s (.update now readings)
        { s with toController := s.toController.update config now readings }
  | callEnable
      (free : unoccupied s = true) :
      LoopMove config s .callEnable { s with enableCallbackActive := true, enablePc := .loadActive }
  | enable
      (running : s.enablePc ≠ .idle) :
      LoopMove config s (.enable false) (s.enableStep false)
  | callDisable
      (free : unoccupied s = true) :
      LoopMove config s .callDisable
        { s with disableCallbackActive := true, disablePc := .loadActive }
  | disable
      (running : s.disablePc ≠ .idle) :
      LoopMove config s (.disable false) (s.disableStep false)
  | callReset
      (free : unoccupied s = true) :
      LoopMove config s .callReset { s with resetCallbackActive := true, resetPc := .loadActive }
  | reset
      (running : s.resetPc ≠ .idle) :
      LoopMove config s (.reset false) (s.resetStep false)
  | answer (changed activate : Bool) (pending : List Bool)
      (oldest : s.jtc.pending = activate :: pending) :
      LoopMove config s (.controllerManager true changed)
        { s with
          jtc := {
            active := if changed then activate else s.jtc.active
            pending := pending
            answer := if pending = [] then some true else s.jtc.answer } }
  | rest : LoopMove config s .fireWorker s

section Steps

variable {config : Config} {station : Station} {s t : System} {event : Event}

/-- Every guarded step is one of the listed moves. -/
theorem ClosedLoop.move (law : ClosedLoop station s) (allowed : conformingLoop config s event = true)
    (step : atomicStep config s event = some t) : LoopMove config s event t := by
  cases event with
  | update now readings =>
      simp only [conformingLoop, Bool.and_eq_true, decide_eq_true_eq, List.all_eq_true] at allowed
      rcases allowed with ⟨⟨started, conforming⟩, timely⟩
      cases step
      exact .cycle now readings started (fun axis => conforming axis (mem_axes axis)) timely
  | callEnable =>
      have inactive : s.enableCallbackActive = false := by
        simp_all [conformingLoop, unoccupied]
      simp only [atomicStep, System.callEnable, inactive, Bool.false_eq_true, if_false] at step
      cases step
      exact .callEnable allowed
  | enable late =>
      rw [atomicStep, Option.ite_none_left_eq_some] at step
      rcases step with ⟨running, same⟩
      cases same
      cases late with
      | false => exact .enable running
      | true => exact absurd allowed Bool.false_ne_true
  | callDisable =>
      have inactive : s.disableCallbackActive = false := by
        simp_all [conformingLoop, unoccupied]
      simp only [atomicStep, System.callDisable, inactive, Bool.false_eq_true, if_false] at step
      cases step
      exact .callDisable allowed
  | disable late =>
      rw [atomicStep, Option.ite_none_left_eq_some] at step
      rcases step with ⟨running, same⟩
      cases same
      cases late with
      | false => exact .disable running
      | true => exact absurd allowed Bool.false_ne_true
  | callReset =>
      have inactive : s.resetCallbackActive = false := by
        simp_all [conformingLoop, unoccupied]
      simp only [atomicStep, System.callReset, inactive, Bool.false_eq_true, if_false] at step
      cases step
      exact .callReset allowed
  | reset late =>
      rw [atomicStep, Option.ite_none_left_eq_some] at step
      rcases step with ⟨running, same⟩
      cases same
      cases late with
      | false => exact .reset running
      | true => exact absurd allowed Bool.false_ne_true
  | fireWorker =>
      simp only [atomicStep, System.fireWorker, law.stands.calm, Bool.false_eq_true, if_false]
        at step
      cases step
      exact .rest
  | callWorker late =>
      rw [atomicStep, Option.ite_none_left_eq_some] at step
      exact absurd (congrArg (·.1) law.workers) step.1
  | resumeWorker late =>
      rw [atomicStep, Option.ite_none_left_eq_some] at step
      exact absurd (congrArg (·.2.1) law.workers) step.1
  | latchRestart =>
      rw [atomicStep, Option.ite_none_left_eq_some] at step
      exact absurd (congrArg (·.2.2) law.workers) step.1
  | controllerManager ok changed =>
      have accepted : ok = true := allowed
      subst accepted
      rw [atomicStep, Option.map_eq_some_iff] at step
      rcases step with ⟨jtc, executed, rfl⟩
      unfold Jtc.execute at executed
      split at executed
      · contradiction
      · rename_i activate pending oldest
        cases executed
        exact .answer changed activate pending oldest
  | activate => exact absurd allowed Bool.false_ne_true
  | deactivate => exact absurd allowed Bool.false_ne_true

theorem SwitchAt.awaits {activate : Bool} {pc : SwitchPc} (position : SwitchAt activate s pc)
    (sent : s.jtc.pending ≠ []) :
    pc = .await ∧ s.switchInProgress = true ∧ s.jtc.pending = [activate] ∧
      s.jtc.answer = none := by
  cases pc with
  | acquire => exact absurd position.settled sent
  | probe => exact absurd position.2 sent
  | await =>
      rcases position with ⟨held, ⟨request, unanswered⟩ | ⟨empty, -⟩⟩
      · exact ⟨rfl, held, request, unanswered⟩
      · exact absurd empty sent
  | clear result => exact absurd position.2.1 sent
  | returned result => exact absurd position.1.settled sent

/-- A request in flight is awaited by the enable callback. -/
theorem EnableAt.awaits {pc : EnablePc} (position : EnableAt station s pc)
    (sent : s.jtc.pending ≠ []) :
    pc = .switch .await ∧ station = .activating ∧ s.switchInProgress = true ∧
      s.jtc.pending = [true] ∧ s.enableResult.ready = false ∧ s.jtc.answer = none := by
  fun_cases EnableAt station s pc <;> simp only [EnableAt] at position <;>
    grind [SwitchFree, SwitchAt.awaits]

/-- A request in flight is awaited by the disable callback. -/
theorem DisableAt.awaits {pc : DisablePc} (position : DisableAt station s pc)
    (sent : s.jtc.pending ≠ []) :
    pc = .switch .await ∧ station = .deactivating false ∧ s.switchInProgress = true ∧
      s.jtc.pending = [false] ∧ s.disableResult.ready = false ∧ s.jtc.answer = none := by
  fun_cases DisableAt station s pc <;> simp only [DisableAt] at position <;>
    grind [SwitchFree, SwitchAt.awaits]

theorem ResetAt.silent {pc : ResetPc} (position : ResetAt station s pc) : s.jtc.pending = [] := by
  fun_cases ResetAt station s pc <;> simp only [ResetAt] at position <;> grind [SwitchFree]

/-- A free closed loop has no running callback and a resting group. -/
theorem ClosedLoop.resting (law : ClosedLoop station s) (free : unoccupied s = true) :
    s.enablePc = .idle ∧ s.disablePc = .idle ∧ s.resetPc = .idle ∧
      station.isResting = true ∧ SwitchFree s := by
  simp only [unoccupied, Bool.and_eq_true, Bool.not_eq_true'] at free
  have enable : s.enablePc = .idle := by
    by_contra running
    rw [law.enableActive.mpr running] at free
    exact absurd free.1.1 (by decide)
  have disable : s.disablePc = .idle := by
    by_contra running
    rw [law.disableActive.mpr running] at free
    exact absurd free.1.2 (by decide)
  have reset : s.resetPc = .idle := by
    by_contra running
    rw [law.resetActive.mpr running] at free
    exact absurd free.2 (by decide)
  have rests : station.isResting = true ∧ SwitchFree s := by
    rcases law.occupied with ⟨position, -, -⟩ | ⟨position, -, -⟩ | ⟨position, -, -⟩
    · rw [enable] at position
      exact position
    · rw [disable] at position
      exact position
    · rw [reset] at position
      exact position
  exact ⟨enable, disable, reset, rests⟩

/-- The running enable callback owns the position of the closed loop. -/
theorem ClosedLoop.enabling (law : ClosedLoop station s) (running : s.enablePc ≠ .idle) :
    EnableAt station s s.enablePc ∧ s.disablePc = .idle ∧ s.resetPc = .idle := by
  rcases law.occupied with ⟨position, disable, reset⟩ | ⟨-, enable, -⟩ | ⟨-, enable, -⟩
  · exact ⟨position, disable, reset⟩
  · exact absurd enable running
  · exact absurd enable running

/-- The running disable callback owns the position of the closed loop. -/
theorem ClosedLoop.disabling (law : ClosedLoop station s) (running : s.disablePc ≠ .idle) :
    DisableAt station s s.disablePc ∧ s.enablePc = .idle ∧ s.resetPc = .idle := by
  rcases law.occupied with ⟨-, disable, -⟩ | ⟨position, enable, reset⟩ | ⟨-, -, disable⟩
  · exact absurd disable running
  · exact ⟨position, enable, reset⟩
  · exact absurd disable running

/-- The running reset callback owns the position of the closed loop. -/
theorem ClosedLoop.resetting (law : ClosedLoop station s) (running : s.resetPc ≠ .idle) :
    ResetAt station s s.resetPc ∧ s.enablePc = .idle ∧ s.disablePc = .idle := by
  rcases law.occupied with ⟨-, -, reset⟩ | ⟨-, -, reset⟩ | ⟨position, enable, disable⟩
  · exact absurd reset running
  · exact absurd reset running
  · exact ⟨position, enable, disable⟩

theorem ClosedLoop.cycle {now : Int} {readings : Readings} (law : ClosedLoop station s)
    (timeout : 1 ≤ config.disableStageTimeoutNs) (started : 0 ≤ now)
    (conforming : ∀ axis, follows axis (s.controlWords axis) (decodeState (s.statusWords axis))
      (decodeState (refreshedWord (readings axis))) = true)
    (timely : (s.toController.refreshStatusWords readings).inTime config now = true) :
    ClosedLoop (station.next ((s.toController.refreshStatusWords readings).settles now))
      { s with toController := s.toController.update config now readings } := by
  have cycled := law.stands.cycled conforming timeout started timely
  have untouched := Controller.untouched_of_cycle
    (s.toController.update_cycle config now readings law.stands.active)
  have same : SameCallbacks s { s with toController := s.toController.update config now readings } :=
    ⟨untouched.switchInProgress, rfl, rfl, rfl⟩
  constructor
  · exact cycled.stands
  · rcases law.occupied with ⟨position, disable, reset⟩ | ⟨position, enable, reset⟩ |
      ⟨position, enable, disable⟩
    · exact .enable (position.cycled cycled same) disable reset
    · exact .disable (position.cycled law.stands cycled same) enable reset
    · exact .reset (position.cycled cycled same) enable disable
  · exact law.workers
  · exact untouched.enableCallbackActive ▸ law.enableActive
  · exact untouched.disableCallbackActive ▸ law.disableActive
  · exact untouched.resetCallbackActive ▸ law.resetActive

/-- A callback flag follows its program counter. -/
theorem callback_iff {Pc : Type} {active later : Bool} {pc next idle : Pc}
    (before : active = true ↔ pc ≠ idle) (running : pc ≠ idle)
    (moved : next ≠ idle ∧ later = active ∨ next = idle ∧ later = false) :
    later = true ↔ next ≠ idle := by
  rcases moved with ⟨going, same⟩ | ⟨ended, cleared⟩
  · rw [same]
    exact ⟨fun _ => going, fun _ => before.mpr running⟩
  · simp [ended, cleared]

theorem ClosedLoop.enable (law : ClosedLoop station s) (running : s.enablePc ≠ .idle) :
    ClosedLoop (s.enablePc.moves station) (s.enableStep false) := by
  rcases law.enabling running with ⟨position, disable, reset⟩
  rcases position.step law.stands with ⟨stands, moved⟩
  rcases enableStep_aside s false with ⟨disablePc, resetPc, workers, disableActive, resetActive, -⟩
  constructor
  · exact stands
  · exact .enable moved (disablePc.trans disable) (resetPc.trans reset)
  · exact workers.trans law.workers
  · exact callback_iff law.enableActive running (enableStep_callback s false running)
  · rw [disableActive, disablePc]
    exact law.disableActive
  · rw [resetActive, resetPc]
    exact law.resetActive

theorem ClosedLoop.disable (law : ClosedLoop station s) (running : s.disablePc ≠ .idle) :
    ClosedLoop (s.disablePc.moves station) (s.disableStep false) := by
  rcases law.disabling running with ⟨position, enable, reset⟩
  rcases position.step law.stands with ⟨stands, moved⟩
  rcases disableStep_aside s false with ⟨enablePc, resetPc, workers, enableActive, resetActive, -⟩
  constructor
  · exact stands
  · exact .disable moved (enablePc.trans enable) (resetPc.trans reset)
  · exact workers.trans law.workers
  · rw [enableActive, enablePc]
    exact law.enableActive
  · exact callback_iff law.disableActive running (disableStep_callback s false running)
  · rw [resetActive, resetPc]
    exact law.resetActive

theorem ClosedLoop.reset (law : ClosedLoop station s) (running : s.resetPc ≠ .idle) :
    ClosedLoop (s.resetPc.moves station) (s.resetStep false) := by
  rcases law.resetting running with ⟨position, enable, disable⟩
  rcases position.step law.stands with ⟨stands, moved⟩
  rcases resetStep_aside s false with ⟨enablePc, disablePc, workers, enableActive, disableActive, -⟩
  constructor
  · exact stands
  · exact .reset moved (enablePc.trans enable) (disablePc.trans disable)
  · exact workers.trans law.workers
  · rw [enableActive, enablePc]
    exact law.enableActive
  · rw [disableActive, disablePc]
    exact law.disableActive
  · exact callback_iff law.resetActive running (resetStep_callback s false running)

/-- The controller manager answers the one request in flight. -/
theorem ClosedLoop.answer {activate : Bool} {pending : List Bool} (law : ClosedLoop station s)
    (oldest : s.jtc.pending = activate :: pending) (active : Bool) :
    ClosedLoop station { s with
      jtc := {
        active := active
        pending := pending
        answer := if pending = [] then some true else s.jtc.answer } } := by
  have sent : s.jtc.pending ≠ [] := by simp [oldest]
  rcases law with ⟨stands, occupied, workers, enableActive, disableActive, resetActive⟩
  refine ⟨stands, ?_, workers, enableActive, disableActive, resetActive⟩
  rcases occupied with ⟨position, disable, reset⟩ | ⟨position, enable, reset⟩ | ⟨position, -, -⟩
  · rcases position.awaits sent with ⟨pc, activating, held, request, unready, -⟩
    have last : pending = [] := by simp_all
    subst last
    refine .enable ?_ disable reset
    show EnableAt station _ s.enablePc
    rw [pc]
    exact ⟨activating, ⟨held, Or.inr ⟨rfl, by simp⟩⟩, unready⟩
  · rcases position.awaits sent with ⟨pc, deactivating, held, request, unready, -⟩
    have last : pending = [] := by simp_all
    subst last
    refine .disable ?_ enable reset
    show DisableAt station _ s.disablePc
    rw [pc]
    exact ⟨deactivating, ⟨held, Or.inr ⟨rfl, by simp⟩⟩, unready⟩
  · exact absurd position.silent sent

/-- Between two cycles the closed loop follows its callbacks. -/
theorem ClosedLoop.step_of_callback (law : ClosedLoop station s)
    (between : ∀ now readings, event ≠ .update now readings) (move : LoopMove config s event t) :
    ClosedLoop (stationAfter s station event) t := by
  cases move with
  | cycle now readings => exact absurd rfl (between now readings)
  | enable running => exact law.enable running
  | disable running => exact law.disable running
  | reset running => exact law.reset running
  | answer changed activate pending oldest => exact law.answer oldest _
  | rest => exact law
  | callEnable free =>
      rcases law.resting free with ⟨enable, disable, reset, resting, switchFree⟩
      exact ⟨law.stands.unread _ _ _ _ _ _ _ _,
        .enable ⟨resting, switchFree.released, switchFree.settled⟩ disable reset, law.workers,
        by simp, law.disableActive, law.resetActive⟩
  | callDisable free =>
      rcases law.resting free with ⟨enable, disable, reset, resting, switchFree⟩
      exact ⟨law.stands.unread _ _ _ _ _ _ _ _,
        .disable ⟨resting, switchFree.released, switchFree.settled⟩ enable reset, law.workers,
        law.enableActive, by simp, law.resetActive⟩
  | callReset free =>
      rcases law.resting free with ⟨enable, disable, reset, resting, switchFree⟩
      exact ⟨law.stands.unread _ _ _ _ _ _ _ _,
        .reset ⟨resting, switchFree.released, switchFree.settled⟩ enable disable, law.workers,
        law.enableActive, law.disableActive, by simp⟩

/-- Every step of the closed loop takes it to the station of the step. -/
theorem ClosedLoop.step (law : ClosedLoop station s)
    (timeout : 1 ≤ config.disableStageTimeoutNs) (move : LoopMove config s event t) :
    ClosedLoop (stationAfter s station event) t := by
  by_cases between : ∀ now readings, event ≠ .update now readings
  · exact law.step_of_callback between move
  · cases move with
    | cycle now readings started conforming timely =>
        exact law.cycle timeout started conforming timely
    | _ => exact absurd nofun between

/-- Only a cycle sets a stage deadline. -/
theorem LoopMove.stageDeadlineNs (move : LoopMove config s event t)
    (between : ∀ now readings, event ≠ .update now readings) :
    t.stageDeadlineNs = s.stageDeadlineNs := by
  cases move with
  | cycle now readings => exact absurd rfl (between now readings)
  | enable => exact (enableStep_aside s false).2.2.2.2.2
  | disable => exact (disableStep_aside s false).2.2.2.2.2
  | reset => exact (resetStep_aside s false).2.2.2.2.2
  | _ => rfl

/-- A powered-up group without faults starts its sanitizer. -/
theorem closedLoop_poweredUp {words : Words} (healthy : anyFault words = false) :
    ClosedLoop (.startup 0) (poweredUp words) := by
  constructor
  · exact {
      active := rfl
      phase := rfl
      owner := rfl
      enableRequest := rfl
      disableRequest := rfl
      resetRequest := rfl
      switchedOn := rfl
      switchedOff := rfl
      calm := rfl
      running := rfl
      unpreempted := rfl
      blameless := rfl
      counts := ⟨rfl, by decide⟩
      reads := (anyFault_eq_false_iff words).mp healthy
      commands := fun _ => trivial }
  · exact .enable ⟨rfl, rfl, rfl⟩ rfl rfl
  · rfl
  · exact ⟨nofun, fun running => absurd rfl running⟩
  · exact ⟨nofun, fun running => absurd rfl running⟩
  · exact ⟨nofun, fun running => absurd rfl running⟩

end Steps

end RtControl.EnableManager
