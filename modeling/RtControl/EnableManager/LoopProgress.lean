import RtControl.EnableManager.ClosedLoop

/-!
# Executions of the closed loop

Along every fair execution of the closed loop a station that waits for the
real-time cycle is left by the first cycle that settles its stage, a switch
request in flight is executed, and a published result ends the wait for it.
-/

namespace RtControl.EnableManager

open RtControl.Transition

/-- An execution of the closed loop from a powered-up group. -/
abbrev LoopRun (config : Config) (words : Words) :=
  Execution (atomicStep config) (conformingLoop config) (poweredUp words)

/-- The threads of the closed loop go on: stages do not stay open forever, a
running callback is scheduled and a sent switch request is executed. -/
structure Fair {config : Config} {words : Words} (run : LoopRun config words) : Prop where
  cycles : ∀ time, ∃ later, time ≤ later ∧ ∃ now readings,
    run.event later = .update now readings ∧
      ((run.state later).toController.refreshStatusWords readings).settles now = true
  enable : ∀ time, ∃ later, time ≤ later ∧
    ((run.state later).enablePc ≠ .idle → run.event later = .enable false)
  disable : ∀ time, ∃ later, time ≤ later ∧
    ((run.state later).disablePc ≠ .idle → run.event later = .disable false)
  manager : ∀ time, ∃ later, time ≤ later ∧
    ((run.state later).jtc.pending ≠ [] →
      ∃ changed, run.event later = .controllerManager true changed)

section Runs

variable {config : Config} {words : Words} {run : LoopRun config words}

/-- Every step of an execution takes the loop to the station of the step. -/
theorem ClosedLoop.advance (timeout : 1 ≤ config.disableStageTimeoutNs) {time : Nat}
    {station : Station} (law : ClosedLoop station (run.state time)) :
    LoopMove config (run.state time) (run.event time) (run.state (time + 1)) ∧
      ClosedLoop (stationAfter (run.state time) station (run.event time))
        (run.state (time + 1)) := by
  have move := law.move (run.allowed time) (run.steps time)
  exact ⟨move, law.step timeout move⟩

/-- The closed loop stands at a station at every time. -/
theorem exists_station (timeout : 1 ≤ config.disableStageTimeoutNs)
    (healthy : anyFault words = false) (run : LoopRun config words) (time : Nat) :
    ∃ station, ClosedLoop station (run.state time) := by
  induction time with
  | zero =>
      rw [run.initial]
      exact ⟨_, closedLoop_poweredUp healthy⟩
  | succ time ih =>
      rcases ih with ⟨station, law⟩
      exact ⟨_, (law.advance timeout).2⟩

/-! ## Stations that wait for a cycle -/

/-- The stations that only a cycle leaves. -/
def Station.isCycled : Station → Bool
  | .startup _ | .enableRequested | .batch _ | .delay _ | .deactivating true | .disabling _ => true
  | _ => false

/-- No callback moves the group off a station that waits for a cycle. -/
theorem stationAfter_of_cycled {station : Station} {s t : System} {event : Event}
    (law : ClosedLoop station s) (cycled : station.isCycled = true)
    (move : LoopMove config s event t) :
    (∃ now readings, event = .update now readings ∧
        t = { s with toController := s.toController.update config now readings }) ∨
      (∀ now readings, event ≠ .update now readings) ∧ stationAfter s station event = station := by
  cases move with
  | cycle now readings => exact Or.inl ⟨now, readings, rfl, rfl⟩
  | enable running =>
      refine Or.inr ⟨nofun, ?_⟩
      have position := (law.enabling running).1
      simp only [stationAfter]
      cases pc : s.enablePc <;> rw [pc] at position <;> first
        | rfl
        | (cases position.1; exact absurd cycled Bool.false_ne_true)
  | disable running =>
      refine Or.inr ⟨nofun, ?_⟩
      have position := (law.disabling running).1
      simp only [stationAfter]
      cases pc : s.disablePc <;> rw [pc] at position <;> first
        | rfl
        | (cases position.1; exact absurd cycled Bool.false_ne_true)
  | reset running =>
      refine Or.inr ⟨nofun, ?_⟩
      have position := (law.resetting running).1
      simp only [stationAfter]
      cases pc : s.resetPc <;> rw [pc] at position <;> first
        | rfl
        | (cases position.1; exact absurd cycled Bool.false_ne_true)
  | _ => exact Or.inr ⟨nofun, rfl⟩

theorem Station.next_of_cycled {station : Station} (cycled : station.isCycled = true) :
    station.next false = station ∨ station.next false = station.next true := by
  cases station with
  | startup | batch | delay | disabling => exact Or.inl rfl
  | enableRequested => exact Or.inr rfl
  | deactivating requested =>
      cases requested
      · exact absurd cycled Bool.false_ne_true
      · exact Or.inr rfl
  | _ => exact absurd cycled Bool.false_ne_true

/-- A station that waits for a cycle is left by a cycle that settles it.  The
cycle moves no callback. -/
theorem leadsTo_next_of_kept (timeout : 1 ≤ config.disableStageTimeoutNs) (fair : Fair run)
    {station : Station} (cycled : station.isCycled = true) {kept : System → Prop}
    (implied : ∀ s, ClosedLoop station s → kept s)
    (stable : ∀ s controller, kept s → kept { s with toController := controller }) :
    run.LeadsTo (ClosedLoop station) (fun s => ClosedLoop (station.next true) s ∧ kept s) := by
  apply Execution.leadsTo_of_rank (fun _ => 0) fun s event => ∃ now readings,
    event = .update now readings ∧ (s.toController.refreshStatusWords readings).settles now = true
  · intro time law
    rcases law.advance timeout with ⟨move, after⟩
    rcases stationAfter_of_cycled law cycled move with
      ⟨now, readings, update, next⟩ | ⟨other, same⟩
    · have holds : kept (run.state (time + 1)) := by
        rw [next]
        exact stable _ _ (implied _ law)
      rw [update] at after
      simp only [stationAfter] at after
      cases settled : ((run.state time).toController.refreshStatusWords readings).settles now with
      | true =>
          rw [settled] at after
          exact Or.inl ⟨after, holds⟩
      | false =>
          rw [settled] at after
          rcases Station.next_of_cycled cycled with held | same
          · rw [held] at after
            refine Or.inr ⟨after, Or.inr ⟨rfl, ?_⟩⟩
            rintro ⟨now, readings, again, settles⟩
            rw [update] at again
            cases again
            rw [settled] at settles
            contradiction
          · rw [same] at after
            exact Or.inl ⟨after, holds⟩
    · rw [same] at after
      refine Or.inr ⟨after, Or.inr ⟨rfl, ?_⟩⟩
      rintro ⟨now, readings, update, -⟩
      exact other now readings update
  · intro time
    rcases fair.cycles time with ⟨later, late, helpful⟩
    exact ⟨later, late, fun _ => helpful⟩

theorem leadsTo_next (timeout : 1 ≤ config.disableStageTimeoutNs) (fair : Fair run)
    {station : Station} (cycled : station.isCycled = true) :
    run.LeadsTo (ClosedLoop station) (ClosedLoop (station.next true)) := by
  intro time law
  rcases leadsTo_next_of_kept timeout fair cycled (fun _ _ => trivial) (fun _ _ => id) time law with
    ⟨later, late, after, -⟩
  exact ⟨later, late, after⟩

/-! ## Switch requests in flight -/

/-- A callback waits for the answer of the controller manager. -/
def awaitsSwitch (s : System) : Prop :=
  s.enablePc = .switch .await ∨ s.disablePc = .switch .await

/-- An unanswered wait for the switch is a wait. -/
theorem System.enableStep_await {s : System} (awaiting : s.enablePc = .switch .await)
    (unanswered : s.jtc.answer = none) : s.enableStep false = s := by
  have same : ({ s with enablePc := .switch .await } : System) = s := by rw [← awaiting]
  simpa [System.enableStep, System.switchStep, awaiting, unanswered] using same

theorem System.disableStep_await {s : System} (awaiting : s.disablePc = .switch .await)
    (unanswered : s.jtc.answer = none) : s.disableStep false = s := by
  have same : ({ s with disablePc := .switch .await } : System) = s := by rw [← awaiting]
  simpa [System.disableStep, System.switchStep, awaiting, unanswered] using same

/-- While a switch request is in flight, only its execution changes the
callbacks. -/
theorem ClosedLoop.in_flight {station : Station} {s t : System} {event : Event}
    (law : ClosedLoop station s) (held : ∀ settled, station.next settled = station)
    (sent : s.jtc.pending ≠ []) (move : LoopMove config s event t) :
    awaitsSwitch t ∧ stationAfter s station event = station ∧
      (t.jtc.pending = [] ∨ ∀ changed, event ≠ .controllerManager true changed) := by
  have occupant : s.enablePc = .switch .await ∧ s.disablePc = .idle ∧ s.resetPc = .idle ∧
        s.jtc.pending = [true] ∧ s.jtc.answer = none ∨
      s.disablePc = .switch .await ∧ s.enablePc = .idle ∧ s.resetPc = .idle ∧
        s.jtc.pending = [false] ∧ s.jtc.answer = none := by
    rcases law.occupied with ⟨position, disable, reset⟩ | ⟨position, enable, reset⟩ |
      ⟨position, -, -⟩
    · rcases position.awaits sent with ⟨pc, -, -, request, -, unanswered⟩
      exact Or.inl ⟨pc, disable, reset, request, unanswered⟩
    · rcases position.awaits sent with ⟨pc, -, -, request, -, unanswered⟩
      exact Or.inr ⟨pc, enable, reset, request, unanswered⟩
    · exact absurd position.silent sent
  have awaits : awaitsSwitch s := by
    rcases occupant with ⟨pc, -⟩ | ⟨pc, -⟩
    · exact Or.inl pc
    · exact Or.inr pc
  have busy : unoccupied s = false := by
    rcases awaits with pc | pc
    · simp [unoccupied, law.enableActive.mpr (by simp [pc])]
    · simp [unoccupied, law.disableActive.mpr (by simp [pc])]
  cases move with
  | cycle now readings => exact ⟨awaits, held _, Or.inr (by simp)⟩
  | rest => exact ⟨awaits, rfl, Or.inr (by simp)⟩
  | enable running =>
      rcases occupant with ⟨pc, -, -, -, unanswered⟩ | ⟨-, idle, -⟩
      · rw [System.enableStep_await pc unanswered]
        exact ⟨awaits, by simp [stationAfter, pc, EnablePc.moves], Or.inr (by simp)⟩
      · exact absurd idle running
  | disable running =>
      rcases occupant with ⟨-, idle, -⟩ | ⟨pc, -, -, -, unanswered⟩
      · exact absurd idle running
      · rw [System.disableStep_await pc unanswered]
        exact ⟨awaits, by simp [stationAfter, pc, DisablePc.moves], Or.inr (by simp)⟩
  | reset running => rcases occupant with ⟨-, -, idle, -⟩ | ⟨-, -, idle, -⟩ <;> contradiction
  | answer changed activate pending oldest =>
      have last : pending = [] := by
        rcases occupant with ⟨-, -, -, request, -⟩ | ⟨-, -, -, request, -⟩ <;> simp_all
      exact ⟨awaits, rfl, Or.inl last⟩
  | callEnable free => simp [busy] at free
  | callDisable free => simp [busy] at free
  | callReset free => simp [busy] at free

/-- A switch request in flight is answered. -/
theorem leadsTo_answered (timeout : 1 ≤ config.disableStageTimeoutNs) (fair : Fair run)
    {station : Station} (held : ∀ settled, station.next settled = station) :
    run.LeadsTo (fun s => ClosedLoop station s ∧ s.jtc.pending ≠ [])
      (fun s => ClosedLoop station s ∧ s.jtc.pending = [] ∧ awaitsSwitch s) := by
  apply Execution.leadsTo_of_rank (fun _ => 0) fun _ event =>
    ∃ changed, event = .controllerManager true changed
  · rintro time ⟨law, sent⟩
    rcases law.advance timeout with ⟨move, after⟩
    rcases law.in_flight held sent move with ⟨awaits, same, executed⟩
    rw [same] at after
    by_cases answered : (run.state (time + 1)).jtc.pending = []
    · exact Or.inl ⟨after, answered, awaits⟩
    · refine Or.inr ⟨⟨after, answered⟩, Or.inr ⟨rfl, ?_⟩⟩
      rintro ⟨changed, event⟩
      rcases executed with empty | other
      · exact answered empty
      · exact other changed event
  · intro time
    rcases fair.manager time with ⟨later, late, executes⟩
    exact ⟨later, late, fun within => executes within.2⟩

/-! ## The wait for a published result -/

/-- How far `waitForResult` is from its return, once the result is published. -/
def WaitPc.rank : WaitPc → Nat
  | .checkClock => 11
  | .loadActive => 10
  | .loadReady => 9
  | .confirmReady => 8
  | .fill field => 2 + field.rest.length
  | .release => 2

/-- The response is on its way to report a success. -/
def Filling (response : Response) : WaitPc → Prop
  | .fill field => field.rest.foldl (·.readField succeeded) response = fillResponse succeeded
  | .release => response = fillResponse succeeded
  | _ => True

/-- With a published success every step of the wait comes one rank closer to the
return. -/
theorem waitStep_lowers {pc : WaitPc} {response : Response} (waiting : pc ≠ .release)
    (filling : Filling response pc) :
    (waitStep true succeeded false pc response).1.rank + 1 = pc.rank ∧
      Filling (waitStep true succeeded false pc response).2
        (waitStep true succeeded false pc response).1 := by
  cases pc with
  | loadActive => exact ⟨rfl, trivial⟩
  | loadReady => exact ⟨rfl, trivial⟩
  | checkClock => exact ⟨rfl, trivial⟩
  | confirmReady => exact ⟨rfl, rfl⟩
  | fill field => cases field <;> exact ⟨rfl, filling⟩
  | release => exact absurd rfl waiting

/-! ## The callback that runs -/

theorem Station.owner_of_resting {station : Station} (resting : station.isResting = true) :
    station.owner = .none ∨ station.owner = .internal := by
  cases station with
  | startup stage => exact Or.inr rfl
  | idle owner => cases owner <;> first | exact Or.inl rfl | exact absurd resting Bool.false_ne_true
  | enabled owner =>
      cases owner <;> first | exact Or.inl rfl | exact absurd resting Bool.false_ne_true
  | _ => exact absurd resting Bool.false_ne_true

theorem Station.owner_of_climbing {station : Station} (climbing : station.isClimbing = true) :
    station.owner = .enable := by
  cases station <;> first | rfl | exact absurd climbing Bool.false_ne_true

theorem Station.owner_of_falling {station : Station} (falling : station.isFalling = true) :
    station.owner = .disable := by
  cases station <;> first | rfl | exact absurd falling Bool.false_ne_true

theorem EnableAt.owner {station : Station} {s : System} {pc : EnablePc}
    (position : EnableAt station s pc) : station.owner ≠ .disable := by
  fun_cases EnableAt station s pc <;> simp only [EnableAt] at position <;>
    grind [Station.owner, Station.owner_of_resting, Station.owner_of_climbing]

theorem DisableAt.owner {station : Station} {s : System} {pc : DisablePc}
    (position : DisableAt station s pc) : station.owner ≠ .enable := by
  fun_cases DisableAt station s pc <;> simp only [DisableAt] at position <;>
    grind [Station.owner, Station.owner_of_resting, Station.owner_of_falling]

theorem ResetAt.owner {station : Station} {s : System} {pc : ResetPc}
    (position : ResetAt station s pc) :
    station.owner ≠ .enable ∧ station.owner ≠ .disable := by
  fun_cases ResetAt station s pc <;> simp only [ResetAt] at position <;>
    grind [Station.owner, Station.owner_of_resting]

/-- The callback of an owning enable runs. -/
theorem ClosedLoop.enable_runs {station : Station} {s : System} (law : ClosedLoop station s)
    (owned : station.owner = .enable) : s.enablePc ≠ .idle := by
  intro idle
  rcases law.occupied with ⟨position, -, -⟩ | ⟨position, -, -⟩ | ⟨position, -, -⟩
  · rw [idle] at position
    rcases Station.owner_of_resting position.1 with free | starting
    · simp [owned] at free
    · simp [owned] at starting
  · exact position.owner owned
  · exact position.owner.1 owned

/-- The callback of an owning disable runs. -/
theorem ClosedLoop.disable_runs {station : Station} {s : System} (law : ClosedLoop station s)
    (owned : station.owner = .disable) : s.disablePc ≠ .idle := by
  intro idle
  rcases law.occupied with ⟨position, -, -⟩ | ⟨position, -, -⟩ | ⟨position, -, -⟩
  · exact position.owner owned
  · rw [idle] at position
    rcases Station.owner_of_resting position.1 with free | starting
    · simp [owned] at free
    · simp [owned] at starting
  · exact position.owner.2 owned

end Runs

end RtControl.EnableManager
