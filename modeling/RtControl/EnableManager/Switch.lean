import RtControl.EnableManager.Blocks

/-!
# One switch at a time

`switchJtc` is called by the enable callback, the disable callback and the worker
timer, and `switch_in_progress_` admits one of them.  As long as no call gives up
on its answer, the request in flight is the holder's.  What more is known about
a request in flight is left to the results that use this law.
-/

namespace RtControl.EnableManager

open RtControl.Transition

/-- The controller manager executes its oldest request exactly when the JTC is in
the opposite state, and says so. -/
def truthful : Guard System Event := fun s event =>
  match event with
  | .controllerManager ok changed =>
      match s.jtc.pending with
      | [] => true
      | activate :: _ => ok = (s.jtc.active != activate) && changed = ok
  | _ => true

/-- Within one activation the controller manager is truthful. -/
def truthfulSession : Guard System Event := fun s event =>
  inSession s event && truthful s event

/-- The JTC after a truthful execution of its oldest request. -/
def Jtc.executed (jtc : Jtc) (activate : Bool) (pending : List Bool) : Jtc where
  active := activate
  pending := pending
  answer := if pending = [] then some (jtc.active != activate) else jtc.answer

/-- A truthful answer leaves the JTC in the requested state. -/
theorem executed_of_truthful {s : System} {ok changed activate : Bool} {pending : List Bool}
    (oldest : s.jtc.pending = activate :: pending)
    (truth : truthful s (.controllerManager ok changed) = true) :
    { active := if changed then activate else s.jtc.active
      pending := pending
      answer := if pending = [] then some ok else s.jtc.answer : Jtc } =
      s.jtc.executed activate pending := by
  have spoken : ok = (s.jtc.active != activate) ∧ changed = ok := by
    simpa [truthful, oldest] using truth
  obtain ⟨rfl, rfl⟩ := spoken
  cases activate <;> cases state : s.jtc.active <;> simp [Jtc.executed, state]

/-- The switch is held by one thread at a time.  `up` and `down` say how the JTC
stands while an activation or a deactivation is in flight. -/
structure SwitchLaw (up down : Jtc → Prop) (s : System) : Prop where
  free : s.switchInProgress = false →
    s.jtc.pending = [] ∧ s.enablePc ≠ .switch .await ∧ s.disablePc ≠ .switch .await ∧
      s.worker ≠ .switch .await
  held : s.switchInProgress = true →
    s.worker = .switch .await ∨ s.enablePc = .switch .await ∨ s.disablePc = .switch .await
  worker : s.worker = .switch .await →
    s.switchInProgress = true ∧ s.enablePc ≠ .switch .await ∧ s.disablePc ≠ .switch .await ∧
      down s.jtc
  enable : s.enablePc = .switch .await →
    s.switchInProgress = true ∧ s.disablePc ≠ .switch .await ∧ up s.jtc
  disable : s.disablePc = .switch .await → s.switchInProgress = true ∧ down s.jtc

/-- No restart is latched, and no worker has one to latch. -/
def System.unlatched (s : System) : Prop :=
  s.restartRequired = false ∧ s.workersFailed = 0

/-- An answered request is no longer pending. -/
def Settles (flight : Jtc → Prop) : Prop :=
  ∀ jtc : Jtc, flight jtc → jtc.answer ≠ none → jtc.pending = []

section Moves

variable {config : Config} {up down : Jtc → Prop} {s t : System} {late : Bool} {event : Event}

theorem switchLaw_update {now : Int} {readings : Readings} {t : Controller}
    (law : SwitchLaw up down s)
    (cycle : Cycle config now (s.toController.refreshStatusWords readings) t) :
    SwitchLaw up down { s with toController := t } := by
  obtain ⟨free, held, worker, enable, disable⟩ := law
  have kept : t.switchInProgress = s.switchInProgress :=
    (Controller.untouched_of_cycle cycle).switchInProgress
  exact ⟨kept ▸ free, kept ▸ held, kept ▸ worker, kept ▸ enable, kept ▸ disable⟩

theorem switchLaw_enable (law : SwitchLaw up down s) (settles : Settles up)
    (sends : s.enablePc = .switch .acquire → s.switchInProgress = false → up (s.jtc.send true))
    (block : EnableBlock s late t) (running : t.restartRequired = false) :
    SwitchLaw up down t := by
  obtain ⟨free, held, worker, enable, disable⟩ := law
  cases block <;> constructor <;> grind -linarith [Jtc.send, Settles]

theorem switchLaw_disable (law : SwitchLaw up down s) (settles : Settles down)
    (sends : s.disablePc = .switch .acquire → s.switchInProgress = false →
      down (s.jtc.send false))
    (block : DisableBlock s late t) (running : t.restartRequired = false) :
    SwitchLaw up down t := by
  obtain ⟨free, held, worker, enable, disable⟩ := law
  cases block <;> constructor <;> grind -linarith [Jtc.send, Settles]

theorem switchLaw_reset (law : SwitchLaw up down s) (block : ResetBlock s late t) :
    SwitchLaw up down t := by
  obtain ⟨free, held, worker, enable, disable⟩ := law
  cases block <;> exact ⟨free, held, worker, enable, disable⟩

theorem switchLaw_worker (law : SwitchLaw up down s) (settles : Settles down)
    (sends : ∀ late, event = .callWorker late → s.workersCalling ≠ 0 →
      s.switchInProgress = false → down (s.jtc.send false))
    (block : WorkerBlock s event t) (unlatched : t.unlatched) : SwitchLaw up down t := by
  obtain ⟨free, held, worker, enable, disable⟩ := law
  obtain ⟨running, unfailed⟩ := unlatched
  cases block with
  | busy | missing | declined => cases unfailed
  | latch => cases running
  | _ => constructor <;> grind -linarith [Jtc.send, Settles]

theorem switchLaw_execute {activate : Bool} {pending : List Bool} (law : SwitchLaw up down s)
    (oldest : s.jtc.pending = activate :: pending)
    (raises : up s.jtc → up (s.jtc.executed activate pending))
    (lowers : down s.jtc → down (s.jtc.executed activate pending)) :
    SwitchLaw up down { s with jtc := s.jtc.executed activate pending } := by
  obtain ⟨free, held, worker, enable, disable⟩ := law
  constructor <;> grind -linarith

theorem switchLaw_activated : SwitchLaw up down activated := by
  constructor <;> simp [activated, configured, Controller.onActivate,
    Controller.setAllControlWords]

end Moves

end RtControl.EnableManager
