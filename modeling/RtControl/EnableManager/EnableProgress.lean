import RtControl.EnableManager.LoopProgress

/-!
# Progress of an enable

Between the stations at which it waits for the group, the enable callback steps
down its program counter.  It is admitted, hands the request to the real-time
side, activates the JTC once the last batch has ended and returns its success.
-/

namespace RtControl.EnableManager

open RtControl.Transition

section Runs

variable {config : Config} {words : Words} {run : LoopRun config words}

/-! ## Steps of the enable callback -/

/-- How far the enable callback is from its return, once it is admitted and the
group has nothing left to wait for. -/
def EnablePc.rank : EnablePc → Nat
  | .clearReady => 42
  | .clearHardware => 41
  | .raiseRequest => 40
  | .loopReady => 39
  | .loopClock => 38
  | .loopActive => 37
  | .loopHardware => 36
  | .afterReady => 35
  | .afterHardware => 34
  | .switch .acquire => 33
  | .switch .probe => 32
  | .switch .await => 31
  | .switch (.clear _) => 30
  | .switch (.returned _) => 29
  | .finalCheck => 28
  | .clearFailure .stage => 27
  | .clearFailure .batch => 26
  | .clearFailure .joint => 25
  | .clearFailure .statusWord => 24
  | .storeEnabled => 23
  | .publish field => 17 + field.rest.length
  | .publishReady => 17
  | .releaseOwner => 16
  | .wait pc => pc.rank
  | _ => 0

/-- The part of the state that only the enable callback and the controller
manager change while the callback runs. -/
structure EnableKept (s t : System) : Prop where
  pc : t.enablePc = s.enablePc
  response : t.enableResponse = s.enableResponse
  pending : t.jtc.pending = s.jtc.pending ∨ t.jtc.pending = []

/-- A station that no cycle leaves is kept while the enable callback rests. -/
theorem ClosedLoop.enable_or_kept {station : Station} {s t : System} {event : Event}
    (law : ClosedLoop station s) (running : s.enablePc ≠ .idle)
    (held : ∀ settled, station.next settled = station) (move : LoopMove config s event t) :
    event = .enable false ∧ t = s.enableStep false ∨
      event ≠ .enable false ∧ stationAfter s station event = station ∧ EnableKept s t := by
  have busy : unoccupied s = false := by
    simp [unoccupied, law.enableActive.mpr running]
  rcases law.enabling running with ⟨position, disable, reset⟩
  cases move with
  | cycle now readings => exact Or.inr ⟨by simp, held _, rfl, rfl, Or.inl rfl⟩
  | enable => exact Or.inl ⟨rfl, rfl⟩
  | disable other => exact absurd disable other
  | reset other => exact absurd reset other
  | rest => exact Or.inr ⟨by simp, rfl, rfl, rfl, Or.inl rfl⟩
  | answer changed activate pending oldest =>
      have sent : s.jtc.pending ≠ [] := by simp [oldest]
      have request := (position.awaits sent).2.2.2.1
      have last : pending = [] := by simp_all
      exact Or.inr ⟨by simp, rfl, rfl, rfl, Or.inr last⟩
  | callEnable free => simp [busy] at free
  | callDisable free => simp [busy] at free
  | callReset free => simp [busy] at free

/-- The enable callback steps down to the goal at a station that no cycle
leaves. -/
theorem leadsTo_of_enable (timeout : 1 ≤ config.disableStageTimeoutNs) (fair : Fair run)
    {station : Station} (held : ∀ settled, station.next settled = station)
    {inside goal : System → Prop}
    (running : ∀ s, ClosedLoop station s → inside s → s.enablePc ≠ .idle)
    (kept : ∀ s t, inside s → EnableKept s t → inside t)
    (lowers : ∀ s, ClosedLoop station s → inside s →
      ClosedLoop (s.enablePc.moves station) (s.enableStep false) →
      goal (s.enableStep false) ∨
        s.enablePc.moves station = station ∧ inside (s.enableStep false) ∧
          (s.enableStep false).enablePc.rank < s.enablePc.rank) :
    run.LeadsTo (fun s => ClosedLoop station s ∧ inside s) goal := by
  apply Execution.leadsTo_of_rank (fun s => s.enablePc.rank) fun _ event => event = .enable false
  · rintro time ⟨law, within⟩
    rcases law.advance timeout with ⟨move, after⟩
    rcases law.enable_or_kept (running _ law within) held move with ⟨event, next⟩ | ⟨event, same, rests⟩
    · rw [event] at after
      simp only [stationAfter] at after
      rw [next] at after ⊢
      rcases lowers _ law within after with reached | ⟨same, inside, lower⟩
      · exact Or.inl reached
      · rw [same] at after
        exact Or.inr ⟨⟨after, inside⟩, Or.inl lower⟩
    · rw [same] at after
      exact Or.inr ⟨⟨after, kept _ _ within rests⟩, Or.inr ⟨by rw [rests.pc], event⟩⟩
  · intro time
    rcases fair.enable time with ⟨later, late, scheduled⟩
    exact ⟨later, late, fun within => scheduled (running _ within.1 within.2)⟩

/-! ### The ranks along the way -/

/-- The station an enable callback goes on to. -/
def Station.enableOnward : Station → Station
  | .idle .enable => .enableRequested
  | .activating => .enabled .enable
  | .enabled .enable => .enabled .none
  | station => station

/-- At a station of its own the enable callback goes on to the next one or comes
one rank closer to it. -/
theorem EnableAt.lowers {station : Station} {s : System} (stands : Stands station s.toController)
    (position : EnableAt station s s.enablePc)
    (own : station = .idle .enable ∨ station = .activating ∨ station = .enabled .enable)
    (answered : s.enablePc = .switch .await → s.jtc.pending = []) :
    s.enablePc.moves station = station.enableOnward ∨
      s.enablePc.moves station = station ∧
        (s.enableStep false).enablePc.rank + 1 = s.enablePc.rank := by
  have active := stands.active
  cases pc : s.enablePc with
  | clearReady => exact Or.inr ⟨rfl, by simp [System.enableStep, pc, EnablePc.rank]⟩
  | clearHardware => exact Or.inr ⟨rfl, by simp [System.enableStep, pc, EnablePc.rank]⟩
  | raiseRequest =>
      rw [pc] at position
      rw [position.1]
      exact Or.inl rfl
  | loopActive => exact Or.inr ⟨rfl, by simp [System.enableStep, pc, active, EnablePc.rank]⟩
  | loopHardware =>
      rw [pc] at position
      have activating : station = .activating := by
        rcases own with rfl | rfl | rfl
        · exact absurd position.1 Bool.false_ne_true
        · rfl
        · exact absurd position.1 Bool.false_ne_true
      subst activating
      have hardware : s.enableHardwareReady = true := stands.counts
      exact Or.inr ⟨rfl, by simp [System.enableStep, pc, hardware, EnablePc.rank]⟩
  | loopReady =>
      rw [pc] at position
      exact Or.inr ⟨rfl, by simp [System.enableStep, pc, position.2.2, EnablePc.rank]⟩
  | loopClock => exact Or.inr ⟨rfl, by simp [System.enableStep, pc, EnablePc.rank]⟩
  | afterReady =>
      rw [pc] at position
      exact Or.inr ⟨rfl, by simp [System.enableStep, pc, position.2.2, EnablePc.rank]⟩
  | afterHardware =>
      rw [pc] at position
      rcases position with ⟨rfl, -, -⟩
      have hardware : s.enableHardwareReady = true := stands.counts
      exact Or.inr ⟨rfl, by simp [System.enableStep, pc, hardware, EnablePc.rank]⟩
  | switch inner =>
      rw [pc] at position
      rcases position with ⟨rfl, switching, -⟩
      refine Or.inr ⟨rfl, ?_⟩
      cases inner with
      | acquire =>
          simp [System.enableStep, System.switchStep, pc, switching.released, EnablePc.rank]
      | probe => simp [System.enableStep, System.switchStep, pc, EnablePc.rank]
      | await =>
          rcases switching with ⟨-, ⟨sent, -⟩ | ⟨-, answer⟩⟩
          · simp [answered pc] at sent
          · simp [System.enableStep, System.switchStep, pc, answer, EnablePc.rank]
      | clear result => simp [System.enableStep, System.switchStep, pc, EnablePc.rank]
      | returned result =>
          cases switching.2
          simp [System.enableStep, pc, EnablePc.rank]
  | finalCheck =>
      rw [pc] at position
      rcases position with ⟨rfl, -, -⟩
      have activating : s.phase = .jtcActivating := stands.phase
      exact Or.inr ⟨rfl, by simp [System.enableStep, pc, activating, EnablePc.rank]⟩
  | clearFailure field =>
      refine Or.inr ⟨rfl, ?_⟩
      cases field <;> simp [System.enableStep, pc, FailureField.next, EnablePc.rank]
  | storeEnabled =>
      rw [pc] at position
      rw [position.1]
      exact Or.inl rfl
  | publish field =>
      refine Or.inr ⟨rfl, ?_⟩
      cases field <;> simp [System.enableStep, pc, SlotField.next, SlotField.rest, EnablePc.rank]
  | publishReady => exact Or.inr ⟨rfl, by simp [System.enableStep, pc, EnablePc.rank]⟩
  | releaseOwner =>
      rw [pc] at position
      rw [position.1]
      exact Or.inl rfl
  | idle | loadActive | loadRestart | loadEnabled | loadIdle | casOwner =>
      rw [pc] at position
      rcases own with rfl | rfl | rfl <;> exact absurd position.1 (by simp [Station.isResting])
  | wait inner =>
      rw [pc] at position
      rcases own with rfl | rfl | rfl <;> cases inner <;>
        simp [EnableAt, Station.isResting] at position
  | storeRestart | storeEmergency | failedCheck | raiseFailed =>
      rw [pc] at position
      exact position.elim

/-- The rank of the wait for the switch answer belongs to no other program
counter. -/
theorem EnablePc.eq_await {pc : EnablePc} (level : pc.rank = 31) : pc = .switch .await := by
  cases pc with
  | publish field => cases field <;> simp [rank, SlotField.rest] at level
  | wait inner =>
      cases inner with
      | fill field => cases field <;> simp [rank, WaitPc.rank, SlotField.rest] at level
      | _ => simp [rank, WaitPc.rank] at level
  | switch inner => cases inner <;> simp_all [rank]
  | clearFailure field => cases field <;> simp [rank] at level
  | _ => simp [rank] at level

/-- The callback leaves the activation by storing the enabled phase. -/
theorem EnablePc.eq_storeEnabled {pc : EnablePc} (moved : pc.moves .activating = .enabled .enable) :
    pc = .storeEnabled := by
  cases pc <;> simp_all [moves]

/-- The callback leaves the enabled group by releasing the owner. -/
theorem EnablePc.eq_releaseOwner {pc : EnablePc}
    (moved : pc.moves (.enabled .enable) = .enabled .none) : pc = .releaseOwner := by
  cases pc <;> simp_all [moves]

/-- An admitted enable raises its request. -/
theorem leadsTo_enableRequested (timeout : 1 ≤ config.disableStageTimeoutNs) (fair : Fair run) :
    run.LeadsTo (ClosedLoop (.idle .enable)) (ClosedLoop .enableRequested) := by
  have steps : run.LeadsTo (fun s => ClosedLoop (.idle .enable) s ∧ True)
      (ClosedLoop .enableRequested) := by
    apply leadsTo_of_enable timeout fair (fun _ => rfl)
    · intro s law _
      exact law.enable_runs rfl
    · exact fun _ _ _ _ => trivial
    · intro s law _ after
      rcases law.enabling (law.enable_runs rfl) with ⟨position, -, -⟩
      have unsent : s.enablePc = .switch .await → s.jtc.pending = [] := by
        intro awaiting
        rw [awaiting] at position
        exact absurd position.1 (by simp)
      rcases position.lowers law.stands (Or.inl rfl) unsent with moved | ⟨same, lower⟩
      · rw [moved] at after
        exact Or.inl after
      · exact Or.inr ⟨same, trivial, by omega⟩
  intro time law
  exact steps time ⟨law, trivial⟩

/-- The enable callback finds the hardware ready and sends its switch request. -/
theorem leadsTo_enableSent (timeout : 1 ≤ config.disableStageTimeoutNs) (fair : Fair run) :
    run.LeadsTo (fun s => ClosedLoop .activating s ∧ 31 < s.enablePc.rank)
      (fun s => ClosedLoop .activating s ∧ s.enablePc = .switch .await) := by
  apply leadsTo_of_enable timeout fair (fun _ => rfl)
  · intro s law _
    exact law.enable_runs rfl
  · intro s t above kept
    rw [kept.pc]
    exact above
  · intro s law above after
    rcases law.enabling (law.enable_runs rfl) with ⟨position, -, -⟩
    have unsent : s.enablePc = .switch .await → s.jtc.pending = [] := by
      intro awaiting
      rw [awaiting] at above
      exact absurd above (by decide)
    rcases position.lowers law.stands (Or.inr (Or.inl rfl)) unsent with moved | ⟨same, lower⟩
    · rw [EnablePc.eq_storeEnabled moved] at above
      exact absurd above (by decide)
    · rw [same] at after
      by_cases arrived : (s.enableStep false).enablePc.rank = 31
      · exact Or.inl ⟨after, EnablePc.eq_await arrived⟩
      · exact Or.inr ⟨same, by omega, by omega⟩

/-- The answered enable callback stores the enabled phase. -/
theorem leadsTo_enableStored (timeout : 1 ≤ config.disableStageTimeoutNs) (fair : Fair run) :
    run.LeadsTo
      (fun s => ClosedLoop .activating s ∧ s.enablePc.rank ≤ 31 ∧
        (s.enablePc = .switch .await → s.jtc.pending = []))
      (ClosedLoop (.enabled .enable)) := by
  apply leadsTo_of_enable timeout fair (fun _ => rfl)
  · intro s law _
    exact law.enable_runs rfl
  · rintro s t ⟨below, answered⟩ kept
    refine ⟨kept.pc ▸ below, ?_⟩
    intro awaiting
    rcases kept.pending with same | empty
    · rw [same]
      exact answered (kept.pc ▸ awaiting)
    · exact empty
  · rintro s law ⟨below, answered⟩ after
    rcases law.enabling (law.enable_runs rfl) with ⟨position, -, -⟩
    rcases position.lowers law.stands (Or.inr (Or.inl rfl)) answered with moved | ⟨same, lower⟩
    · rw [moved] at after
      exact Or.inl after
    · refine Or.inr ⟨same, ⟨by omega, ?_⟩, by omega⟩
      intro awaiting
      have level : (EnablePc.switch .await).rank = 31 := rfl
      rw [awaiting, level] at lower
      omega

/-- The activation ends with the enabled phase. -/
theorem leadsTo_enabled (timeout : 1 ≤ config.disableStageTimeoutNs) (fair : Fair run) :
    run.LeadsTo (ClosedLoop .activating) (ClosedLoop (.enabled .enable)) := by
  have stores := leadsTo_enableStored timeout fair
  have answers : run.LeadsTo (fun s => ClosedLoop .activating s ∧ s.enablePc = .switch .await)
      (ClosedLoop (.enabled .enable)) := by
    rintro time ⟨law, awaiting⟩
    have level : (EnablePc.switch .await).rank = 31 := rfl
    by_cases sent : (run.state time).jtc.pending = []
    · exact stores time ⟨law, by rw [awaiting, level], fun _ => sent⟩
    · rcases leadsTo_answered timeout fair (fun _ => rfl) time ⟨law, sent⟩ with
        ⟨middle, early, between, empty, awaits⟩
      have again : (run.state middle).enablePc = .switch .await := by
        rcases awaits with enable | disable
        · exact enable
        · have position := (between.disabling (by simp [disable])).1
          exact absurd rfl position.owner
      rcases stores middle ⟨between, by rw [again, level], fun _ => empty⟩ with
        ⟨later, late, met⟩
      exact ⟨later, Nat.le_trans early late, met⟩
  intro time law
  by_cases awaiting : (run.state time).enablePc = .switch .await
  · exact answers time ⟨law, awaiting⟩
  · by_cases above : 31 < (run.state time).enablePc.rank
    · exact (leadsTo_enableSent timeout fair).trans answers time ⟨law, above⟩
    · exact stores time ⟨law, by omega, fun again => absurd again awaiting⟩

/-- The published enable releases its owner. -/
theorem leadsTo_enableReleased (timeout : 1 ≤ config.disableStageTimeoutNs) (fair : Fair run) :
    run.LeadsTo (ClosedLoop (.enabled .enable))
      (fun s => ClosedLoop (.enabled .none) s ∧ s.enablePc = .wait .loadActive) := by
  have steps : run.LeadsTo (fun s => ClosedLoop (.enabled .enable) s ∧ True)
      (fun s => ClosedLoop (.enabled .none) s ∧ s.enablePc = .wait .loadActive) := by
    apply leadsTo_of_enable timeout fair (fun _ => rfl)
    · intro s law _
      exact law.enable_runs rfl
    · exact fun _ _ _ _ => trivial
    · intro s law _ after
      rcases law.enabling (law.enable_runs rfl) with ⟨position, -, -⟩
      have unsent : s.enablePc = .switch .await → s.jtc.pending = [] := by
        intro awaiting
        rw [awaiting] at position
        exact absurd position.1 (by simp)
      rcases position.lowers law.stands (Or.inr (Or.inr rfl)) unsent with moved | ⟨same, lower⟩
      · have releasing := EnablePc.eq_releaseOwner moved
        rw [moved] at after
        exact Or.inl ⟨after, by simp [System.enableStep, releasing]⟩
      · exact Or.inr ⟨same, trivial, by omega⟩
  intro time law
  exact steps time ⟨law, trivial⟩

/-- A step of the wait of the enable callback on a published success. -/
theorem System.enableStep_wait {s : System} {inner : WaitPc} (pc : s.enablePc = .wait inner)
    (waiting : inner ≠ .release) (active : s.active = true)
    (published : s.enableResult = succeeded) :
    s.enableStep false =
      { s with
        enablePc := .wait (waitStep true succeeded false inner s.enableResponse).1
        enableResponse := (waitStep true succeeded false inner s.enableResponse).2 } := by
  cases inner with
  | release => exact absurd rfl waiting
  | _ => simp only [System.enableStep, pc, active, published]

/-- An enable call has returned its success and left the group enabled. -/
def enableSucceeded (s : System) : Prop :=
  s.phase = .enabled ∧ s.enablePc = .idle ∧ s.enableResponse.ok = true ∧
    s.enableResponse.stage = "success"

/-- The enable callback reads its published success and returns it. -/
theorem leadsTo_enableSucceeded (timeout : 1 ≤ config.disableStageTimeoutNs) (fair : Fair run) :
    run.LeadsTo (fun s => ClosedLoop (.enabled .none) s ∧ s.enablePc = .wait .loadActive)
      enableSucceeded := by
  have steps : run.LeadsTo
      (fun s => ClosedLoop (.enabled .none) s ∧
        ∃ inner, s.enablePc = .wait inner ∧ Filling s.enableResponse inner) enableSucceeded := by
    apply leadsTo_of_enable timeout fair (fun _ => rfl)
    · rintro s - ⟨inner, pc, -⟩
      simp [pc]
    · rintro s t ⟨inner, pc, filling⟩ kept
      exact ⟨inner, kept.pc.trans pc, kept.response ▸ filling⟩
    · rintro s law ⟨inner, pc, filling⟩ after
      have running : s.enablePc ≠ .idle := by simp [pc]
      have position := (law.enabling running).1
      rw [pc] at position
      by_cases last : inner = .release
      · subst last
        have phase : s.phase = .enabled := law.stands.phase
        have response : s.enableResponse = fillResponse succeeded := filling
        left
        rw [enableSucceeded, System.enableStep, pc]
        exact ⟨phase, rfl, congrArg Response.ok response, congrArg Response.stage response⟩
      · have published : s.enableResult = succeeded := by
          cases inner <;> first | exact position.2.2 | exact position.2.2.1 | contradiction
        have stepped := System.enableStep_wait pc last law.stands.active published
        rcases waitStep_lowers last filling with ⟨lower, fills⟩
        rw [stepped, pc]
        exact Or.inr ⟨rfl, ⟨_, rfl, fills⟩, Nat.lt_of_succ_le (Nat.le_of_eq lower)⟩
  rintro time ⟨law, pc⟩
  exact steps time ⟨law, .loadActive, pc, trivial⟩

end Runs

end RtControl.EnableManager
