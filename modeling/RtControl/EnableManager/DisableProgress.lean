import RtControl.EnableManager.LoopProgress

/-!
# Progress of a disable

The disable callback deactivates the JTC, hands the request to the real-time
side, waits for the group to reach its terminal states and returns its success.
-/

namespace RtControl.EnableManager

open RtControl.Transition

section Runs

variable {config : Config} {words : Words} {run : LoopRun config words}

/-! ## Steps of the disable callback -/

/-- How far the disable callback is from its return, once it is admitted and the
group has nothing left to wait for. -/
def DisablePc.rank : DisablePc → Nat
  | .clearReady _ => 28
  | .clearFailed _ => 27
  | .storeDeactivating => 26
  | .switch .acquire => 25
  | .switch .probe => 24
  | .switch .await => 23
  | .switch (.clear _) => 22
  | .switch (.returned _) => 21
  | .raiseRequest _ => 20
  | .wait pc => pc.rank
  | _ => 0

/-- The part of the state that only the disable callback and the controller
manager change while the callback runs. -/
structure DisableKept (s t : System) : Prop where
  pc : t.disablePc = s.disablePc
  response : t.disableResponse = s.disableResponse
  pending : t.jtc.pending = s.jtc.pending ∨ t.jtc.pending = []

/-- A station that no cycle leaves is kept while the disable callback rests. -/
theorem ClosedLoop.disable_or_kept {station : Station} {s t : System} {event : Event}
    (law : ClosedLoop station s) (running : s.disablePc ≠ .idle)
    (held : ∀ settled, station.next settled = station) (move : LoopMove config s event t) :
    event = .disable false ∧ t = s.disableStep false ∨
      event ≠ .disable false ∧ stationAfter s station event = station ∧ DisableKept s t := by
  have busy : unoccupied s = false := by
    simp [unoccupied, law.disableActive.mpr running]
  rcases law.disabling running with ⟨position, enable, reset⟩
  cases move with
  | cycle now readings => exact Or.inr ⟨by simp, held _, rfl, rfl, Or.inl rfl⟩
  | disable => exact Or.inl ⟨rfl, rfl⟩
  | enable other => exact absurd enable other
  | reset other => exact absurd reset other
  | rest => exact Or.inr ⟨by simp, rfl, rfl, rfl, Or.inl rfl⟩
  | answer changed activate pending oldest =>
      have sent : s.jtc.pending ≠ [] := by simp [oldest]
      have request := (position.awaits sent).2.2.2.1
      have last : pending = [] := by simp_all
      exact Or.inr ⟨by simp, rfl, rfl, rfl, Or.inr last⟩
  | callEnable free => simp [busy] at free
  | callDisable free => simp [busy] at free
  | callReset free => simp [busy] at free

/-- The disable callback steps down to the goal at a station that no cycle
leaves. -/
theorem leadsTo_of_disable (timeout : 1 ≤ config.disableStageTimeoutNs) (fair : Fair run)
    {station : Station} (held : ∀ settled, station.next settled = station)
    {inside goal : System → Prop}
    (running : ∀ s, ClosedLoop station s → inside s → s.disablePc ≠ .idle)
    (kept : ∀ s t, inside s → DisableKept s t → inside t)
    (lowers : ∀ s, ClosedLoop station s → inside s →
      ClosedLoop (s.disablePc.moves station) (s.disableStep false) →
      goal (s.disableStep false) ∨
        s.disablePc.moves station = station ∧ inside (s.disableStep false) ∧
          (s.disableStep false).disablePc.rank < s.disablePc.rank) :
    run.LeadsTo (fun s => ClosedLoop station s ∧ inside s) goal := by
  apply Execution.leadsTo_of_rank (fun s => s.disablePc.rank) fun _ event => event = .disable false
  · rintro time ⟨law, within⟩
    rcases law.advance timeout with ⟨move, after⟩
    rcases law.disable_or_kept (running _ law within) held move with
      ⟨event, next⟩ | ⟨event, same, rests⟩
    · rw [event] at after
      simp only [stationAfter] at after
      rw [next] at after ⊢
      rcases lowers _ law within after with reached | ⟨same, inside, lower⟩
      · exact Or.inl reached
      · rw [same] at after
        exact Or.inr ⟨⟨after, inside⟩, Or.inl lower⟩
    · rw [same] at after
      exact Or.inr ⟨⟨after, kept _ _ within rests⟩, Or.inr ⟨by rw [rests.pc], event⟩⟩
  · intro time
    rcases fair.disable time with ⟨later, late, scheduled⟩
    exact ⟨later, late, fun within => scheduled (running _ within.1 within.2)⟩

/-- The station a disable callback goes on to. -/
def Station.disableOnward : Station → Station
  | .enabled .disable => .deactivating false
  | .deactivating false => .deactivating true
  | station => station

/-- At a station of its own the disable callback goes on to the next one or
comes one rank closer to it. -/
theorem DisableAt.lowers {station : Station} {s : System} (position : DisableAt station s s.disablePc)
    (own : station = .enabled .disable ∨ station = .deactivating false)
    (answered : s.disablePc = .switch .await → s.jtc.pending = []) :
    s.disablePc.moves station = station.disableOnward ∨
      s.disablePc.moves station = station ∧
        (s.disableStep false).disablePc.rank + 1 = s.disablePc.rank := by
  cases pc : s.disablePc with
  | clearReady phase => exact Or.inr ⟨rfl, by simp [System.disableStep, pc, DisablePc.rank]⟩
  | clearFailed phase =>
      rw [pc] at position
      rcases position with ⟨-, -, -, rfl⟩
      exact Or.inr ⟨rfl, by simp [System.disableStep, pc, DisablePc.rank]⟩
  | storeDeactivating =>
      rw [pc] at position
      rw [position.1]
      exact Or.inl rfl
  | switch inner =>
      rw [pc] at position
      rcases position with ⟨rfl, switching, -⟩
      refine Or.inr ⟨rfl, ?_⟩
      cases inner with
      | acquire =>
          simp [System.disableStep, System.switchStep, pc, switching.released, DisablePc.rank]
      | probe => simp [System.disableStep, System.switchStep, pc, DisablePc.rank]
      | await =>
          rcases switching with ⟨-, ⟨sent, -⟩ | ⟨-, answer⟩⟩
          · simp [answered pc] at sent
          · simp [System.disableStep, System.switchStep, pc, answer, DisablePc.rank]
      | clear result => simp [System.disableStep, System.switchStep, pc, DisablePc.rank]
      | returned result =>
          cases switching.2
          simp [System.disableStep, pc, DisablePc.rank]
  | raiseRequest phase =>
      rw [pc] at position
      rw [position.1]
      exact Or.inl rfl
  | idle | loadActive | loadPhase | loadOwner | casOwner =>
      rw [pc] at position
      rcases own with rfl | rfl <;> exact absurd position.1 (by simp [Station.isResting])
  | wait inner =>
      rw [pc] at position
      rcases own with rfl | rfl <;> cases inner <;>
        simp [DisableAt, Station.isResting, Station.isFalling] at position
  | storeFailed | storeRestart | recordFailure =>
      rw [pc] at position
      exact position.elim

theorem DisablePc.eq_await {pc : DisablePc} (level : pc.rank = 23) : pc = .switch .await := by
  cases pc with
  | wait inner =>
      cases inner with
      | fill field => cases field <;> simp [rank, WaitPc.rank, SlotField.rest] at level
      | _ => simp [rank, WaitPc.rank] at level
  | switch inner => cases inner <;> simp_all [rank]
  | _ => simp [rank] at level

/-- The callback leaves the deactivation by raising its request. -/
theorem DisablePc.rank_of_raised {pc : DisablePc}
    (moved : pc.moves (.deactivating false) = .deactivating true) : pc.rank = 20 := by
  cases pc <;> simp_all [moves, rank]

/-- An admitted disable turns to the JTC. -/
theorem leadsTo_deactivating (timeout : 1 ≤ config.disableStageTimeoutNs) (fair : Fair run) :
    run.LeadsTo (ClosedLoop (.enabled .disable)) (ClosedLoop (.deactivating false)) := by
  have steps : run.LeadsTo (fun s => ClosedLoop (.enabled .disable) s ∧ True)
      (ClosedLoop (.deactivating false)) := by
    apply leadsTo_of_disable timeout fair (fun _ => rfl)
    · intro s law _
      exact law.disable_runs rfl
    · exact fun _ _ _ _ => trivial
    · intro s law _ after
      rcases law.disabling (law.disable_runs rfl) with ⟨position, -, -⟩
      have unsent : s.disablePc = .switch .await → s.jtc.pending = [] := by
        intro awaiting
        rw [awaiting] at position
        exact absurd position.1 (by simp)
      rcases position.lowers (Or.inl rfl) unsent with moved | ⟨same, lower⟩
      · rw [moved] at after
        exact Or.inl after
      · exact Or.inr ⟨same, trivial, by omega⟩
  intro time law
  exact steps time ⟨law, trivial⟩

/-- The disable callback sends its switch request. -/
theorem leadsTo_disableSent (timeout : 1 ≤ config.disableStageTimeoutNs) (fair : Fair run) :
    run.LeadsTo (fun s => ClosedLoop (.deactivating false) s ∧ 23 < s.disablePc.rank)
      (fun s => ClosedLoop (.deactivating false) s ∧ s.disablePc = .switch .await) := by
  apply leadsTo_of_disable timeout fair (fun _ => rfl)
  · intro s law _
    exact law.disable_runs rfl
  · intro s t above kept
    rw [kept.pc]
    exact above
  · intro s law above after
    rcases law.disabling (law.disable_runs rfl) with ⟨position, -, -⟩
    have unsent : s.disablePc = .switch .await → s.jtc.pending = [] := by
      intro awaiting
      rw [awaiting] at above
      exact absurd above (by decide)
    rcases position.lowers (Or.inr rfl) unsent with moved | ⟨same, lower⟩
    · rw [DisablePc.rank_of_raised moved] at above
      exact absurd above (by decide)
    · rw [same] at after
      by_cases arrived : (s.disableStep false).disablePc.rank = 23
      · exact Or.inl ⟨after, DisablePc.eq_await arrived⟩
      · exact Or.inr ⟨same, by omega, by omega⟩

/-- The answered disable callback raises its request. -/
theorem leadsTo_disableRaised (timeout : 1 ≤ config.disableStageTimeoutNs) (fair : Fair run) :
    run.LeadsTo
      (fun s => ClosedLoop (.deactivating false) s ∧ s.disablePc.rank ≤ 23 ∧
        (s.disablePc = .switch .await → s.jtc.pending = []))
      (ClosedLoop (.deactivating true)) := by
  apply leadsTo_of_disable timeout fair (fun _ => rfl)
  · intro s law _
    exact law.disable_runs rfl
  · rintro s t ⟨below, answered⟩ kept
    refine ⟨kept.pc ▸ below, ?_⟩
    intro awaiting
    rcases kept.pending with same | empty
    · rw [same]
      exact answered (kept.pc ▸ awaiting)
    · exact empty
  · rintro s law ⟨below, answered⟩ after
    rcases law.disabling (law.disable_runs rfl) with ⟨position, -, -⟩
    rcases position.lowers (Or.inr rfl) answered with moved | ⟨same, lower⟩
    · rw [moved] at after
      exact Or.inl after
    · refine Or.inr ⟨same, ⟨by omega, ?_⟩, by omega⟩
      intro awaiting
      have level : (DisablePc.switch .await).rank = 23 := rfl
      rw [awaiting, level] at lower
      omega

/-- The deactivation of the JTC ends with the request of the descent. -/
theorem leadsTo_disableRequested (timeout : 1 ≤ config.disableStageTimeoutNs) (fair : Fair run) :
    run.LeadsTo (ClosedLoop (.deactivating false)) (ClosedLoop (.deactivating true)) := by
  have raises := leadsTo_disableRaised timeout fair
  have answers : run.LeadsTo
      (fun s => ClosedLoop (.deactivating false) s ∧ s.disablePc = .switch .await)
      (ClosedLoop (.deactivating true)) := by
    rintro time ⟨law, awaiting⟩
    have level : (DisablePc.switch .await).rank = 23 := rfl
    by_cases sent : (run.state time).jtc.pending = []
    · exact raises time ⟨law, by rw [awaiting, level], fun _ => sent⟩
    · rcases leadsTo_answered timeout fair (fun _ => rfl) time ⟨law, sent⟩ with
        ⟨middle, early, between, empty, awaits⟩
      have again : (run.state middle).disablePc = .switch .await := by
        rcases awaits with enable | disable
        · have position := (between.enabling (by simp [enable])).1
          exact absurd rfl position.owner
        · exact disable
      rcases raises middle ⟨between, by rw [again, level], fun _ => empty⟩ with
        ⟨later, late, met⟩
      exact ⟨later, Nat.le_trans early late, met⟩
  intro time law
  by_cases awaiting : (run.state time).disablePc = .switch .await
  · exact answers time ⟨law, awaiting⟩
  · by_cases above : 23 < (run.state time).disablePc.rank
    · exact (leadsTo_disableSent timeout fair).trans answers time ⟨law, above⟩
    · exact raises time ⟨law, by omega, fun again => absurd again awaiting⟩

/-- The disable callback waits for its result. -/
def waitsForDescent (s : System) : Prop :=
  ∃ inner, s.disablePc = .wait inner ∧ inner ≠ .release

/-- During its descent the disable callback waits. -/
theorem ClosedLoop.waitsForDescent {stage : Nat} {s : System}
    (law : ClosedLoop (.disabling stage) s) : waitsForDescent s := by
  rcases law.disabling (law.disable_runs rfl) with ⟨position, -, -⟩
  cases pc : s.disablePc with
  | wait inner =>
      refine ⟨inner, pc, ?_⟩
      intro last
      subst last
      rw [pc] at position
      exact absurd position.1 Bool.false_ne_true
  | _ =>
      rw [pc] at position
      first | exact position.elim | exact absurd position.1 (by simp [Station.isResting])

/-- A requested descent ends in idle with the disable callback waiting. -/
theorem leadsTo_idle (timeout : 1 ≤ config.disableStageTimeoutNs) (fair : Fair run) :
    run.LeadsTo (ClosedLoop (.deactivating true))
      (fun s => ClosedLoop (.idle .none) s ∧ waitsForDescent s) := by
  have begins : run.LeadsTo (ClosedLoop (.deactivating true)) (ClosedLoop (.disabling 0)) :=
    leadsTo_next timeout fair rfl
  have first : run.LeadsTo (ClosedLoop (.disabling 0)) (ClosedLoop (.disabling 1)) :=
    leadsTo_next timeout fair rfl
  have second : run.LeadsTo (ClosedLoop (.disabling 1)) (ClosedLoop (.disabling 2)) :=
    leadsTo_next timeout fair rfl
  have last : run.LeadsTo (ClosedLoop (.disabling 2))
      (fun s => ClosedLoop (.idle .none) s ∧ waitsForDescent s) :=
    leadsTo_next_of_kept timeout fair rfl (fun _ law => law.waitsForDescent) fun _ _ => id
  exact ((begins.trans first).trans second).trans last

/-- A step of the wait of the disable callback on a published success. -/
theorem System.disableStep_wait {s : System} {inner : WaitPc} (pc : s.disablePc = .wait inner)
    (waiting : inner ≠ .release) (active : s.active = true)
    (published : s.disableResult = succeeded) :
    s.disableStep false =
      { s with
        disablePc := .wait (waitStep true succeeded false inner s.disableResponse).1
        disableResponse := (waitStep true succeeded false inner s.disableResponse).2 } := by
  cases inner with
  | release => exact absurd rfl waiting
  | _ => simp only [System.disableStep, pc, active, published]

/-- A disable call has returned its success and left the group terminal. -/
def disableSucceeded (s : System) : Prop :=
  s.phase = .idle ∧ s.disablePc = .idle ∧ s.disableResponse.ok = true ∧
    s.disableResponse.stage = "success" ∧ allTerminal s.statusWords = true

/-- The disable callback reads its published success and returns it. -/
theorem leadsTo_disableSucceeded (timeout : 1 ≤ config.disableStageTimeoutNs) (fair : Fair run) :
    run.LeadsTo (fun s => ClosedLoop (.idle .none) s ∧ waitsForDescent s) disableSucceeded := by
  have steps : run.LeadsTo
      (fun s => ClosedLoop (.idle .none) s ∧
        ∃ inner, s.disablePc = .wait inner ∧ Filling s.disableResponse inner)
      disableSucceeded := by
    apply leadsTo_of_disable timeout fair (fun _ => rfl)
    · rintro s - ⟨inner, pc, -⟩
      simp [pc]
    · rintro s t ⟨inner, pc, filling⟩ kept
      exact ⟨inner, kept.pc.trans pc, kept.response ▸ filling⟩
    · rintro s law ⟨inner, pc, filling⟩ after
      have running : s.disablePc ≠ .idle := by simp [pc]
      have position := (law.disabling running).1
      rw [pc] at position
      by_cases last : inner = .release
      · subst last
        have phase : s.phase = .idle := law.stands.phase
        have response : s.disableResponse = fillResponse succeeded := filling
        left
        rw [disableSucceeded, System.disableStep, pc]
        exact ⟨phase, rfl, congrArg Response.ok response, congrArg Response.stage response,
          (allTerminal_iff _).mpr law.stands.reads⟩
      · have published : s.disableResult = succeeded := by
          cases inner with
          | loadActive | loadReady | checkClock =>
              rcases position.2 with ⟨falling, -⟩ | ⟨-, published⟩
              · exact absurd falling Bool.false_ne_true
              · exact published
          | confirmReady => exact position.2.2
          | fill field => exact position.2.2.1
          | release => contradiction
        have stepped := System.disableStep_wait pc last law.stands.active published
        rcases waitStep_lowers last filling with ⟨lower, fills⟩
        rw [stepped, pc]
        exact Or.inr ⟨rfl, ⟨_, rfl, fills⟩, Nat.lt_of_succ_le (Nat.le_of_eq lower)⟩
  rintro time ⟨law, inner, pc, waiting⟩
  have filling : Filling (run.state time).disableResponse inner := by
    have position := (law.disabling (by simp [pc])).1
    rw [pc] at position
    cases inner with
    | fill field => exact position.2.2.2
    | release => contradiction
    | _ => trivial
  exact steps time ⟨law, inner, pc, filling⟩

end Runs

end RtControl.EnableManager
