import RtControl.EnableManager.Outcome

/-!
# Every descent ends

A descent is ranked by its stage: the normal stages above the quick stop, the
quick stop above the emergency stages, and idle and failed at the bottom.  No
step of a session raises the rank, and a cycle that finds the stage deadline
passed lowers it, whatever the drives report.
-/

namespace RtControl.EnableManager

open RtControl.Transition

/-- The rank of a descent.  Phases outside the descents have rank zero. -/
def descentRank (s : Controller) : Nat :=
  match s.phase with
  | .startupSanitizing | .disabling | .rollback => 7 - s.downwardStage
  | .emergencyQuickStop => 4
  | .emergencyDisable => 3 - s.downwardStage
  | _ => 0

/-- The phases a descent ends in. -/
def Phase.isResting (phase : Phase) : Bool :=
  phase = .idle || phase = .failed

/-- Time stamps are not negative. -/
def nonnegativeTime : Guard System Event := fun _ event =>
  match event with
  | .update now _ => 0 ≤ now
  | _ => true

/-- Steps at nonnegative time stamps within one activation. -/
def nonnegativeSession : Guard System Event := fun s event =>
  nonnegativeTime s event && inSession s event

/-- The cycle starts with a set deadline that has passed. -/
def expires (s : System) (event : Event) : Bool :=
  match event with
  | .update now _ => s.stageDeadlineNs ≠ 0 && s.stageDeadlineNs ≤ now
  | _ => false

/-- The history of a descent: the expiries seen before it came to rest. -/
structure DescentLog where
  expiries : Nat := 0
  rested : Bool := false

/-- Count an expiry until the descent rests. -/
def recordExpiry (s : System) (event : Event) (t : System) (log : DescentLog) : DescentLog :=
  if log.rested then log
  else
    { expiries := if expires s event then log.expiries + 1 else log.expiries
      rested := t.phase.isResting }

/-! ## What a cycle does to a descent -/

/-- A cycle as the descent sees it. -/
inductive DescentFlow (config : Config) (now : Int) (s t : Controller) : Prop
  /-- The cycle ends outside the descents; a descent is left for a resting phase only. -/
  | outside
      (after : t.phase.isDescent = false)
      (rests : s.phase.isDescent = true → t.phase.isResting = true)
  /-- A descent starts. -/
  | enter
      (before : s.phase.isDescent = false)
      (stage : t.downwardStage = 0 ∨ t.phase = .emergencyQuickStop)
      (deadline : t.stageDeadlineNs = now + config.disableStageTimeoutNs)
  /-- The stage goes on and its deadline has not passed. -/
  | hold
      (phase : t.phase = s.phase)
      (stage : s.phase.isDownward = true → t.downwardStage = s.descentStage)
      (deadline : t.stageDeadlineNs = s.stageDeadlineNs ∨
        s.stageDeadlineNs = 0 ∧ t.stageDeadlineNs = now + config.disableStageTimeoutNs)
      (early : s.stageDeadlineNs = 0 ∨ now < s.stageDeadlineNs)
  /-- The descent advances to its next stage. -/
  | advance
      (downward : s.phase.isDownward = true)
      (phase : t.phase = s.phase)
      (stage : t.downwardStage = s.descentStage + 1)
      (early : s.descentStage < 2)
      (deadline : t.stageDeadlineNs = now + config.disableStageTimeoutNs)
  /-- A normal descent falls back to the quick stop. -/
  | stop
      (normal : s.phase.isNormalDescent = true)
      (phase : t.phase = .emergencyQuickStop)
      (deadline : t.stageDeadlineNs = now + config.disableStageTimeoutNs)
  /-- The quick stop hands over to the emergency descent. -/
  | handOver
      (stopping : s.phase = .emergencyQuickStop)
      (phase : t.phase = .emergencyDisable)
      (stage : t.downwardStage = 0)
      (deadline : t.stageDeadlineNs = now + config.disableStageTimeoutNs)

/-- Every phase but those of a descent is outside. -/
theorem Phase.isDescent_of_isDownward {phase : Phase} (downward : phase.isDownward = true) :
    phase.isDescent = true := by
  cases phase <;> simp_all [isDownward, isDescent, isNormalDescent, isEmergency]

theorem Phase.not_isDescent_of_isResting {phase : Phase} (resting : phase.isResting = true) :
    phase.isDescent = false := by
  cases phase <;> simp_all [isResting, isDescent, isNormalDescent, isEmergency]

theorem Phase.not_isDescent_of_isEnabling {phase : Phase} (enabling : phase.isEnabling = true) :
    phase.isDescent = false := by
  cases phase <;> simp_all [isEnabling, isDescent, isNormalDescent, isEmergency]

theorem Phase.not_isDescent_of_isHeld {phase : Phase} (held : phase.isHeld = true) :
    phase.isDescent = false := by
  cases phase <;> simp_all [isHeld, isDescent, isNormalDescent, isEmergency]

theorem Phase.not_isDescent_of_isReset {phase : Phase} (resetting : phase.isReset = true) :
    phase.isDescent = false := by
  cases phase <;> simp_all [isReset, isDescent, isNormalDescent, isEmergency]

namespace Controller

variable {config : Config} {now : Int} {s : Controller}

theorem finishDownward_isResting (downward : s.phase.isDownward = true) :
    s.finishDownward.phase.isResting = true := by
  rcases s.finishDownward_phase downward with idle | failed
  · simp [idle, Phase.isResting]
  · simp [failed, Phase.isResting]

/-- A finished descent rests. -/
theorem descentFlow_finish (t : Controller) (same : t.phase = s.phase)
    (downward : s.phase.isDownward = true) : DescentFlow config now s t.finishDownward := by
  have rests := t.finishDownward_isResting (by rw [same]; exact downward)
  exact .outside (Phase.not_isDescent_of_isResting rests) fun _ => rests

/-- A quick stop in this cycle holds or hands over. -/
theorem updateEmergencyQuickStop_flow (config : Config) (now : Int) (t : Controller) :
    (t.updateEmergencyQuickStop config now).phase = t.phase ∧
        (t.updateEmergencyQuickStop config now).stageDeadlineNs = t.stageDeadlineNs ∧
        now < t.stageDeadlineNs ∨
      (t.updateEmergencyQuickStop config now).phase = .emergencyDisable ∧
        (t.updateEmergencyQuickStop config now).downwardStage = 0 ∧
        (t.updateEmergencyQuickStop config now).stageDeadlineNs =
          now + config.disableStageTimeoutNs := by
  simp only [updateEmergencyQuickStop]
  split_ifs with stopped
  · exact Or.inr ⟨rfl, rfl, rfl⟩
  · left
    rw [Bool.or_eq_true, not_or, decide_eq_true_eq, Int.not_le] at stopped
    exact ⟨rfl, rfl, stopped.2⟩

/-- A cycle that starts and ends outside the descents. -/
theorem descentFlow_aside {t : Controller} (before : s.phase.isDescent = false)
    (after : t.phase.isDescent = false) : DescentFlow config now s t := by
  apply DescentFlow.outside after
  intro descending
  rw [before] at descending
  contradiction

/-- A cycle outside the descents that keeps its phase. -/
theorem descentFlow_stay {t : Controller} (before : s.phase.isDescent = false)
    (same : t.phase = s.phase) : DescentFlow config now s t :=
  descentFlow_aside before (by rw [same]; exact before)

theorem descentFlow_of_outcome {t : Controller} (outcome : Outcome config now s t) :
    DescentFlow config now s t := by
  cases outcome with
  | monitored axis stage tripped =>
      have before : s.phase.isDescent = false := by
        rcases phase_of_monitored tripped with phase | phase | phase <;> rw [phase] <;> rfl
      rcases updateEmergencyQuickStop_flow config now
        (s.startEmergency config now stage axis.val (s.statusWords axis)) with
        ⟨phase, deadline, -⟩ | ⟨-, stage, deadline⟩
      · exact .enter before (Or.inr phase) deadline
      · exact .enter before (Or.inl stage) deadline
  | inactive stopped => exact descentFlow_stay (by rw [stopped]; rfl) rfl
  | descentDone downward => exact descentFlow_finish _ rfl downward
  | descentAdvance downward advances early => exact .advance downward rfl rfl early rfl
  | descentExpire normal expired => exact .stop normal rfl rfl
  | emergencyExpire descending expired =>
      exact descentFlow_finish _ (recordStageTimeout_phase _ _) (by rw [descending]; rfl)
  | descentHold downward unfinished waits early =>
      refine .hold rfl (fun _ => rfl) ?_ ?_
      · by_cases unset : s.stageDeadlineNs = 0
        · exact Or.inr ⟨unset, by simp [descentScanned, descentDeadline, unset]⟩
        · exact Or.inl (by simp [descentScanned, descentDeadline, unset])
      · by_cases unset : s.stageDeadlineNs = 0
        · exact Or.inl unset
        · exact Or.inr (by simpa [descentDeadline, unset] using early)
  | quickStop stopping =>
      rcases updateEmergencyQuickStop_flow config now s with
        ⟨phase, deadline, early⟩ | ⟨phase, stage, deadline⟩
      · refine .hold phase ?_ (Or.inl deadline) (Or.inr early)
        intro downward
        rw [stopping] at downward
        cases downward
      · exact .handOver stopping phase stage deadline
  | acceptEnable idle => exact descentFlow_aside (by rw [idle]; rfl) rfl
  | idleAlreadyClear idle | idleAlreadyDisabled idle | idleHold idle =>
      exact descentFlow_stay (by rw [idle]; rfl) rfl
  | idleStartReset idle => exact descentFlow_aside (by rw [idle]; rfl) rfl
  | enableFault axis enabling =>
      exact .enter (Phase.not_isDescent_of_isEnabling enabling) (Or.inr rfl) rfl
  | delayPreempted delaying => exact .enter (by rw [delaying]; rfl) (Or.inl rfl) rfl
  | nextBatch delaying => exact descentFlow_aside (by rw [delaying]; rfl) rfl
  | delayHold delaying => exact descentFlow_stay (by rw [delaying]; rfl) rfl
  | batchInvalid enabling | batchInvalidPreempted enabling | batchPreempted enabling
  | batchExpire enabling | batchExpirePreempted enabling =>
      exact .enter (by rw [enabling]; rfl) (Or.inl rfl) rfl
  | hardwareReady enabling | batchComplete enabling =>
      exact descentFlow_aside (by rw [enabling]; rfl) rfl
  | batchHold enabling => exact descentFlow_stay (by rw [enabling]; rfl) rfl
  | activateFailed activating => exact .enter (by rw [activating]; rfl) (Or.inl rfl) rfl
  | activatingHold activating => exact descentFlow_stay (by rw [activating]; rfl) rfl
  | heldDescend held => exact .enter (Phase.not_isDescent_of_isHeld held) (Or.inl rfl) rfl
  | heldHold held => exact descentFlow_stay (Phase.not_isDescent_of_isHeld held) rfl
  | resetPreempted resetting =>
      exact .enter (Phase.not_isDescent_of_isReset resetting) (Or.inl rfl) rfl
  | raiseReset resetting | resetDone resetting | resetExpire resetting =>
      exact descentFlow_aside (by rw [resetting]; rfl) rfl
  | resetHold resetting => exact descentFlow_stay (by rw [resetting]; rfl) rfl
  | failedDescend failed => exact .enter (by rw [failed]; rfl) (Or.inl rfl) rfl
  | failedAlreadyClear failed | failedStartReset failed =>
      exact descentFlow_aside (by rw [failed]; rfl) rfl
  | failedHold failed => exact descentFlow_stay (by rw [failed]; rfl) rfl

end Controller

/-! ## The law of a descent -/

/-- Stage and deadline of a descent.  Only the startup sanitizer waits for its
first cycle with no deadline set. -/
structure DescentLaw (s : Controller) : Prop where
  inactive : s.active = false → s.phase = .inactive
  stage : s.phase.isDownward = true → s.downwardStage ≤ 2
  deadline : s.phase.isDescent = true →
    0 < s.stageDeadlineNs ∨
      s.phase = .startupSanitizing ∧ s.stageDeadlineNs = 0 ∧ s.downwardStage = 0

/-- In a lawful descent the restart of an unset deadline changes nothing. -/
theorem DescentLaw.descentStage_eq {s : Controller} (law : DescentLaw s)
    (downward : s.phase.isDownward = true) : s.descentStage = s.downwardStage := by
  rcases law.deadline (Phase.isDescent_of_isDownward downward) with
    set | ⟨-, unset, first⟩
  · simp [Controller.descentStage, set.ne']
  · simp [Controller.descentStage, unset, first]

/-- The rank of a lawful descent is between one and seven. -/
theorem DescentLaw.rank_bounds {s : Controller} (law : DescentLaw s)
    (descending : s.phase.isDescent = true) : 1 ≤ descentRank s ∧ descentRank s ≤ 7 := by
  have bounded := law.stage
  unfold descentRank
  cases phase : s.phase <;>
    simp_all [Phase.isDescent, Phase.isDownward, Phase.isNormalDescent, Phase.isEmergency] <;>
    omega

section Moves

variable {config : Config} {now : Int} {s t : Controller}

/-- A cycle keeps the law. -/
theorem descentLaw_of_flow (law : DescentLaw s) (kept : t.active = s.active)
    (active : s.active = true) (timeout : 1 ≤ config.disableStageTimeoutNs) (time : 0 ≤ now)
    (flow : DescentFlow config now s t) : DescentLaw t := by
  have running : t.active = false → t.phase = .inactive := by
    intro stopped
    rw [kept, active] at stopped
    contradiction
  cases flow with
  | outside after rests =>
      refine ⟨running, ?_, ?_⟩
      · intro downward
        rw [Phase.isDescent_of_isDownward downward] at after
        contradiction
      · intro descending
        rw [descending] at after
        contradiction
  | enter before stage deadline =>
      refine ⟨running, ?_, fun _ => Or.inl (by omega)⟩
      intro downward
      rcases stage with first | stopping
      · omega
      · rw [stopping] at downward
        contradiction
  | hold phase stage deadline early =>
      refine ⟨running, ?_, ?_⟩
      · intro downward
        rw [phase] at downward
        rw [stage downward, law.descentStage_eq downward]
        exact law.stage downward
      · intro descending
        rw [phase] at descending
        rcases deadline with same | ⟨unset, set⟩
        · rcases law.deadline descending with set | ⟨sanitizing, unset, first⟩
          · exact Or.inl (same ▸ set)
          · have downward : s.phase.isDownward = true := by rw [sanitizing]; rfl
            refine Or.inr ⟨phase.trans sanitizing, same.trans unset, ?_⟩
            rw [stage downward, law.descentStage_eq downward, first]
        · exact Or.inl (by omega)
  | advance downward phase stage early deadline =>
      exact ⟨running, fun _ => by omega, fun _ => Or.inl (by omega)⟩
  | stop normal phase deadline =>
      exact ⟨running, by rw [phase]; nofun, fun _ => Or.inl (by omega)⟩
  | handOver stopping phase stage deadline =>
      exact ⟨running, fun _ => by omega, fun _ => Or.inl (by omega)⟩

/-- A cycle never raises the rank of a descent, and an expired stage lowers it. -/
theorem rank_of_flow (law : DescentLaw s) (descending : s.phase.isDescent = true)
    (flow : DescentFlow config now s t) :
    t.phase.isResting = true ∨
      t.phase.isDescent = true ∧ descentRank t ≤ descentRank s ∧
        (s.stageDeadlineNs ≠ 0 → s.stageDeadlineNs ≤ now → descentRank t < descentRank s) := by
  cases flow with
  | outside after rests => exact Or.inl (rests descending)
  | enter before =>
      rw [before] at descending
      contradiction
  | hold phase stage deadline early =>
      right
      have same : descentRank t = descentRank s := by
        by_cases downward : s.phase.isDownward = true
        · simp only [descentRank, phase, stage downward, law.descentStage_eq downward]
        · have stopping : s.phase = .emergencyQuickStop := by
            cases current : s.phase <;>
              simp_all [Phase.isDescent, Phase.isDownward, Phase.isNormalDescent,
                Phase.isEmergency]
          simp only [descentRank, phase, stopping]
      refine ⟨by rw [phase]; exact descending, same.le, ?_⟩
      intro set late
      omega
  | advance downward phase stage early deadline =>
      right
      rw [law.descentStage_eq downward] at stage early
      have lower : descentRank t < descentRank s := by
        unfold descentRank
        rw [phase, stage]
        cases current : s.phase <;>
          simp_all [Phase.isDownward, Phase.isNormalDescent] <;> omega
      exact ⟨by rw [phase]; exact descending, lower.le, fun _ _ => lower⟩
  | stop normal phase deadline =>
      right
      have bounded := law.stage (by simp [Phase.isDownward, normal])
      have lower : descentRank t < descentRank s := by
        unfold descentRank
        rw [phase]
        cases current : s.phase <;> simp_all [Phase.isNormalDescent] <;> omega
      exact ⟨by rw [phase]; rfl, lower.le, fun _ _ => lower⟩
  | handOver stopping phase stage deadline =>
      right
      have lower : descentRank t < descentRank s := by
        simp [descentRank, stopping, phase, stage]
      exact ⟨by rw [phase]; rfl, lower.le, fun _ _ => lower⟩

/-- A step that keeps lifecycle, phase, stage and deadline keeps the law. -/
theorem DescentLaw.congr (law : DescentLaw s) (active : t.active = s.active)
    (phase : t.phase = s.phase) (stage : t.downwardStage = s.downwardStage)
    (deadline : t.stageDeadlineNs = s.stageDeadlineNs) : DescentLaw t := by
  rcases law with ⟨inactive, bounded, set⟩
  exact ⟨by rw [active, phase]; exact inactive, by rw [phase, stage]; exact bounded,
    by rw [phase, stage, deadline]; exact set⟩

/-- A callback moves the phase only between phases outside the descents. -/
theorem DescentLaw.outside (law : DescentLaw s) (active : t.active = s.active)
    (before : s.phase ≠ .inactive) (after : t.phase.isDescent = false) : DescentLaw t := by
  refine ⟨?_, ?_, ?_⟩
  · intro stopped
    exact absurd (law.inactive (active ▸ stopped)) before
  · intro downward
    rw [Phase.isDescent_of_isDownward downward] at after
    contradiction
  · intro descending
    rw [descending] at after
    contradiction

end Moves

section Runs

variable {config : Config} {s t : System} {event : Event} {late : Bool}

theorem descentLaw_enable (law : DescentLaw s.toController) (block : EnableBlock s late t) :
    DescentLaw t.toController := by
  cases block with
  | complete _ _ activating => exact law.outside rfl (by rw [activating]; nofun) rfl
  | _ => exact law.congr rfl rfl rfl rfl

theorem descentLaw_disable (law : DescentLaw s.toController) (block : DisableBlock s late t) :
    DescentLaw t.toController := by
  cases block with
  | takeEnabled _ _ enabled => exact law.outside rfl (by rw [enabled]; nofun) rfl
  | _ => exact law.congr rfl rfl rfl rfl

theorem descentLaw_reset (law : DescentLaw s.toController) (block : ResetBlock s late t) :
    DescentLaw t.toController := by
  cases block <;> exact law.congr rfl rfl rfl rfl

theorem descentLaw_worker (law : DescentLaw s.toController) (block : WorkerBlock s event t) :
    DescentLaw t.toController := by
  cases block <;> exact law.congr rfl rfl rfl rfl

/-- Every block step at a nonnegative time keeps the law. -/
theorem descentLaw_of_step (timeout : 1 ≤ config.disableStageTimeoutNs)
    (law : DescentLaw s.toController) (allowed : nonnegativeTime s event = true)
    (step : blockStep config s event = some t) (move : BlockMove config s event t) :
    DescentLaw t.toController := by
  cases move with
  | skip | controllerManager => exact law.congr rfl rfl rfl rfl
  | update now readings t active cycle =>
      have refreshed : DescentLaw (s.toController.refreshStatusWords readings) :=
        law.congr rfl rfl rfl rfl
      exact descentLaw_of_flow refreshed (Controller.untouched_of_cycle cycle).active active
        timeout (of_decide_eq_true allowed)
        (Controller.descentFlow_of_outcome (outcome_of_step active step))
  | callEnable t block | enable late t running block => exact descentLaw_enable law block
  | callDisable t block | disable late t running block => exact descentLaw_disable law block
  | callReset t block | reset late t running block => exact descentLaw_reset law block
  | fireWorker t block | callWorker late t block | resumeWorker late t block
  | latchRestart t block => exact descentLaw_worker law block
  | activate inactive => exact ⟨nofun, fun _ => Nat.zero_le 2, fun _ => Or.inr ⟨rfl, rfl, rfl⟩⟩
  | deactivate active => exact ⟨fun _ => rfl, nofun, nofun⟩

/-- Between cycles no callback touches a descent. -/
theorem rank_of_other (descending : s.phase.isDescent = true)
    (session : event.isLifecycle = false)
    (other : ∀ now readings, event ≠ .update now readings)
    (move : BlockMove config s event t) :
    t.phase = s.phase ∧ descentRank t.toController = descentRank s.toController := by
  cases move with
  | skip | controllerManager => exact ⟨rfl, rfl⟩
  | update now readings => exact absurd rfl (other now readings)
  | callEnable t block | enable late t running block =>
      cases block with
      | complete _ _ activating =>
          rw [activating] at descending
          contradiction
      | _ => exact ⟨rfl, rfl⟩
  | callDisable t block | disable late t running block =>
      cases block with
      | takeEnabled _ _ enabled =>
          rw [enabled] at descending
          contradiction
      | _ => exact ⟨rfl, rfl⟩
  | callReset t block | reset late t running block => cases block <;> exact ⟨rfl, rfl⟩
  | fireWorker t block | callWorker late t block | resumeWorker late t block
  | latchRestart t block => cases block <;> exact ⟨rfl, rfl⟩
  | activate | deactivate => contradiction

/-- Within a session a block step never raises the rank of a descent, and an
expired deadline lowers it. -/
theorem rank_of_step (law : DescentLaw s.toController) (descending : s.phase.isDescent = true)
    (session : event.isLifecycle = false) (step : blockStep config s event = some t)
    (move : BlockMove config s event t) :
    t.phase.isResting = true ∨
      t.phase.isDescent = true ∧ descentRank t.toController ≤ descentRank s.toController ∧
        (expires s event = true →
          descentRank t.toController < descentRank s.toController) := by
  by_cases cycle : ∃ now readings, event = .update now readings
  · rcases cycle with ⟨now, readings, rfl⟩
    have active : s.active = true := by
      by_contra stopped
      rw [law.inactive (Bool.eq_false_of_not_eq_true stopped)] at descending
      contradiction
    cases step
    have refreshed : DescentLaw (s.toController.refreshStatusWords readings) :=
      law.congr rfl rfl rfl rfl
    rcases rank_of_flow refreshed descending (Controller.descentFlow_of_outcome
      (s.toController.update_outcome config now readings active)) with
      rests | ⟨stays, bounded, lower⟩
    · exact Or.inl rests
    · refine Or.inr ⟨stays, bounded, ?_⟩
      intro late
      simp only [expires, Bool.and_eq_true, decide_eq_true_eq] at late
      exact lower late.1 late.2
  · have other : ∀ now readings, event ≠ .update now readings := by
      intro now readings same
      exact cycle ⟨now, readings, same⟩
    obtain ⟨phase, rank⟩ := rank_of_other descending session other move
    refine Or.inr ⟨by rw [phase]; exact descending, rank.le, ?_⟩
    intro late
    unfold expires at late
    split at late
    · exact absurd rfl (other _ _)
    · contradiction

end Runs

/-! ## The result -/

/-- The descent has rested, or its rank and the expiries seen so far stay below
the rank it started with. -/
def Descends (bound : Nat) (s : System) (log : DescentLog) : Prop :=
  DescentLaw s.toController ∧ log.expiries ≤ bound ∧
    (log.rested = false →
      s.phase.isDescent = true ∧ descentRank s.toController + log.expiries ≤ bound)

/-- Every step of a session keeps the bound. -/
theorem descends_of_step {config : Config} {s t : System} {event : Event} {bound : Nat}
    {log : DescentLog} (timeout : 1 ≤ config.disableStageTimeoutNs)
    (descends : Descends bound s log) (allowed : nonnegativeSession s event = true)
    (step : blockStep config s event = some t) (move : BlockMove config s event t) :
    Descends bound t (recordExpiry s event t log) := by
  simp only [nonnegativeSession, inSession, Bool.and_eq_true, Bool.not_eq_true'] at allowed
  rcases descends with ⟨law, counted, running⟩
  refine ⟨descentLaw_of_step timeout law allowed.1 step move, ?_⟩
  by_cases rested : log.rested = true
  · simpa [recordExpiry, rested] using counted
  · have unrested := Bool.eq_false_of_not_eq_true rested
    obtain ⟨descending, bounded⟩ := running unrested
    have positive := (law.rank_bounds descending).1
    simp only [recordExpiry, unrested, Bool.false_eq_true, if_false]
    rcases rank_of_step law descending allowed.2 step move with rests | ⟨stays, kept, lower⟩
    · refine ⟨?_, by rw [rests]; nofun⟩
      split_ifs <;> omega
    · by_cases late : expires s event = true
      · have fell := lower late
        simp only [late, if_true]
        exact ⟨by omega, fun _ => ⟨stays, by omega⟩⟩
      · simp only [late, Bool.false_eq_true, if_false]
        exact ⟨counted, fun _ => ⟨stays, by omega⟩⟩

/-- From every descent, for any status words and any nonnegative time stamps, the
rank never rises until the group rests in idle or failed, a cycle that finds its
deadline passed lowers it, and at most seven such cycles precede the rest. -/
theorem descent_ends (config : Config) (timeout : 1 ≤ config.disableStageTimeoutNs) (s : System)
    (reachable : Reachable (blockStep config) nonnegativeTime configured s)
    (descending : s.phase.isDescent = true) :
    (1 ≤ descentRank s.toController ∧ descentRank s.toController ≤ 7) ∧
      ∀ t log,
        Reachable (observed (blockStep config) recordExpiry) (onState nonnegativeSession) (s, {})
            (t, log) →
          log.expiries ≤ descentRank s.toController ∧
            (log.rested = false →
              t.phase.isDescent = true ∧
                descentRank t.toController + log.expiries ≤ descentRank s.toController ∧
                ∀ u event, nonnegativeSession t event = true →
                  blockStep config t event = some u →
                    u.phase.isResting = true ∨
                      u.phase.isDescent = true ∧
                        descentRank u.toController ≤ descentRank t.toController ∧
                        (expires t event = true →
                          descentRank u.toController < descentRank t.toController)) := by
  have initial : DescentLaw configured.toController := ⟨fun _ => rfl, nofun, nofun⟩
  obtain ⟨parked, law⟩ := block_step_invariant (fun state => DescentLaw state.toController)
    parked_configured initial
    (fun _ _ law allowed step move => descentLaw_of_step timeout law allowed step move) reachable
  refine ⟨law.rank_bounds descending, ?_⟩
  intro t log later
  have start : Descends (descentRank s.toController) s {} :=
    ⟨law, Nat.zero_le _, fun _ => ⟨descending, le_refl _⟩⟩
  obtain ⟨parkedLater, lawLater, counted, running⟩ :
      Parked t ∧ Descends (descentRank s.toController) t log := by
    refine observed_step_invariant (Descends (descentRank s.toController)) parked start ?_ later
    intro source target history event _ descends allowed step move
    exact descends_of_step timeout descends allowed step move
  refine ⟨counted, ?_⟩
  intro unrested
  obtain ⟨stays, bounded⟩ := running unrested
  refine ⟨stays, bounded, ?_⟩
  intro u event allowed step
  have session : event.isLifecycle = false := by
    simpa [nonnegativeSession, inSession] using (Bool.and_eq_true_iff.mp allowed).2
  exact rank_of_step lawLater stays session step (blockMove_of_step parkedLater step)

/-- The startup sanitizer over axes that stay switched on: its first stage and its
second end, the expiry of the second leads to the quick stop. -/
theorem descent_ends_of_startup :
    ∃ s t log,
      Reachable (blockStep defaultConfig) nonnegativeTime configured s ∧
        Reachable (observed (blockStep defaultConfig) recordExpiry) (onState nonnegativeSession)
          (s, {}) (t, log) ∧
        log.rested = false ∧ log.expiries = 1 ∧
        descentRank t.toController + log.expiries ≤ descentRank s.toController := by
  have found : (run (observed (blockStep defaultConfig) recordExpiry) (onState nonnegativeSession)
      (activated, {}) (cycles 0x0023 [1, 10])).any
        (fun observation => !observation.2.rested && observation.2.expiries = 1) = true := by
    decide +kernel
  have reached : Reachable (blockStep defaultConfig) nonnegativeTime configured activated :=
    Reachable.single .activate rfl rfl
  obtain ⟨⟨t, log⟩, later, passed⟩ := exists_reachable_of_run found
  simp only [Bool.and_eq_true, Bool.not_eq_true', decide_eq_true_eq] at passed
  obtain ⟨-, ends⟩ := descent_ends defaultConfig (by decide) activated reached rfl
  obtain ⟨-, running⟩ := ends t log later
  exact ⟨activated, t, log, reached, later, passed.1, passed.2, (running passed.1).2.1⟩

end RtControl.EnableManager
