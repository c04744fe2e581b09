import RtControl.EnableManager.Terminal
import RtControl.EnableManager.Words

/-!
# The startup that times out

A stage of the startup sanitizer that expires leaves the startup branch for the shared
quick stop and emergency descent.  The completion of the emergency descent does not know
where it came from: it rests in `kIdle` as soon as the group is terminal, and the test of
`primary_failure_stage_` in the completion of the sanitizer is never reached with a failure.
-/

namespace RtControl.EnableManager

open RtControl.Transition

/-! ## The property and its condition -/

/-- The cycle sees a stage of the startup sanitizer expire. -/
def startupExpires (config : Config) (now : Int) (s : Controller) (words : Words) : Bool :=
  s.active && s.phase = .startupSanitizing && s.descentExpires config now words

/-- A startup has timed out, and since then its descent has gone on or the group rests as it
left it, with no service call taken up. -/
def logStartup (config : Config) (s : System) (event : Event) (t : System) (expired : Bool) : Bool :=
  match event with
  | .update now readings =>
      startupExpires config now s.toController (refreshedWords readings) ||
        (expired && (s.phase.isEmergency || (s.phase = .failed && t.phase = .failed)))
  | .activate | .deactivate => false
  | _ => expired && t.phase = s.phase

/-- A startup that has timed out is still stopping the group or rests in `kFailed`, and a
call of `/rt/enable` is not admitted. -/
def Blocks (s : System) (expired : Bool) : Prop :=
  expired = true → (s.phase.isEmergency = true ∨ s.phase = .failed) ∧ admitsEnable s = false

/-- The cycle completes the emergency descent on a terminal group without a latched
restart. -/
def completesClean (s : Controller) (words : Words) : Bool :=
  s.active && s.phase = .emergencyDisable && 2 ≤ s.descentStage && allTerminal words &&
    !s.restartRequired

/-- No cycle completes the emergency descent of a timed-out startup cleanly. -/
def staysUnclean : Guard (System × Bool) Event := fun observation event =>
  match event with
  | .update _ readings =>
      !(observation.2 && completesClean observation.1.toController (refreshedWords readings))
  | _ => true

/-- Every startup that times out blocks the launch. -/
def BlockedLaunch (config : Config) (guard : Guard (System × Bool) Event) : Prop :=
  ∀ s expired, Reachable (observed (atomicStep config) (logStartup config)) guard
    (configured, false) (s, expired) → Blocks s expired

/-! ## The completion of an emergency descent -/

namespace Controller

variable {config : Config} {now : Int} {readings : Readings} {s : Controller}

/-- The resting phase of a completed emergency descent. -/
theorem finishDownward_phase_of_emergency (emergency : s.phase = .emergencyDisable) :
    s.finishDownward.phase =
      if anyFault s.statusWords || !(downwardScan s.statusWords).allNonfaultTerminal ||
        s.restartRequired then .failed else .idle := by
  simp only [finishDownward, emergency, finishEmergency, storeOwner, storePhase, publishEnable,
    publishDisable, finishScan_anyFault, finishScan_allTerminal]
  split_ifs <;> rfl

/-- The last expiry of an emergency descent rests in failed. -/
theorem finishDownward_phase_of_expired {scan : DownwardScan} (emergency : s.phase = .emergencyDisable)
    (unreached : (downwardScan s.statusWords).allNonfaultTerminal = false) :
    (s.recordStageTimeout scan).finishDownward.phase = .failed := by
  have descending : (s.recordStageTimeout scan).phase = .emergencyDisable := by
    rw [recordStageTimeout_phase]
    exact emergency
  have words : (s.recordStageTimeout scan).statusWords = s.statusWords := by
    rcases s.recordStageTimeout_eq scan with ⟨_, _, recorded⟩
    rw [recorded]
  rw [finishDownward_phase_of_emergency descending, words, unreached]
  simp

/-- A group is terminal if its scan is and no axis is faulted. -/
theorem allTerminal_eq (words : Words) :
    allTerminal words = ((downwardScan words).allNonfaultTerminal && !anyFault words) := by
  rw [Bool.eq_iff_iff, Bool.and_eq_true, Bool.not_eq_true']
  constructor
  · intro terminal
    refine ⟨?_, anyFault_of_allTerminal terminal⟩
    rw [downwardScan_allNonfaultTerminal, List.all_eq_true]
    intro axis _
    rw [(allTerminal_iff words).mp terminal axis, Bool.or_true]
  · rintro ⟨terminal, healthy⟩
    exact allTerminal_of_scan terminal healthy

/-- A cycle of the emergency descent goes on, or rests in idle exactly if it completes the
descent cleanly. -/
theorem update_of_emergencyDisable (active : s.active = true)
    (emergency : s.phase = .emergencyDisable) :
    ((s.update config now readings).phase = .emergencyDisable ∨
        (s.update config now readings).phase = .failed) ∧
        completesClean s (refreshedWords readings) = false ∨
      (s.update config now readings).phase = .idle ∧
        completesClean s (refreshedWords readings) = true := by
  have downward : s.phase.isDownward = true := by
    rw [emergency]
    rfl
  have clean : completesClean s (refreshedWords readings) =
      (decide (2 ≤ s.descentStage) && (downwardScan (refreshedWords readings)).allNonfaultTerminal &&
        !anyFault (refreshedWords readings) && !s.restartRequired) := by
    simp only [completesClean, active, emergency, allTerminal_eq]
    simp [Bool.and_assoc]
  rw [update_of_downward active downward, clean]
  rcases (s.refreshStatusWords readings).updateDescent_cases config now downward with
    ⟨last, terminal, done⟩ | ⟨expired, -, done⟩ | ⟨-, normal, -⟩ | ⟨-, unfinished, stays⟩
  · have reached : (downwardScan (refreshedWords readings)).allNonfaultTerminal = true := terminal
    have scanned : 2 ≤ s.descentStage := last
    have rests : ((s.refreshStatusWords readings).descentScanned config now).finishDownward.phase =
        if anyFault (refreshedWords readings) ||
          !(downwardScan (refreshedWords readings)).allNonfaultTerminal || s.restartRequired
        then .failed else .idle :=
      finishDownward_phase_of_emergency (s := (s.refreshStatusWords readings).descentScanned config
        now) emergency
    rw [done, rests, reached]
    cases anyFault (refreshedWords readings) <;> cases s.restartRequired <;> simp [scanned]
  · have unreached : (downwardScan (refreshedWords readings)).allNonfaultTerminal = false :=
      not_terminal_of_expires (s := s.refreshStatusWords readings) expired
    refine .inl ⟨.inr ?_, by simp [unreached]⟩
    rw [done]
    exact finishDownward_phase_of_expired (s := (s.refreshStatusWords readings).descentScanned
      config now) emergency unreached
  · rw [show (s.refreshStatusWords readings).phase = s.phase from rfl, emergency] at normal
    cases normal
  · refine .inl ⟨.inl (stays.trans emergency), ?_⟩
    have waits : ¬(2 ≤ s.descentStage ∧
      (downwardScan (refreshedWords readings)).allNonfaultTerminal = true) := unfinished
    by_cases last : 2 ≤ s.descentStage
    · have unreached : (downwardScan (refreshedWords readings)).allNonfaultTerminal = false := by
        rw [← Bool.not_eq_true]
        exact fun reached => waits ⟨last, reached⟩
      simp [unreached]
    · simp [last]

/-- A stage of the startup sanitizer expires into the quick stop. -/
theorem update_of_startupExpires
    (expires : startupExpires config now s (refreshedWords readings) = true) :
    (s.update config now readings).phase = .emergencyQuickStop := by
  simp only [startupExpires, Bool.and_eq_true, decide_eq_true_eq] at expires
  rcases expires with ⟨⟨active, startup⟩, expired⟩
  have downward : s.phase.isDownward = true := by
    rw [startup]
    rfl
  rw [update_of_downward active downward]
  rcases (s.refreshStatusWords readings).updateDescent_cases config now downward with
    ⟨last, terminal, -⟩ | ⟨-, emergency, -⟩ | ⟨-, -, stopping⟩ | ⟨holds, -, -⟩
  · have unreached := not_terminal_of_expires (s := s.refreshStatusWords readings) expired
    cases unreached.symm.trans terminal
  · cases startup.symm.trans emergency
  · exact stopping
  · cases holds.symm.trans expired

/-- A quick stop goes on or hands over to the emergency descent. -/
theorem update_of_emergencyQuickStop (active : s.active = true)
    (stopping : s.phase = .emergencyQuickStop) :
    (s.update config now readings).phase.isEmergency = true := by
  have calm : monitoredFailure s.phase (refreshedWords readings) = none := by
    rw [stopping]
    rfl
  have dispatched : (s.refreshStatusWords readings).dispatch config now =
      (s.refreshStatusWords readings).updateEmergencyQuickStop config now := by
    simp only [dispatch, refreshStatusWords, stopping]
  rw [s.update_of_unmonitored config now active calm, dispatched]
  rcases (s.refreshStatusWords readings).updateEmergencyQuickStop_eq config now stopping with
    ⟨_, _, _, _, emergency, same⟩
  rw [same]
  exact emergency

end Controller

/-! ## Runs -/

/-- A group in an emergency or in failed admits no enable. -/
theorem blocks_of_phase {s : System} {expired : Bool}
    (stopped : s.phase.isEmergency = true ∨ s.phase = .failed) : Blocks s expired := by
  intro _
  refine ⟨stopped, ?_⟩
  rcases stopped with emergency | failed
  · cases phase : s.phase <;> simp_all [admitsEnable, Phase.isEmergency]
  · simp [admitsEnable, failed]

section Steps

variable {config : Config} {s t : System} {event : Event} {expired : Bool}

/-- A cycle blocks the launch unless it completes the descent of a timed-out startup
cleanly. -/
theorem blocks_update_iff {now : Int} {readings : Readings} :
    Blocks { s with toController := s.toController.update config now readings }
        (logStartup config s (.update now readings)
          { s with toController := s.toController.update config now readings } expired) ↔
      (expired && completesClean s.toController (refreshedWords readings)) = false := by
  constructor
  · intro blocked
    by_contra clean
    rw [Bool.not_eq_false, Bool.and_eq_true] at clean
    rcases clean with ⟨timedOut, clean⟩
    have completes := clean
    simp only [completesClean, Bool.and_eq_true, decide_eq_true_eq] at completes
    rcases completes with ⟨⟨⟨⟨active, emergency⟩, -⟩, -⟩, -⟩
    have logged : logStartup config s (.update now readings)
        { s with toController := s.toController.update config now readings } expired = true := by
      simp [logStartup, timedOut, emergency, Phase.isEmergency]
    rcases Controller.update_of_emergencyDisable active emergency with ⟨-, unclean⟩ | ⟨idle, -⟩
    · cases unclean.symm.trans clean
    · rcases (blocked logged).1 with emergency | failed
      · rw [show ({ s with toController := s.toController.update config now readings } :
          System).phase = .idle from idle] at emergency
        cases emergency
      · cases idle.symm.trans failed
  · intro unclean
    have stopped (logged : logStartup config s (.update now readings)
        { s with toController := s.toController.update config now readings } expired = true) :
        (s.toController.update config now readings).phase.isEmergency = true ∨
          (s.toController.update config now readings).phase = .failed := by
      simp only [logStartup, Bool.or_eq_true, Bool.and_eq_true, decide_eq_true_eq] at logged
      rcases logged with expires | ⟨timedOut, emergency | ⟨-, after⟩⟩
      · rw [Controller.update_of_startupExpires expires]
        exact .inl rfl
      · by_cases active : s.active = true
        · by_cases stopping : s.phase = .emergencyQuickStop
          · exact .inl (Controller.update_of_emergencyQuickStop active stopping)
          · have descending : s.phase = .emergencyDisable := by
              cases phase : s.phase <;> simp_all [Phase.isEmergency]
            rw [timedOut, Bool.true_and] at unclean
            rcases Controller.update_of_emergencyDisable active descending with ⟨goes | failed, -⟩ | ⟨-, clean⟩
            · rw [goes]
              exact .inl rfl
            · exact .inr failed
            · cases unclean.symm.trans clean
        · rw [Bool.not_eq_true] at active
          rw [s.toController.update_inactive config now readings active]
          exact .inl emergency
      · exact .inr after
    intro logged
    exact blocks_of_phase (stopped logged) logged

/-- A step blocks the launch unless it completes the descent of a timed-out startup
cleanly. -/
theorem blocks_iff (blocks : Blocks s expired) (step : atomicStep config s event = some t) :
    Blocks t (logStartup config s event t expired) ↔ staysUnclean (s, expired) event = true := by
  have aside (logged : logStartup config s event t expired = (expired && t.phase = s.phase)) :
      Blocks t (logStartup config s event t expired) := by
    intro kept
    rw [logged, Bool.and_eq_true, decide_eq_true_eq] at kept
    rcases kept with ⟨timedOut, same⟩
    have stopped : t.phase.isEmergency = true ∨ t.phase = .failed := by
      rw [same]
      exact (blocks timedOut).1
    exact blocks_of_phase stopped timedOut
  cases event with
  | update now readings =>
      cases step
      rw [blocks_update_iff]
      simp only [staysUnclean, Bool.not_eq_true']
  | activate | deactivate => exact iff_of_true nofun rfl
  | _ => exact iff_of_true (aside rfl) rfl

end Steps

/-- Runs that never complete the descent of a timed-out startup cleanly block the launch, and
from any state that blocks it a step does so exactly if it is no such completion. -/
theorem blockedLaunch_of_staysUnclean (config : Config) :
    BlockedLaunch config staysUnclean ∧
      ∀ s expired t event,
        Reachable (observed (atomicStep config) (logStartup config)) (onState unguarded)
          (configured, false) (s, expired) →
        Blocks s expired → atomicStep config s event = some t →
          (Blocks t (logStartup config s event t expired) ↔
            staysUnclean (s, expired) event = true) := by
  constructor
  · intro s expired reachable
    have unstarted : Blocks configured false := nofun
    refine reachable.invariant (fun current => Blocks current.1 current.2) unstarted ?_
    rintro ⟨source, before⟩ ⟨target, after⟩ event blocks allowed step
    rcases observed_eq_some_iff.mp step with ⟨moves, recorded⟩
    have kept := (blocks_iff blocks moves).mpr allowed
    rw [← recorded] at kept
    exact kept
  · intro s expired t event _ blocks step
    exact blocks_iff blocks step

/-- The startup sanitizer finds every axis in Switched On and expires. -/
def expiredStartup : List Event :=
  [Event.activate] ++ cycles 0x0023 [1, 10]

/-- A startup that times out on axes that stay in Switched On blocks the launch. -/
theorem blockedLaunch_of_switchedOn :
    ∃ s, Reachable (observed (atomicStep defaultConfig) (logStartup defaultConfig)) staysUnclean
        (configured, false) (s, true) ∧
      s.active = true ∧ (s.phase.isEmergency = true ∨ s.phase = .failed) ∧
      admitsEnable s = false := by
  have found : (run (observed (atomicStep defaultConfig) (logStartup defaultConfig)) staysUnclean
      (configured, false) (expiredStartup ++ cycles 0x0023 [11, 12, 20])).any
      (fun observation => observation.2 && observation.1.active &&
        observation.1.phase = .failed) = true := by
    decide +kernel
  rcases exists_reachable_of_run found with ⟨⟨s, expired⟩, reachable, tested⟩
  simp only [Bool.and_eq_true, decide_eq_true_eq] at tested
  rcases tested with ⟨⟨timedOut, active⟩, -⟩
  subst timedOut
  exact ⟨s, reachable, active,
    (blockedLaunch_of_staysUnclean defaultConfig).1 s true reachable rfl⟩

/-- A startup that has timed out ends in idle once the axes are switched off, and the next
enable is admitted. -/
theorem not_blockedLaunch_of_lateSwitchOff :
    ¬BlockedLaunch defaultConfig (onState unguarded) := by
  intro always
  have found : (run (observed (atomicStep defaultConfig) (logStartup defaultConfig))
      (onState unguarded) (configured, false)
      (expiredStartup ++ cycles 0x0040 [11, 12, 13, 14])).any
      (fun observation => observation.2 && admitsEnable observation.1) = true := by
    decide +kernel
  rcases exists_reachable_of_run found with ⟨⟨s, expired⟩, reachable, tested⟩
  simp only [Bool.and_eq_true] at tested
  have refused := (always s expired reachable tested.1).2
  cases refused.symm.trans tested.2

end RtControl.EnableManager
