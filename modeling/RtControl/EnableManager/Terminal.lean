import RtControl.EnableManager.Outcome
import RtControl.EnableManager.Scan

/-!
# The terminal tests of a descent

`updateDownward` accumulates one terminal test through its switch over the drive state and
keeps the first axis that fails another one, and `finishDownward` scans the group again.
The three tests agree on every vector of status words.
-/

namespace RtControl.EnableManager

/-! ## One test in three loops -/

/-- The axis is neither faulted nor at its confirmed terminal. -/
def isStuck (words : Words) (axis : Axis) : Bool :=
  !isConfirmedDisableTerminal axis (decodeState (words axis)) &&
    !isFaultState (decodeState (words axis))

/-- The lowest axis that is neither faulted nor at its confirmed terminal. -/
structure LowestStuck (words : Words) (axis : Axis) : Prop where
  stuck : isStuck words axis = true
  lowest : ∀ lower < axis, isStuck words lower = false

theorem isStuck_eq_false_iff (words : Words) (axis : Axis) :
    isStuck words axis = false ↔ (isFaultState (decodeState (words axis)) ||
      isConfirmedDisableTerminal axis (decodeState (words axis))) = true := by
  unfold isStuck
  cases isFaultState (decodeState (words axis)) <;> simp

theorem downwardScan_firstNonterminal_eq (words : Words) :
    (downwardScan words).firstNonterminal = axisIndex (axes.find? (isStuck words)) :=
  downwardScan_firstNonterminal words

/-- The accumulated test holds exactly when no axis has failed the other one. -/
theorem allNonfaultTerminal_iff (words : Words) :
    (downwardScan words).allNonfaultTerminal = true ↔
      (downwardScan words).firstNonterminal < 0 := by
  rw [downwardScan_firstNonterminal_eq, axisIndex_neg_iff, List.find?_eq_none,
    downwardScan_allNonfaultTerminal, List.all_eq_true]
  refine forall₂_congr fun axis _ => ?_
  rw [Bool.not_eq_true, isStuck_eq_false_iff]

/-- An axis that has failed the test is kept, the lowest one first. -/
theorem exists_lowestStuck {words : Words}
    (pending : (downwardScan words).allNonfaultTerminal = false) :
    ∃ axis, (downwardScan words).firstNonterminal = axis.val ∧ LowestStuck words axis := by
  have named : ¬(downwardScan words).firstNonterminal < 0 := by
    rw [← allNonfaultTerminal_iff, pending]
    exact Bool.false_ne_true
  rw [downwardScan_firstNonterminal_eq] at named ⊢
  cases found : axes.find? (isStuck words) with
  | none =>
      rw [found] at named
      exact absurd (by decide) named
  | some axis =>
      rcases find?_axes_eq_some found with ⟨stuck, lowest⟩
      exact ⟨axis, rfl, stuck, lowest⟩

/-! ## Powered axes -/

/-- A terminal scan has seen no powered axis. -/
def DownwardScan.Unpowered (scan : DownwardScan) : Prop :=
  scan.allNonfaultTerminal = true →
    scan.anyOperationEnabled = false ∧ scan.anySwitchedOn = false

theorem DownwardScan.unpowered_visit {scan : DownwardScan} (words : Words)
    (unpowered : scan.Unpowered) (axis : Axis) : (scan.visit words axis).Unpowered := by
  simp only [visit]
  split_ifs <;> cases decodeState (words axis) <;> simp_all [visitState, Unpowered]

theorem DownwardScan.unpowered_foldl {scan : DownwardScan} (words : Words) (group : List Axis)
    (unpowered : scan.Unpowered) : (group.foldl (DownwardScan.visit words) scan).Unpowered := by
  induction group generalizing scan with
  | nil => exact unpowered
  | cons axis group ih => exact ih (unpowered_visit words unpowered axis)

namespace Controller

variable (config : Config) (now : Int) (s : Controller)

/-- A descent on a terminal group leaves its first two stages. -/
theorem advancesStage_of_terminal {words : Words} {stage : Nat}
    (terminal : (downwardScan words).allNonfaultTerminal = true) (early : stage < 2) :
    advancesStage (downwardScan words) stage = true := by
  have unpowered : (downwardScan words).Unpowered :=
    DownwardScan.unpowered_foldl words axes fun _ => ⟨rfl, rfl⟩
  rcases unpowered terminal with ⟨enabled, switchedOn⟩
  rcases (by omega : stage = 0 ∨ stage = 1) with rfl | rfl
  · simp [advancesStage, enabled]
  · simp [advancesStage, enabled, switchedOn]

/-- A descent that expires has not reached the terminal. -/
theorem not_terminal_of_expires {config : Config} {now : Int} {s : Controller}
    (expired : s.descentExpires config now s.statusWords = true) :
    (downwardScan s.statusWords).allNonfaultTerminal = false := by
  by_contra reached
  rw [Bool.not_eq_false] at reached
  simp only [descentExpires, reached, Bool.and_true, Bool.and_eq_true, Bool.not_eq_true',
    decide_eq_false_iff_not, decide_eq_true_eq] at expired
  rcases expired with ⟨⟨early, waits⟩, -⟩
  have advances := advancesStage_of_terminal reached (Nat.not_le.mp early)
  cases advances.symm.trans waits

/-! ## How a cycle ends -/

/-- A descent cycle after its axis loop. -/
def wordsWritten : Controller :=
  { s with controlWords := fun axis => downwardCommand (decodeState (s.statusWords axis)) }

/-- How one cycle of `updateDownward` ends, with what its tests have found. -/
inductive DownwardCycle : Controller → Prop
  /-- The last stage finishes the descent. -/
  | finished
      (last : 2 ≤ s.downwardStage)
      (terminal : (finishScan s.statusWords).allTerminal = true) :
      DownwardCycle s.wordsWritten.finishDownward
  /-- One of the first two stages is left. -/
  | advanced
      (early : s.downwardStage < 2) :
      DownwardCycle { s.wordsWritten with
        downwardStage := s.downwardStage + 1
        stageDeadlineNs := now + config.disableStageTimeoutNs }
  /-- The deadline branch is reached. -/
  | expired (axis : Axis)
      (late : s.stageDeadlineNs ≤ now)
      (named : (downwardScan s.statusWords).firstNonterminal = axis.val)
      (lowest : LowestStuck s.statusWords axis) :
      DownwardCycle (s.wordsWritten.expireStage config now (downwardScan s.statusWords))
  /-- The stage goes on. -/
  | held
      (early : now < s.stageDeadlineNs) :
      DownwardCycle s.wordsWritten

theorem updateDownward_cycle : DownwardCycle config now s (s.updateDownward config now) := by
  simp only [updateDownward]
  split_ifs with finishes advances beyond late
  · refine .finished finishes.1 ?_
    rw [finishScan_allTerminal]
    exact finishes.2
  · exfalso
    simp only [advancesStage] at advances
    split_ifs at advances <;> omega
  · refine .advanced ?_
    by_contra last
    simp only [advancesStage] at advances
    split_ifs at advances <;> omega
  · -- A terminal group leaves the first two stages and finishes the last one.
    have pending : (downwardScan s.statusWords).allNonfaultTerminal = false := by
      by_contra terminal
      rw [Bool.not_eq_false] at terminal
      by_cases early : s.downwardStage < 2
      · exact advances (advancesStage_of_terminal terminal early)
      · exact finishes ⟨Nat.not_lt.mp early, terminal⟩
    rcases exists_lowestStuck pending with ⟨axis, named, lowest⟩
    exact .expired axis late named lowest
  · exact .held (Int.not_le.mp late)

end Controller

/-- The two terminal tests of `updateDownward` and the one of `finishDownward` agree, for
every phase, stage and vector of status words: a descent that finishes is terminal, and the
deadline branch names the lowest axis that is neither faulted nor terminal. -/
theorem terminal_tests_agree (config : Config) (now : Int) (s : Controller) :
    ((downwardScan s.statusWords).allNonfaultTerminal = true ↔
      (downwardScan s.statusWords).firstNonterminal < 0) ∧
    ((downwardScan s.statusWords).firstNonterminal < 0 ↔
      (finishScan s.statusWords).allTerminal = true) ∧
    s.DownwardCycle config now (s.updateDownward config now) := by
  refine ⟨allNonfaultTerminal_iff s.statusWords, ?_, s.updateDownward_cycle config now⟩
  rw [finishScan_allTerminal, allNonfaultTerminal_iff]

end RtControl.EnableManager
