import Mathlib.Data.List.FinRange

/-!
# CiA402 drive words of the fourteen-axis group

The enable manager reads one status word and writes one control word for every
axis.  This module decodes status words and fixes the group's axis names, its
disable terminals and its enable batches.  Loops over the group run in axis
order, so every scan is a fold over `axes`.
-/

namespace RtControl.EnableManager

/-- `kAxisCount`. -/
abbrev axisCount : Nat := 14

/-- `kBatchCount`. -/
abbrev batchCount : Nat := 5

/-- An index into the command and state interfaces. -/
abbrev Axis := Fin axisCount

theorem axisCount_ne_zero : axisCount ≠ 0 := by
  decide

/-- Every axis literal uses this instance. -/
instance : @NeZero Nat Zero.ofOfNat0 axisCount := ⟨axisCount_ne_zero⟩

/-- One 16-bit word for every axis. -/
abbrev Words := Axis → UInt16

/-- The group in loop order. -/
def axes : List Axis :=
  List.finRange axisCount

@[simp]
theorem mem_axes (axis : Axis) : axis ∈ axes :=
  List.mem_finRange axis

/-- `kJointNames`. -/
def jointNames : List String :=
  ["right_joint1", "right_joint2", "right_joint3", "right_joint4", "right_joint5",
    "right_joint6", "left_joint1", "left_joint2", "left_joint3", "left_joint4",
    "left_joint5", "left_joint6", "turn", "updown"]

/-- `kEnableBatches`; the last batch is padded with `-1`. -/
def enableBatches : List (List Int) :=
  [[0, 1, 2], [6, 7, 8], [3, 4, 5], [9, 10, 11], [12, 13, -1]]

/-- `kBatchSizes`. -/
def batchSizes : List Nat :=
  [3, 3, 3, 3, 2]

/-- `kEnableBatches[batch][item]`. -/
def batchItem (batch item : Nat) : Int :=
  (enableBatches.getD batch []).getD item (-1)

/-- `kBatchSizes[batch]`. -/
def batchSize (batch : Nat) : Nat :=
  batchSizes.getD batch 0

/-- A drive's CiA402 power state. -/
inductive DriveState where
  | notReady
  | switchOnDisabled
  | readyToSwitchOn
  | switchedOn
  | operationEnabled
  | quickStopActive
  | faultReactionActive
  | fault
  | unknown
  deriving DecidableEq, Repr

/-- Decode a raw status word.  The masks are tested in the source's order. -/
def decodeState (statusWord : UInt16) : DriveState :=
  if statusWord &&& 0x004F = 0x0000 then .notReady
  else if statusWord &&& 0x004F = 0x0040 then .switchOnDisabled
  else if statusWord &&& 0x006F = 0x0021 then .readyToSwitchOn
  else if statusWord &&& 0x006F = 0x0023 then .switchedOn
  else if statusWord &&& 0x006F = 0x0027 then .operationEnabled
  else if statusWord &&& 0x006F = 0x0007 then .quickStopActive
  else if statusWord &&& 0x004F = 0x000F then .faultReactionActive
  else if statusWord &&& 0x004F = 0x0008 then .fault
  else .unknown

/-- Fault and Fault Reaction Active are the two fault states. -/
def isFaultState (state : DriveState) : Bool :=
  state = .fault || state = .faultReactionActive

/-- Switch On Disabled ends a descent on every axis.  The four Ti5 axes stay in
Ready To Switch On under a zero control word and are accepted there. -/
def isConfirmedDisableTerminal (axis : Axis) (state : DriveState) : Bool :=
  if state = .switchOnDisabled then true
  else
    let isTi5Axis := axis = 1 || axis = 2 || axis = 7 || axis = 8
    isTi5Axis && state = .readyToSwitchOn

theorem isFaultState_iff (state : DriveState) :
    isFaultState state = true ↔ state = .fault ∨ state = .faultReactionActive := by
  simp [isFaultState]

/-- No confirmed terminal is a fault state. -/
theorem isFaultState_of_isConfirmedDisableTerminal {axis : Axis} {state : DriveState}
    (terminal : isConfirmedDisableTerminal axis state = true) :
    isFaultState state = false := by
  cases state <;> simp_all [isConfirmedDisableTerminal, isFaultState]

/-- Some axis of the group reports a fault state. -/
def anyFault (words : Words) : Bool :=
  axes.any fun axis => isFaultState (decodeState (words axis))

/-- Every axis of the group reports its confirmed disable terminal. -/
def allTerminal (words : Words) : Bool :=
  axes.all fun axis => isConfirmedDisableTerminal axis (decodeState (words axis))

theorem anyFault_eq_false_iff (words : Words) :
    anyFault words = false ↔ ∀ axis, isFaultState (decodeState (words axis)) = false := by
  simp [anyFault]

theorem allTerminal_iff (words : Words) :
    allTerminal words = true ↔
      ∀ axis, isConfirmedDisableTerminal axis (decodeState (words axis)) = true := by
  simp [allTerminal]

/-- A group in its disable terminal has no faulted axis. -/
theorem anyFault_of_allTerminal {words : Words} (terminal : allTerminal words = true) :
    anyFault words = false := by
  rw [anyFault_eq_false_iff]
  intro axis
  exact isFaultState_of_isConfirmedDisableTerminal ((allTerminal_iff words).mp terminal axis)

end RtControl.EnableManager
