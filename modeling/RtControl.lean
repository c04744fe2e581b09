import RtControl.EnableManager.Update
import RtControl.EnableManager.Cycle
import RtControl.EnableManager.Callbacks
import RtControl.EnableManager.Interleaving
import RtControl.EnableManager.Blocks
import RtControl.EnableManager.Atomic
import RtControl.EnableManager.Orphan
import RtControl.EnableManager.Emergency
import RtControl.EnableManager.CleanIdle
import RtControl.EnableManager.Ownership
import RtControl.EnableManager.Answers
import RtControl.EnableManager.Ghost
import RtControl.EnableManager.Activation
import RtControl.EnableManager.Torque
import RtControl.EnableManager.Deactivation
import RtControl.EnableManager.JtcSync
import RtControl.EnableManager.Restart
import RtControl.EnableManager.Outcome
import RtControl.EnableManager.Descent
import RtControl.EnableManager.Batches
import RtControl.EnableManager.Results
import RtControl.EnableManager.Accesses
import RtControl.EnableManager.Diagnostics
import RtControl.EnableManager.Completion
import RtControl.EnableManager.FaultReaction
import RtControl.EnableManager.EnableCommands
import RtControl.EnableManager.CleanDisable
import RtControl.EnableManager.StartupTimeout
import RtControl.EnableManager.Terminal
import RtControl.EnableManager.ResetDiagnosis
import RtControl.EnableManager.DriveRecord
import RtControl.EnableManager.FirstFailure
import RtControl.Plc.Poll
import RtControl.Plc.OutputService
import RtControl.Plc.Publication
import RtControl.Trajectory.Admission
import RtControl.Ethercat.Gate
import RtControl.Bms.LastFrame
import RtControl.RtDiagnostics.Freshness
import RtControl.DiffLegacy.Soundness
import RtControl.DiffLegacy.Integers
import RtControl.EnableManager.Preemption
import RtControl.Ethercat.EcMaster
import RtControl.EnableManager.ResetEdge
import RtControl.DiffLegacy.Prepend
import RtControl.RtDiagnostics.BusHealth
import RtControl.Canopen.Activation
import RtControl.Shutdown.RtDisableOnce
import RtControl.DiffLegacy.Frozen
import RtControl.DiffLegacy.Migration
