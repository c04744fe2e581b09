import RtControl.Codec.Strto
import RtControl.Ethercat.Exchange
import RtControl.Transition.Deadline

/-!
# The activation of the driver

`EthercatDriver::on_activate` checks its parameters, brings up the master, waits until the bus is
ready and then until every module is initialized.  Both waits run the cycle of the master against
the monotonic clock, the second with a deadline of its own.
-/

namespace RtControl.Ethercat

open RtControl.Codec
open RtControl.Transition

universe u v

/-! ## The callback -/

/-- `EC_AL_STATE_OP` -/
def ecAlStateOp : UInt8 := 0x08

/-- The errors that `on_activate` logs. -/
inductive ActivationError where
  | doubleOnActivate
  | invalidControlFrequency
  | missingPreloadTimeout
  | invalidPreloadTimeout
  | missingStartupBusTimeout
  | invalidStartupBusTimeout
  /-- The upstream part of the callback fails. -/
  | upstream
  | busTimeout
  | preloadTimeout
  deriving DecidableEq, Repr

/-- The logged text; the upstream part has its own. -/
def ActivationError.text : ActivationError → Option String
  | .doubleOnActivate => some "Double on_activate()"
  | .invalidControlFrequency => some "Invalid control frequency!"
  | .missingPreloadTimeout => some "Missing required preload_timeout_ms"
  | .invalidPreloadTimeout => some "Invalid preload_timeout_ms"
  | .missingStartupBusTimeout => some "Missing required startup_bus_timeout_ms"
  | .invalidStartupBusTimeout => some "Invalid startup_bus_timeout_ms"
  | .upstream => none
  | .busTimeout =>
      some "Timed out waiting for all configured slaves OP and a complete working counter"
  | .preloadTimeout => some "Timed out waiting for exact raw-position preload acknowledgement"

/-- How a call of `on_activate` fails: it returns `ERROR`, or a conversion throws. -/
inductive ActivationFailure where
  | error (reason : ActivationError)
  | thrown (exception : ConversionError)
  deriving DecidableEq, Repr

/-- How a call of `on_activate` ends. -/
inductive Activation where
  | success
  | failed (failure : ActivationFailure)
  deriving DecidableEq, Repr

/-- The parameters of the hardware component; the control frequency is already an `int`. -/
structure HardwareParameters where
  controlFrequency : Int
  preloadTimeoutMs : Option String
  startupBusTimeoutMs : Option String

/-- The driver with the data of its cyclic exchange. -/
structure CyclicDriver (μ : Type u) extends EthercatDriver where
  cyclic : Cyclic μ

/-- A cycle of a start-up loop: the received frame and the reading of the clock after it. -/
structure StartupCycle (ι : Type v) where
  received : Received ι
  now : Timespec

/-- What the loops of `on_activate` meet.  A cycle reads the clock after its shot, and
`preloadStart` is the reading between the loops, by the number of cycles made. -/
structure Startup (ι : Type v) where
  /-- `getInterval` in nanoseconds. -/
  interval : Nat
  start : Timespec
  cycle : Nat → StartupCycle ι
  preloadStart : Nat → Timespec
  positive : 0 < interval
  slept : ∀ cycles,
    start.nanoseconds + (cycles + 1) * interval ≤ (cycle cycles).now.nanoseconds

/-- The variables of the loops: the master, the cycles made, the last reading of the clock and
the next shot. -/
structure StartupLoop (μ : Type u) where
  master : Cyclic μ
  cycles : Nat
  now : Timespec
  t : Timespec

section Definitions

variable {μ : Type u} {ι : Type v}

/-- `bus_ready` -/
def Cyclic.busReady (s : Cyclic μ) (now : Timespec) : Bool :=
  (List.range s.configuredSlaveCount).foldl
    (fun ready index => ready && s.slaveAlState index = ecAlStateOp)
    (s.processDataAgeMs now).isSome

/-- `isAllInit` -/
def Cyclic.allInitialized (plugin : EcSlave μ ι) (s : Cyclic μ) : Bool :=
  s.slaves.foldl (fun ready entry => ready && plugin.initialized entry.slave) true

/-- A cycle of the loops. -/
def StartupLoop.next (plugin : EcSlave μ ι) (startup : Startup ι) (s : StartupLoop μ) :
    StartupLoop μ where
  master := s.master.update plugin (startup.cycle s.cycles).received
  cycles := s.cycles + 1
  now := (startup.cycle s.cycles).now
  t := s.t.advance startup.interval

/-- The wait for the bus. -/
def busLoop (plugin : EcSlave μ ι) (startup : Startup ι) (deadline : Timespec) :
    DeadlineLoop (StartupLoop μ) where
  cycle := StartupLoop.next plugin startup
  met s := s.master.busReady s.now
  late s := s.now.deadlineReached deadline

/-- The wait for the modules. -/
def preloadLoop (plugin : EcSlave μ ι) (startup : Startup ι) (deadline : Timespec) :
    DeadlineLoop (StartupLoop μ) where
  cycle := StartupLoop.next plugin startup
  met s := s.master.allInitialized plugin
  late s := s.now.deadlineReached deadline

/-- The variables before the first loop. -/
def Startup.initial (startup : Startup ι) (master : Cyclic μ) : StartupLoop μ where
  master := master
  cycles := 0
  now := startup.start
  t := startup.start.advance startup.interval

/-- A required timeout parameter. -/
def readTimeout (missing invalid : ActivationError) : Option String → Except ActivationFailure Nat
  | none => .error (.error missing)
  | some text =>
      match stoi text with
      | .error exception => .error (.thrown exception)
      | .ok timeout => if timeout ≤ 0 then .error (.error invalid) else .ok timeout.toNat

/-- The checks of `on_activate`: the timeouts of the preload and of the bus. -/
def CyclicDriver.checkParameters (d : CyclicDriver μ) (parameters : HardwareParameters) :
    Except ActivationFailure (Nat × Nat) :=
  if d.activated then
    .error (.error .doubleOnActivate)
  else if parameters.controlFrequency ≤ 0 then
    .error (.error .invalidControlFrequency)
  else
    (readTimeout .missingPreloadTimeout .invalidPreloadTimeout parameters.preloadTimeoutMs).bind
      fun preloadTimeoutMs =>
        (readTimeout .missingStartupBusTimeout .invalidStartupBusTimeout
          parameters.startupBusTimeoutMs).map fun busTimeoutMs => (preloadTimeoutMs, busTimeoutMs)

/-- The second loop of `on_activate`, after the first one has ended in the given variables. -/
def waitForPreload (plugin : EcSlave μ ι) (startup : Startup ι) (preloadTimeoutMs : Nat)
    (s : StartupLoop μ) : Option (Bool × StartupLoop μ) :=
  let deadline := (startup.preloadStart s.cycles).addMilliseconds preloadTimeoutMs
  (preloadLoop plugin startup deadline).wait (deadline.nanoseconds + 1) s

/-- The loops of `on_activate`: how they end and the master they leave. -/
def waitForStartup (plugin : EcSlave μ ι) (startup : Startup ι)
    (preloadTimeoutMs busTimeoutMs : Nat) (master : Cyclic μ) :
    Option (Activation × Cyclic μ) :=
  let deadline := startup.start.addMilliseconds busTimeoutMs
  ((busLoop plugin startup deadline).wait (deadline.nanoseconds + 1)
      (startup.initial master)).bind fun bus =>
    if bus.1 then
      (waitForPreload plugin startup preloadTimeoutMs bus.2).map fun preload =>
        (if preload.1 then .success else .failed (.error .preloadTimeout), preload.2.master)
    else
      some (.failed (.error .busTimeout), bus.2.master)

/-- `EthercatDriver::on_activate`.  The part between the checks and the loops belongs to the
upstream driver: it changes the master and may fail. -/
def CyclicDriver.onActivate (plugin : EcSlave μ ι)
    (upstream : EcMaster × Cyclic μ → (EcMaster × Cyclic μ) × Bool) (d : CyclicDriver μ)
    (parameters : HardwareParameters) (startup : Startup ι) :
    Option (CyclicDriver μ × Activation) :=
  match d.checkParameters parameters with
  | .error failure => some (d, .failed failure)
  | .ok (preloadTimeoutMs, busTimeoutMs) =>
      let ((master, cyclic), prepared) := upstream (d.master, d.cyclic)
      if prepared then
        (waitForStartup plugin startup preloadTimeoutMs busTimeoutMs cyclic).map fun started =>
          ({ activated := d.activated || started.1 = .success, master, cyclic := started.2 },
            started.1)
      else
        some ({ d with master, cyclic }, .failed (.error .upstream))

/-- The master after a number of cycles. -/
def Startup.masterAfter (plugin : EcSlave μ ι) (startup : Startup ι) (master : Cyclic μ) :
    Nat → Cyclic μ
  | 0 => master
  | cycles + 1 =>
      (startup.masterAfter plugin master cycles).update plugin (startup.cycle cycles).received

/-- The bus is ready: a complete sample has been received and every configured slave is OP. -/
structure Cyclic.BusReady (s : Cyclic μ) : Prop where
  sampled : s.hasCompleteSample = true
  operational : ∀ entry ∈ s.slaves, entry.configState.alState = ecAlStateOp

/-- Every module is initialized. -/
def Cyclic.Initialized (plugin : EcSlave μ ι) (s : Cyclic μ) : Prop :=
  ∀ entry ∈ s.slaves, plugin.initialized entry.slave = true

/-- The bus becomes ready in the given cycle, and no earlier one has missed the deadline. -/
structure Startup.BusReadyIn (plugin : EcSlave μ ι) (startup : Startup ι) (master : Cyclic μ)
    (busTimeoutMs bus : Nat) : Prop where
  ready : (startup.masterAfter plugin master (bus + 1)).BusReady
  waited : ∀ earlier < bus,
    ¬(startup.masterAfter plugin master (earlier + 1)).BusReady ∧
      (startup.cycle earlier).now.nanoseconds <
        startup.start.nanoseconds + busTimeoutMs * 1000000

/-- After the bus cycle, all modules are first found initialized in the preload cycle, and no cycle
in between has missed the second deadline. -/
structure Startup.InitializedIn (plugin : EcSlave μ ι) (startup : Startup ι) (master : Cyclic μ)
    (preloadTimeoutMs bus preload : Nat) : Prop where
  after : bus < preload
  ready : (startup.masterAfter plugin master (preload + 1)).Initialized plugin
  waited : ∀ between, bus < between → between < preload →
    ¬(startup.masterAfter plugin master (between + 1)).Initialized plugin ∧
      (startup.cycle between).now.nanoseconds <
        (startup.preloadStart (bus + 1)).nanoseconds + preloadTimeoutMs * 1000000

end Definitions

/-! ## The loops -/

section Loops

variable {μ : Type u} {ι : Type v} {plugin : EcSlave μ ι} {startup : Startup ι}
variable {master : Cyclic μ} {s : StartupLoop μ}

@[simp]
theorem length_masterAfter (cycles : Nat) :
    (startup.masterAfter plugin master cycles).slaves.length = master.slaves.length := by
  induction cycles with
  | zero => rfl
  | succ cycles ih => rw [Startup.masterAfter, length_update, ih]

theorem busReady_iff (s : Cyclic μ) (now : Timespec) :
    s.busReady now = true ↔ s.BusReady := by
  have scanned (indices : List Nat) (ready : Bool) :
      indices.foldl (fun ready index => ready && s.slaveAlState index = ecAlStateOp) ready = true ↔
        ready = true ∧ ∀ index ∈ indices, s.slaveAlState index = ecAlStateOp := by
    induction indices generalizing ready with
    | nil => simp
    | cons index indices ih =>
        rw [List.foldl_cons, ih]
        simp [and_assoc]
  rw [Cyclic.busReady, scanned]
  constructor
  · rintro ⟨sampled, operational⟩
    constructor
    · rw [Cyclic.processDataAgeMs] at sampled
      split at sampled
      · assumption
      · contradiction
    · intro entry member
      obtain ⟨index, within, rfl⟩ := List.getElem_of_mem member
      have found := operational index (List.mem_range.mpr within)
      rwa [Cyclic.slaveAlState, List.getElem?_eq_getElem within] at found
  · intro ready
    constructor
    · rw [Cyclic.processDataAgeMs, if_pos ready.sampled]
      rfl
    · intro index member
      have within : index < s.slaves.length := List.mem_range.mp member
      rw [Cyclic.slaveAlState, List.getElem?_eq_getElem within]
      exact ready.operational _ (List.getElem_mem within)

theorem allInitialized_iff (s : Cyclic μ) :
    s.allInitialized plugin = true ↔ s.Initialized plugin := by
  have scanned (entries : List (SlaveEntry μ)) (ready : Bool) :
      entries.foldl (fun ready entry => ready && plugin.initialized entry.slave) ready = true ↔
        ready = true ∧ ∀ entry ∈ entries, plugin.initialized entry.slave = true := by
    induction entries generalizing ready with
    | nil => simp
    | cons entry entries ih =>
        rw [List.foldl_cons, ih]
        simp [and_assoc]
  rw [Cyclic.allInitialized, scanned]
  exact and_iff_right rfl

section Iterates

variable (plugin startup master)

@[simp]
theorem iterate_next_cycles (cycles : Nat) :
    ((StartupLoop.next plugin startup)^[cycles] (startup.initial master)).cycles = cycles := by
  induction cycles with
  | zero => rfl
  | succ cycles ih => rw [Function.iterate_succ_apply', StartupLoop.next, ih]

@[simp]
theorem iterate_next_master (cycles : Nat) :
    ((StartupLoop.next plugin startup)^[cycles] (startup.initial master)).master =
      startup.masterAfter plugin master cycles := by
  induction cycles with
  | zero => rfl
  | succ cycles ih =>
      rw [Function.iterate_succ_apply', StartupLoop.next, ih, iterate_next_cycles,
        Startup.masterAfter]

@[simp]
theorem iterate_next_now (cycles : Nat) :
    ((StartupLoop.next plugin startup)^[cycles + 1] (startup.initial master)).now =
      (startup.cycle cycles).now := by
  rw [Function.iterate_succ_apply', StartupLoop.next, iterate_next_cycles]

end Iterates

/-- A cycle that ends before the deadline leaves less time to it. -/
theorem remaining_lt (startup : Startup ι) (deadline : Timespec) (s : StartupLoop μ)
    (early : (StartupLoop.next plugin startup s).now.deadlineReached deadline = false) :
    deadline.nanoseconds - (startup.start.nanoseconds +
        (StartupLoop.next plugin startup s).cycles * startup.interval) <
      deadline.nanoseconds - (startup.start.nanoseconds + s.cycles * startup.interval) := by
  have before : (startup.cycle s.cycles).now.nanoseconds < deadline.nanoseconds := by
    by_contra reached
    have late := (Timespec.deadlineReached_iff _ deadline).mpr (Nat.le_of_not_lt reached)
    exact Bool.false_ne_true (early.symm.trans late)
  have slept := startup.slept s.cycles
  have positive := startup.positive
  have grid : (s.cycles + 1) * startup.interval = s.cycles * startup.interval + startup.interval :=
    Nat.succ_mul _ _
  rw [StartupLoop.next, grid]
  omega

theorem busLoop_isSome (plugin : EcSlave μ ι) (deadline : Timespec) (s : StartupLoop μ) :
    ((busLoop plugin startup deadline).wait (deadline.nanoseconds + 1) s).isSome = true :=
  DeadlineLoop.wait_isSome (fun _ => True)
    (fun s => deadline.nanoseconds - (startup.start.nanoseconds + s.cycles * startup.interval))
    (fun _ _ => trivial) (fun s _ early => remaining_lt startup deadline s early) trivial
    (Nat.lt_succ_of_le (Nat.sub_le _ _))

theorem preloadLoop_isSome (plugin : EcSlave μ ι) (deadline : Timespec) (s : StartupLoop μ) :
    ((preloadLoop plugin startup deadline).wait (deadline.nanoseconds + 1) s).isSome = true :=
  DeadlineLoop.wait_isSome (fun _ => True)
    (fun s => deadline.nanoseconds - (startup.start.nanoseconds + s.cycles * startup.interval))
    (fun _ _ => trivial) (fun s _ early => remaining_lt startup deadline s early) trivial
    (Nat.lt_succ_of_le (Nat.sub_le _ _))

theorem early_iff (now start : Timespec) (milliseconds : Nat) :
    now.deadlineReached (start.addMilliseconds milliseconds) = false ↔
      now.nanoseconds < start.nanoseconds + milliseconds * 1000000 := by
  rw [← Timespec.nanoseconds_addMilliseconds, ← not_iff_not, Bool.not_eq_false,
    Timespec.deadlineReached_iff, Nat.not_lt]

/-- The first loop finds the bus ready in the first cycle that does, unless it is late before. -/
theorem busLoop_ready_iff {busTimeoutMs : Nat} :
    (busLoop plugin startup (startup.start.addMilliseconds busTimeoutMs)).wait
        ((startup.start.addMilliseconds busTimeoutMs).nanoseconds + 1)
        (startup.initial master) = some (true, s) ↔
      ∃ bus, startup.BusReadyIn plugin master busTimeoutMs bus ∧
        s = (StartupLoop.next plugin startup)^[bus + 1] (startup.initial master) := by
  rw [DeadlineLoop.wait_met_iff
    (fun bus => (startup.masterAfter plugin master (bus + 1)).BusReady)
    (fun bus => (startup.cycle bus).now.nanoseconds <
      startup.start.nanoseconds + busTimeoutMs * 1000000) (busLoop_isSome _ _ _)]
  · constructor
    · rintro ⟨bus, ready, waited, ended⟩
      exact ⟨bus, ⟨ready, waited⟩, ended⟩
    · rintro ⟨bus, ⟨ready, waited⟩, ended⟩
      exact ⟨bus, ready, waited, ended⟩
  · intro bus
    rw [← iterate_next_master]
    exact busReady_iff _ _
  · intro bus
    rw [← early_iff, ← iterate_next_now plugin startup master]
    rfl

/-- The second loop, after a bus cycle, finds the modules initialized in the first cycle that does,
unless it is late before. -/
theorem waitForPreload_initialized_iff {preloadTimeoutMs bus : Nat} :
    waitForPreload plugin startup preloadTimeoutMs
        ((StartupLoop.next plugin startup)^[bus + 1] (startup.initial master)) = some (true, s) ↔
      ∃ preload, startup.InitializedIn plugin master preloadTimeoutMs bus preload ∧
        s = (StartupLoop.next plugin startup)^[preload + 1] (startup.initial master) := by
  have shifted (cycle : Nat) :
      (StartupLoop.next plugin startup)^[cycle + 1]
          ((StartupLoop.next plugin startup)^[bus + 1] (startup.initial master)) =
        (StartupLoop.next plugin startup)^[bus + 1 + cycle + 1] (startup.initial master) := by
    rw [← Function.iterate_add_apply]
    have sum : cycle + 1 + (bus + 1) = bus + 1 + cycle + 1 := by omega
    rw [sum]
  rw [waitForPreload, iterate_next_cycles, DeadlineLoop.wait_met_iff
    (fun cycle => (startup.masterAfter plugin master (bus + 1 + cycle + 1)).Initialized plugin)
    (fun cycle => (startup.cycle (bus + 1 + cycle)).now.nanoseconds <
      (startup.preloadStart (bus + 1)).nanoseconds + preloadTimeoutMs * 1000000)
    (preloadLoop_isSome _ _ _)]
  · constructor
    · rintro ⟨cycle, ready, waited, ended⟩
      refine ⟨bus + 1 + cycle, ⟨by omega, ready, ?_⟩, ended.trans (shifted cycle)⟩
      intro between after before
      obtain ⟨offset, rfl⟩ := Nat.exists_eq_add_of_le after
      exact waited offset (by omega)
    · rintro ⟨preload, ⟨after, ready, waited⟩, ended⟩
      obtain ⟨cycle, rfl⟩ := Nat.exists_eq_add_of_le after
      refine ⟨cycle, ready, ?_, ended.trans (shifted cycle).symm⟩
      intro earlier before
      exact waited (bus + 1 + earlier) (by omega) (by omega)
  · intro cycle
    show Cyclic.allInitialized plugin
      ((StartupLoop.next plugin startup)^[cycle + 1] _).master = true ↔ _
    rw [shifted, iterate_next_master]
    exact allInitialized_iff _
  · intro cycle
    rw [← early_iff, ← iterate_next_now plugin startup master, ← shifted]
    rfl

/-- The loops always end. -/
theorem waitForStartup_isSome (preloadTimeoutMs busTimeoutMs : Nat) (master : Cyclic μ) :
    (waitForStartup plugin startup preloadTimeoutMs busTimeoutMs master).isSome = true := by
  obtain ⟨⟨ready, s⟩, returned⟩ := Option.isSome_iff_exists.mp
    (busLoop_isSome plugin (startup.start.addMilliseconds busTimeoutMs) (startup.initial master))
  rw [waitForStartup, returned, Option.bind_some]
  cases ready with
  | true =>
      rw [if_pos (show (true, s).1 = true from rfl), Option.isSome_map]
      exact preloadLoop_isSome _ _ _
  | false => rfl

/-- The loops succeed exactly if the bus becomes ready and then the modules are initialized, each
before its deadline. -/
theorem waitForStartup_success_iff {preloadTimeoutMs busTimeoutMs : Nat} {ended : Cyclic μ} :
    waitForStartup plugin startup preloadTimeoutMs busTimeoutMs master = some (.success, ended) ↔
      ∃ bus preload, startup.BusReadyIn plugin master busTimeoutMs bus ∧
        startup.InitializedIn plugin master preloadTimeoutMs bus preload ∧
        ended = startup.masterAfter plugin master (preload + 1) := by
  rw [waitForStartup, Option.bind_eq_some_iff]
  constructor
  · rintro ⟨⟨busReady, s⟩, returned, rest⟩
    cases busReady with
    | false => cases rest
    | true =>
        obtain ⟨bus, ready, rfl⟩ := busLoop_ready_iff.mp returned
        obtain ⟨⟨initialized, s⟩, preloaded, same⟩ := Option.map_eq_some_iff.mp rest
        cases initialized with
        | false => cases same
        | true =>
            obtain ⟨preload, found, rfl⟩ := waitForPreload_initialized_iff.mp preloaded
            cases same
            exact ⟨bus, preload, ready, found, iterate_next_master _ _ _ _⟩
  · rintro ⟨bus, preload, ready, found, rfl⟩
    refine ⟨_, busLoop_ready_iff.mpr ⟨bus, ready, rfl⟩, ?_⟩
    show Option.map _ (waitForPreload _ _ _ _) = _
    rw [waitForPreload_initialized_iff.mpr ⟨preload, found, rfl⟩, Option.map_some,
      iterate_next_master]
    rfl

end Loops

/-! ## The call -/

section Call

variable {μ : Type u} {ι : Type v} {plugin : EcSlave μ ι} {startup : Startup ι}
variable {upstream : EcMaster × Cyclic μ → (EcMaster × Cyclic μ) × Bool}
variable {d e : CyclicDriver μ} {parameters : HardwareParameters}

/-- The parameter holds a positive number. -/
def ReadsTimeout (parameter : Option String) (timeoutMs : Nat) : Prop :=
  0 < timeoutMs ∧ ∃ text, parameter = some text ∧ stoi text = .ok timeoutMs

theorem readTimeout_eq_ok_iff (missing invalid : ActivationError) {parameter : Option String}
    {timeoutMs : Nat} :
    readTimeout missing invalid parameter = .ok timeoutMs ↔ ReadsTimeout parameter timeoutMs := by
  rw [ReadsTimeout]
  cases parameter with
  | none => simp [readTimeout]
  | some text =>
      rw [readTimeout]
      cases read : stoi text with
      | error exception => simp [read]
      | ok value =>
          simp only [Option.some.injEq, exists_eq_left', read, Except.ok.injEq]
          split_ifs with refused
          · refine iff_of_false (fun same => by cases same) ?_
            rintro ⟨positive, rfl⟩
            omega
          · rw [Except.ok.injEq]
            omega

/-- The checks pass exactly for an inactive driver with a positive frequency and two positive
timeouts. -/
theorem checkParameters_eq_ok_iff {preloadTimeoutMs busTimeoutMs : Nat} :
    d.checkParameters parameters = .ok (preloadTimeoutMs, busTimeoutMs) ↔
      d.activated = false ∧ 0 < parameters.controlFrequency ∧
        ReadsTimeout parameters.preloadTimeoutMs preloadTimeoutMs ∧
        ReadsTimeout parameters.startupBusTimeoutMs busTimeoutMs := by
  rw [CyclicDriver.checkParameters]
  split_ifs with active frequency
  · simp [active]
  · refine iff_of_false (fun same => by cases same) (fun admitted => ?_)
    exact absurd admitted.2.1 (Int.not_lt.mpr frequency)
  · have inactive : d.activated = false := Bool.eq_false_iff.mpr active
    have positive : 0 < parameters.controlFrequency := Int.lt_of_not_ge frequency
    rw [← readTimeout_eq_ok_iff .missingPreloadTimeout .invalidPreloadTimeout,
      ← readTimeout_eq_ok_iff .missingStartupBusTimeout .invalidStartupBusTimeout]
    cases readTimeout .missingPreloadTimeout .invalidPreloadTimeout
        parameters.preloadTimeoutMs with
    | error refused => simp [Except.bind]
    | ok preload =>
        cases readTimeout .missingStartupBusTimeout .invalidStartupBusTimeout
            parameters.startupBusTimeoutMs with
        | error refused => simp [Except.bind, Except.map]
        | ok bus => simp [Except.bind, Except.map, inactive, positive]

theorem onActivate_isSome (plugin : EcSlave μ ι)
    (upstream : EcMaster × Cyclic μ → (EcMaster × Cyclic μ) × Bool) (d : CyclicDriver μ)
    (parameters : HardwareParameters) (startup : Startup ι) :
    (d.onActivate plugin upstream parameters startup).isSome = true := by
  rw [CyclicDriver.onActivate]
  split
  · rfl
  · dsimp only
    split_ifs
    · rw [Option.isSome_map]
      exact waitForStartup_isSome _ _ _
    · rfl

/-- A call sets `activated_` exactly if it succeeds. -/
theorem activated_of_onActivate {result : Activation}
    (returned : d.onActivate plugin upstream parameters startup = some (e, result)) :
    e.activated = (d.activated || result = .success) := by
  rw [CyclicDriver.onActivate] at returned
  split at returned
  next failure checked =>
    cases returned
    simp
  next preloadTimeoutMs busTimeoutMs checked =>
    dsimp only at returned
    split_ifs at returned with prepared
    · obtain ⟨started, -, same⟩ := Option.map_eq_some_iff.mp returned
      cases same
      rfl
    · cases returned
      simp

theorem onActivate_success_iff :
    d.onActivate plugin upstream parameters startup = some (e, .success) ↔
      ∃ preloadTimeoutMs busTimeoutMs master cyclic,
        d.checkParameters parameters = .ok (preloadTimeoutMs, busTimeoutMs) ∧
          upstream (d.master, d.cyclic) = ((master, cyclic), true) ∧
          ∃ bus preload, startup.BusReadyIn plugin cyclic busTimeoutMs bus ∧
            startup.InitializedIn plugin cyclic preloadTimeoutMs bus preload ∧
            e = { activated := true
                  master := master
                  cyclic := startup.masterAfter plugin cyclic (preload + 1) } := by
  rw [CyclicDriver.onActivate]
  cases checked : d.checkParameters parameters with
  | error failure => simp
  | ok timeouts =>
      obtain ⟨preloadTimeoutMs, busTimeoutMs⟩ := timeouts
      obtain ⟨⟨⟨master, cyclic⟩, prepared⟩, brought⟩ :
          ∃ result, upstream (d.master, d.cyclic) = result := ⟨_, rfl⟩
      simp only [brought]
      constructor
      · intro returned
        split_ifs at returned with succeeded
        · obtain ⟨⟨result, ended⟩, waited, same⟩ := Option.map_eq_some_iff.mp returned
          cases same
          obtain ⟨bus, preload, ready, initialized, rfl⟩ := waitForStartup_success_iff.mp waited
          refine ⟨preloadTimeoutMs, busTimeoutMs, master, cyclic, rfl, ?_, bus, preload, ready,
            initialized, ?_⟩
          · rw [succeeded]
          · simp
        · cases returned
      · rintro ⟨_, _, _, _, ⟨⟩, ⟨⟩, bus, preload, ready, initialized, rfl⟩
        rw [if_pos rfl, waitForStartup_success_iff.mpr ⟨bus, preload, ready, initialized, rfl⟩]
        simp

/-- **Start-up.**  Every call of `on_activate` returns.  It succeeds exactly if the driver is
inactive, the frequency and the timeouts are positive, the upstream part succeeds, a cycle finds
the bus ready before the first deadline and a later one finds all modules initialized before the
second, which starts when the bus is ready.  A cycle that meets its condition is in time however
late it ends. -/
theorem startup_decided (plugin : EcSlave μ ι)
    (upstream : EcMaster × Cyclic μ → (EcMaster × Cyclic μ) × Bool) (d : CyclicDriver μ)
    (parameters : HardwareParameters) (startup : Startup ι) :
    ∃ e result, d.onActivate plugin upstream parameters startup = some (e, result) ∧
      e.activated = (d.activated || result = .success) ∧
      (result = .success ↔
        d.activated = false ∧ 0 < parameters.controlFrequency ∧
          ∃ preloadTimeoutMs busTimeoutMs,
            ReadsTimeout parameters.preloadTimeoutMs preloadTimeoutMs ∧
            ReadsTimeout parameters.startupBusTimeoutMs busTimeoutMs ∧
            (upstream (d.master, d.cyclic)).2 = true ∧
            ∃ bus preload,
              startup.BusReadyIn plugin (upstream (d.master, d.cyclic)).1.2 busTimeoutMs bus ∧
              startup.InitializedIn plugin (upstream (d.master, d.cyclic)).1.2 preloadTimeoutMs
                bus preload) := by
  obtain ⟨⟨e, result⟩, returned⟩ := Option.isSome_iff_exists.mp
    (onActivate_isSome plugin upstream d parameters startup)
  refine ⟨e, result, returned, activated_of_onActivate returned, ?_⟩
  constructor
  · rintro rfl
    obtain ⟨preloadTimeoutMs, busTimeoutMs, master, cyclic, checked, brought, bus, preload, ready,
      initialized, -⟩ := onActivate_success_iff.mp returned
    obtain ⟨inactive, positive, preloads, buses⟩ := checkParameters_eq_ok_iff.mp checked
    rw [brought]
    exact ⟨inactive, positive, preloadTimeoutMs, busTimeoutMs, preloads, buses, rfl, bus, preload,
      ready, initialized⟩
  · rintro ⟨inactive, positive, preloadTimeoutMs, busTimeoutMs, preloads, buses, prepared, bus,
      preload, ready, initialized⟩
    have succeeded := onActivate_success_iff.mpr ⟨preloadTimeoutMs, busTimeoutMs, _, _,
      checkParameters_eq_ok_iff.mpr ⟨inactive, positive, preloads, buses⟩,
      Prod.ext rfl prepared, bus, preload, ready, initialized, rfl⟩
    exact congrArg Prod.snd (Option.some.inj (returned.symm.trans succeeded))

end Call

end RtControl.Ethercat
