import RtControl.Ethercat.EcMaster
import RtControl.Transition.Program
import Mathlib.Data.List.Induction
import Mathlib.Algebra.Order.Group.Int

/-!
# The orderly shutdown

`rt_disable_once` disables the EtherCAT axes, stops their controllers and sets the hardware
inactive, each by one service call under a common deadline.  The service calls are made in this
order and within the deadline, and a clean exit is reported exactly when all three are confirmed.
-/

namespace RtControl.Shutdown

open RtControl.Transition

/-! ## Services -/

/-- A millisecond in nanoseconds. -/
def millisecond : Int := 1000000

def kTotalDeadline : Int := 30000 * millisecond

def kServiceProbe : Int := 100 * millisecond

/-- In seconds. -/
def kControllerSwitchTimeout : Int := 4

/-- `PRIMARY_STATE_INACTIVE` -/
def primaryStateInactive : UInt8 := 2

/-- The services, under their names. -/
inductive Service where
  /-- `/rt/disable` -/
  | rtDisable
  /-- `/controller_manager/switch_controller` -/
  | switchController
  /-- `/controller_manager/set_hardware_component_state` -/
  | setHardwareComponentState
  deriving DecidableEq, Repr

/-- `SwitchController::Request`, `STRICT` or `BEST_EFFORT`. -/
inductive Strictness where
  | bestEffort
  | strict
  deriving DecidableEq, Repr

/-- The requests. -/
inductive Request where
  | rtEnable
  | switchController (deactivateControllers : List String) (strictness : Strictness)
      (activateAsap : Bool) (timeoutSec : Int) (timeoutNanosec : Nat)
  | setHardwareComponentState (name : String) (targetId : UInt8) (targetLabel : String)
  deriving DecidableEq, Repr

/-- `RtEnable::Response` -/
structure RtEnableResponse where
  ok : Bool
  failedBatch : Int
  failedJoint : String
  statusWord : UInt16
  stage : String
  deriving DecidableEq, Repr

/-- `SetHardwareComponentState::Response` -/
structure HardwareResponse where
  ok : Bool
  stateId : UInt8
  stateLabel : String
  deriving DecidableEq, Repr

/-- The response of a service; that of `SwitchController` is its `ok`. -/
abbrev Service.Response : Service → Type
  | .rtDisable => RtEnableResponse
  | .switchController => Bool
  | .setHardwareComponentState => HardwareResponse

/-- Whether the response confirms what was asked for. -/
def Service.confirms : (service : Service) → service.Response → Bool
  | .rtDisable, response => response.ok
  | .switchController, ok => ok
  | .setHardwareComponentState, response =>
      response.ok && decide (response.stateId = primaryStateInactive)

/-- A response with its service. -/
abbrev Reply :=
  Sigma Service.Response

/-- The response confirms what its service was asked for. -/
def Reply.confirms (reply : Reply) : Bool :=
  reply.1.confirms reply.2

/-! ## Calls -/

/-- The calls of the program, with their answers. -/
inductive Call where
  /-- `rclcpp::ok` -/
  | ok (answer : Bool)
  /-- `SteadyClock::now`, in nanoseconds -/
  | now (reading : Int)
  /-- `wait_for_service` -/
  | waitForService (service : Service) (timeout : Int) (ready : Bool)
  /-- `async_send_request` -/
  | asyncSendRequest (request : Request)
  /-- `spin_until_future_complete` -/
  | spinUntilFutureComplete (service : Service) (timeout : Int) (response : Option service.Response)
  /-- A line on the standard error stream. -/
  | cerr (line : String)

/-- The answers by the calls so far.  A negative timeout of `wait_for_service` stands for no
timeout, and the wait may never end. -/
structure World where
  ok : List Call → Bool
  now : List Call → Int
  ready : List Call → Service → Int → Option Bool
  spin : List Call → (service : Service) → Int → Option service.Response

/-- The requests among the calls. -/
def requests (calls : List Call) : List Request :=
  calls.filterMap fun
    | .asyncSendRequest request => some request
    | _ => none

/-- The responses among the calls. -/
def responses (calls : List Call) : List Reply :=
  calls.filterMap fun
    | .spinUntilFutureComplete service _ (some response) => some ⟨service, response⟩
    | _ => none

/-- `client->async_send_request` -/
def asyncSendRequest (request : Request) : Program Call Unit :=
  .make (fun _ => some ()) fun _ => .asyncSendRequest request

/-- `std::cerr` -/
def cerr (line : String) : Program Call Unit :=
  .make (fun _ => some ()) fun _ => .cerr line

namespace World

variable (w : World)

/-- `rclcpp::ok()` -/
def rclcppOk : Program Call Bool :=
  .make (fun calls => some (w.ok calls)) .ok

/-- `SteadyClock::now()` -/
def steadyNow : Program Call Int :=
  .make (fun calls => some (w.now calls)) .now

/-- `client->wait_for_service` -/
def clientWait (service : Service) (timeout : Int) : Program Call Bool :=
  .make (fun calls => w.ready calls service timeout) (.waitForService service timeout)

/-- `spin_until_future_complete`, and `future.get()` when it returns `SUCCESS`. -/
def spinUntilFutureComplete (service : Service) (timeout : Int) :
    Program Call (Option service.Response) :=
  .make (fun calls => some (w.spin calls service timeout))
    (.spinUntilFutureComplete service timeout)

/-! ## The program -/

/-- One repetition of the loop of `waitForService`. -/
def serviceProbe (service : Service) (deadline : Int) : Program Call (Option Bool) := do
  let ok ← w.rclcppOk
  if ok then do
    let now ← w.steadyNow
    if now < deadline then do
      let reading ← w.steadyNow
      let remaining := deadline - reading
      let ready ← w.clientWait service (min kServiceProbe remaining)
      return if ready then some true else none
    else
      return some false
  else
    return some false

/-- `waitForService`; the fuel bounds the repetitions. -/
def waitForService (service : Service) (deadline : Int) (fuel : Nat) : Program Call Bool :=
  .repeatUntil (w.serviceProbe service deadline) fuel

/-- `waitForResponse`, with the response. -/
def waitForResponse (service : Service) (deadline : Int) :
    Program Call (Option service.Response) := do
  let now ← w.steadyNow
  let ok ← w.rclcppOk
  if ok then
    if now < deadline then
      w.spinUntilFutureComplete service (deadline - now)
    else
      return none
  else
    return none

/-- What the three service calls share: the service, its request, the lines for a service or a
response that does not come within the deadline, and the judgement of the response. -/
def callService (service : Service) (request : Request) (unavailable missing : String)
    (judge : service.Response → Program Call Bool) (deadline : Int) (fuel : Nat) :
    Program Call Bool := do
  let ready ← w.waitForService service deadline fuel
  if ready then do
    asyncSendRequest request
    let response ← w.waitForResponse service deadline
    match response with
    | some response => judge response
    | none => do
        cerr missing
        return false
  else do
    cerr unavailable
    return false

/-- The text of a value under `std::boolalpha`. -/
def boolalpha (value : Bool) : String :=
  if value then "true" else "false"

/-- `disableEthercatAxes` -/
def disableEthercatAxes : Int → Nat → Program Call Bool :=
  w.callService .rtDisable .rtEnable
    "UNCLEAN_SHUTDOWN: /rt/disable unavailable within shutdown deadline"
    "UNCLEAN_SHUTDOWN: /rt/disable did not return within shutdown deadline"
    fun response => do
      cerr ("rt_control shutdown disable result: ok=" ++ boolalpha response.ok ++
        " stage=" ++ response.stage ++ " failed_batch=" ++ toString response.failedBatch ++
        " failed_joint=" ++ response.failedJoint ++
        " status_word=" ++ toString response.statusWord.toNat)
      return response.ok

/-- The request of `quiesceEthercatControllers`. -/
def quiesceRequest : Request :=
  .switchController ["enable_manager", "joint_state_broadcaster"] .strict false
    kControllerSwitchTimeout 0

/-- `quiesceEthercatControllers` -/
def quiesceEthercatControllers : Int → Nat → Program Call Bool :=
  w.callService .switchController quiesceRequest
    ("UNCLEAN_SHUTDOWN: controller-manager switch service unavailable within shutdown deadline")
    "UNCLEAN_SHUTDOWN: EtherCAT controller quiesce did not return within shutdown deadline"
    fun ok =>
      if ok then do
        cerr "rt_control shutdown controllers quiesced: enable_manager,joint_state_broadcaster"
        return true
      else do
        cerr "UNCLEAN_SHUTDOWN: EtherCAT controller quiesce was rejected"
        return false

/-- The request of `deactivateEthercatHardware`. -/
def deactivateRequest : Request :=
  .setHardwareComponentState "ecat_arms" primaryStateInactive "inactive"

/-- `deactivateEthercatHardware` -/
def deactivateEthercatHardware : Int → Nat → Program Call Bool :=
  w.callService .setHardwareComponentState deactivateRequest
    "UNCLEAN_SHUTDOWN: hardware-state service unavailable within shutdown deadline"
    "UNCLEAN_SHUTDOWN: EtherCAT hardware deactivate did not return within shutdown deadline"
    fun response =>
      if response.ok && decide (response.stateId = primaryStateInactive) then do
        cerr "rt_control shutdown EtherCAT hardware state: inactive"
        return true
      else do
        cerr ("UNCLEAN_SHUTDOWN: ecat_arms did not reach inactive; ok=" ++
          boolalpha response.ok ++ " state_id=" ++ toString response.stateId.toNat ++
          " state_label=" ++ response.stateLabel)
        return false

/-- The exit status of the program. -/
inductive ExitStatus where
  | success
  | failure
  deriving DecidableEq, Repr

/-- `main` of `rt_disable_once`. -/
def main (fuel : Nat) : Program Call ExitStatus := do
  let start ← w.steadyNow
  let deadline := start + kTotalDeadline
  let disableClean ← w.disableEthercatAxes deadline fuel
  let controllersQuiesced ← w.quiesceEthercatControllers deadline fuel
  let ethercatInactive ←
    (if controllersQuiesced then w.deactivateEthercatHardware deadline fuel else pure false)
  return if disableClean && controllersQuiesced && ethercatInactive then .success else .failure

end World

/-! ## The law of the calls -/

/-- The service of a request. -/
def Request.service : Request → Service
  | .rtEnable => .rtDisable
  | .switchController .. => .switchController
  | .setHardwareComponentState .. => .setHardwareComponentState

/-- What a call needs of the calls before it.  A wait for a service and a wait for a response end by
the deadline.  A request is one of the three, in their order, to a service that has been found, and
the hardware is only set inactive after its controllers have been stopped. -/
def Permitted (deadline : Int) (before : List Call) : Call → Prop
  | .waitForService _ timeout _ =>
      timeout ≤ kServiceProbe ∧ ∃ earlier check reading,
        before = earlier ++ [.now check, .now reading] ∧ check < deadline ∧
          timeout ≤ deadline - reading
  | .asyncSendRequest request =>
      (requests before ++ [request]).Sublist
          [.rtEnable, World.quiesceRequest, World.deactivateRequest] ∧
        (request = World.deactivateRequest → ⟨.switchController, true⟩ ∈ responses before) ∧
        ∃ earlier timeout, before = earlier ++ [.waitForService request.service timeout true]
  | .spinUntilFutureComplete service timeout _ =>
      0 < timeout ∧ ∃ earlier request reading,
        before = earlier ++ [.asyncSendRequest request, .now reading, .ok true] ∧
          request.service = service ∧ timeout = deadline - reading
  | .ok _ | .now _ | .cerr _ => True

/-- The calls so far are lawful, with their requests and responses. -/
structure Sofar (w : World) (deadline : Int) (sent : List Request) (received : List Reply)
    (calls : List Call) : Prop where
  lawful : Lawful (Permitted deadline) calls
  sends : requests calls = sent
  receives : responses calls = received
  given : ∀ reply ∈ received, ∃ earlier timeout, w.spin earlier reply.1 timeout = some reply.2

/-- The last call has found the service. -/
def Found (service : Service) (calls : List Call) : Prop :=
  ∃ earlier timeout, calls = earlier ++ [.waitForService service timeout true]

/-- Where the fuel is scarce, it runs out after lawful calls. -/
def Cut (scarce : Prop) (deadline : Int) (calls : List Call) : Prop :=
  scarce ∧ Lawful (Permitted deadline) calls

namespace World

/-- The documented behaviour of the clock and of `wait_for_service`: the clock is steady, a wait
with a timeout returns, and without the service it has lasted for the timeout. -/
structure Documented (w : World) : Prop where
  steady : ∀ calls call, w.now calls ≤ w.now (calls ++ [call])
  returns : ∀ calls service timeout, 0 ≤ timeout →
    (w.ready calls service timeout).isSome = true
  lasted : ∀ calls service timeout, 0 ≤ timeout → w.ready calls service timeout = some false →
    w.now calls + timeout ≤ w.now (calls ++ [.waitForService service timeout false])

/-- The deadline has passed between the two readings of the clock, and the wait for the service,
with a negative timeout, never ends. -/
def Straddles (w : World) (deadline : Int) (calls : List Call) : Prop :=
  ∃ earlier check reading service, calls = earlier ++ [.now check, .now reading] ∧
    check < deadline ∧ deadline < reading ∧ w.ready calls service (deadline - reading) = none

/-- A program blocks after lawful calls, and with documented answers only in this way. -/
def Stuck (w : World) (deadline : Int) (calls : List Call) : Prop :=
  Lawful (Permitted deadline) calls ∧ (w.Documented → w.Straddles deadline calls)

/-- The probes until the deadline. -/
def probesLeft (w : World) (deadline : Int) (calls : List Call) : Nat :=
  ((deadline - w.now calls + (kServiceProbe - 1)) / kServiceProbe).toNat

end World

section Calls

variable {deadline : Int} {sent : List Request} {received : List Reply} {calls : List Call}
variable {call : Call} {service : Service} {request : Request} {w : World}

theorem requests_concat : requests (calls ++ [call]) = requests calls ++ requests [call] :=
  List.filterMap_append

theorem responses_concat : responses (calls ++ [call]) = responses calls ++ responses [call] :=
  List.filterMap_append

/-- A permitted call that is neither a request nor a response. -/
theorem Sofar.concat (sofar : Sofar w deadline sent received calls)
    (permitted : Permitted deadline calls call) (silent : requests [call] = [])
    (unanswered : responses [call] = []) : Sofar w deadline sent received (calls ++ [call]) := by
  refine ⟨sofar.lawful.concat permitted, ?_, ?_, sofar.given⟩
  · rw [requests_concat, silent, List.append_nil, sofar.sends]
  · rw [responses_concat, unanswered, List.append_nil, sofar.receives]

end Calls

section Programs

variable {w : World} {deadline : Int} {sent : List Request} {received : List Reply}
variable {calls : List Call} {service : Service} {request : Request} {scarce : Prop} {fuel : Nat}

/-- The calls of one probe. -/
theorem serviceProbe_eq : w.serviceProbe service deadline calls =
    let asked := calls ++ [.ok (w.ok calls)]
    if w.ok calls then
      let checked := asked ++ [.now (w.now asked)]
      if w.now asked < deadline then
        let timed := checked ++ [.now (w.now checked)]
        let timeout := min kServiceProbe (deadline - w.now checked)
        match w.ready timed service timeout with
        | none => .blocked timed
        | some ready =>
            .returned (if ready then some true else none)
              (timed ++ [.waitForService service timeout ready])
      else
        .returned (some false) checked
    else
      .returned (some false) asked := by
  simp only [World.serviceProbe, World.rclcppOk, World.steadyNow, World.clientWait,
    Program.make_bind_apply, Program.ite_apply, Program.pure_apply]
  split_ifs
  · cases w.ready _ service _ <;> rfl
  · rfl
  · rfl

/-- With documented answers a probe in vain has used up its time. -/
theorem probesLeft_lt (documented : w.Documented) {asked checked timed : List Call} {ready : Bool}
    (isAsked : asked = calls ++ [.ok ready])
    (isChecked : checked = asked ++ [.now (w.now asked)])
    (isTimed : timed = checked ++ [.now (w.now checked)])
    (early : w.now asked < deadline)
    (vain : w.ready timed service (min kServiceProbe (deadline - w.now checked)) = some false) :
    w.probesLeft deadline (timed ++
      [.waitForService service (min kServiceProbe (deadline - w.now checked)) false]) <
        w.probesLeft deadline calls := by
  have first := documented.steady calls (.ok ready)
  have second := documented.steady asked (.now (w.now asked))
  have third := documented.steady checked (.now (w.now checked))
  rw [← isAsked] at first
  rw [← isChecked] at second
  rw [← isTimed] at third
  have waited : w.now checked + min kServiceProbe (deadline - w.now checked) ≤ w.now (timed ++
      [.waitForService service (min kServiceProbe (deadline - w.now checked)) false]) := by
    by_cases negative : min kServiceProbe (deadline - w.now checked) < 0
    · have fourth := documented.steady timed
        (.waitForService service (min kServiceProbe (deadline - w.now checked)) false)
      omega
    · have lasted := documented.lasted timed service _ (not_lt.mp negative) vain
      omega
  simp only [World.probesLeft, kServiceProbe, millisecond] at waited ⊢
  omega

/-- One probe. -/
theorem serviceProbe_ends (bound : Nat) (clock : scarce ∨ w.Documented) :
    Triple (fun calls => Sofar w deadline sent received calls ∧ w.probesLeft deadline calls ≤ bound)
      (w.serviceProbe service deadline)
      (Repeats
        (fun ready calls =>
          Sofar w deadline sent received calls ∧ (ready = true → Found service calls))
        fun calls => Sofar w deadline sent received calls ∧
          (scarce ∨ w.probesLeft deadline calls < bound))
      (w.Stuck deadline) (Cut scarce deadline) := by
  rintro calls ⟨sofar, bounded⟩
  rw [serviceProbe_eq]
  dsimp only
  have asked : Sofar w deadline sent received (calls ++ [.ok (w.ok calls)]) :=
    sofar.concat trivial rfl rfl
  generalize isAsked : calls ++ [.ok (w.ok calls)] = askedCalls at asked ⊢
  have checked : Sofar w deadline sent received (askedCalls ++ [.now (w.now askedCalls)]) :=
    asked.concat trivial rfl rfl
  generalize isChecked : askedCalls ++ [.now (w.now askedCalls)] = checkedCalls at checked ⊢
  have timed : Sofar w deadline sent received (checkedCalls ++ [.now (w.now checkedCalls)]) :=
    checked.concat trivial rfl rfl
  generalize isTimed : checkedCalls ++ [.now (w.now checkedCalls)] = timedCalls at timed ⊢
  have readings : timedCalls =
      askedCalls ++ [.now (w.now askedCalls), .now (w.now checkedCalls)] := by
    rw [← isTimed, ← isChecked, List.append_assoc]
    rfl
  split_ifs with ok early
  · have permitted (ready : Bool) : Permitted deadline timedCalls (.waitForService service
        (min kServiceProbe (deadline - w.now checkedCalls)) ready) :=
      ⟨min_le_left _ _, askedCalls, _, _, readings, early, min_le_right _ _⟩
    cases given : w.ready timedCalls service (min kServiceProbe (deadline - w.now checkedCalls))
      with
    | none =>
        show w.Stuck deadline timedCalls
        refine ⟨timed.lawful, fun documented => ?_⟩
        have negative : min kServiceProbe (deadline - w.now checkedCalls) < 0 := by
          by_contra within
          have returns := documented.returns timedCalls service _ (not_lt.mp within)
          rw [given] at returns
          cases returns
        have late : deadline - w.now checkedCalls < 0 := by
          simp only [kServiceProbe, millisecond] at negative
          omega
        rw [min_eq_right (late.le.trans (by decide))] at given
        exact ⟨askedCalls, _, _, service, readings, early, by omega, given⟩
    | some ready =>
        have waited := timed.concat (permitted ready) rfl rfl
        cases ready with
        | true => exact (⟨waited, fun _ => ⟨timedCalls, _, rfl⟩⟩ : _ ∧ (_ → Found _ _))
        | false =>
            refine (⟨waited, clock.imp_right fun documented => ?_⟩ : _ ∧ (scarce ∨ _))
            have falls :=
              probesLeft_lt documented isAsked.symm isChecked.symm isTimed.symm early given
            exact falls.trans_le bounded
  · exact (⟨checked, nofun⟩ : _ ∧ (false = true → Found _ _))
  · exact (⟨asked, nofun⟩ : _ ∧ (false = true → Found _ _))

/-- The clock has not been turned back. -/
theorem start_le_now (documented : w.Documented) (calls : List Call) : w.now [] ≤ w.now calls := by
  induction calls using List.reverseRecOn with
  | nil => exact le_rfl
  | append_singleton calls call ih => exact ih.trans (documented.steady calls call)

theorem probesLeft_le (documented : w.Documented) (calls : List Call) :
    w.probesLeft (w.now [] + kTotalDeadline) calls ≤ 300 := by
  have begun := start_le_now documented calls
  simp only [World.probesLeft, kTotalDeadline, kServiceProbe, millisecond]
  omega

/-- The loop finds the service or gives up, and its fuel is enough for the documented answers. -/
theorem waitForService_ends (isDeadline : deadline = w.now [] + kTotalDeadline)
    (enough : scarce ∨ w.Documented ∧ 300 < fuel) :
    Triple (Sofar w deadline sent received) (w.waitForService service deadline fuel)
      (fun ready calls =>
        Sofar w deadline sent received calls ∧ (ready = true → Found service calls))
      (w.Stuck deadline) (Cut scarce deadline) := by
  have clock : scarce ∨ w.Documented := enough.imp_right And.left
  have loop : Triple
      (fun calls => Sofar w deadline sent received calls ∧
        (scarce ∨ w.probesLeft deadline calls < fuel))
      (w.waitForService service deadline fuel)
      (fun ready calls =>
        Sofar w deadline sent received calls ∧ (ready = true → Found service calls))
      (w.Stuck deadline) (Cut scarce deadline) :=
    Triple.repeatUntil (fun scarce _ sofar => ⟨scarce, sofar.lawful⟩) fun bound =>
      serviceProbe_ends bound clock
  refine loop.mono ?_ fun _ _ => id
  intro calls sofar
  refine ⟨sofar, enough.imp_right fun documented => ?_⟩
  rw [isDeadline]
  exact (probesLeft_le documented.1 calls).trans_lt documented.2

/-- The wait for the response of a request that has just been sent. -/
theorem waitForResponse_ends :
    Triple
      (fun calls => Sofar w deadline sent received calls ∧
        ∃ earlier request, calls = earlier ++ [.asyncSendRequest request] ∧
          request.service = service)
      (w.waitForResponse service deadline)
      (fun response calls =>
        Sofar w deadline sent (received ++ (response.map (Sigma.mk service)).toList) calls)
      (w.Stuck deadline) (Cut scarce deadline) := by
  rintro calls ⟨sofar, earlier, request, isSent, target⟩
  simp only [World.waitForResponse, World.steadyNow, World.rclcppOk, Program.make_bind_apply,
    Program.ite_apply, Program.pure_apply]
  have timed : Sofar w deadline sent received (calls ++ [.now (w.now calls)]) :=
    sofar.concat trivial rfl rfl
  have asked (answer : Bool) : Sofar w deadline sent received
      (calls ++ [.now (w.now calls)] ++ [.ok answer]) :=
    timed.concat trivial rfl rfl
  split_ifs with ok early
  · rw [World.spinUntilFutureComplete, Program.make_apply]
    rw [ok]
    have permitted (response : Option service.Response) :
        Permitted deadline (calls ++ [.now (w.now calls)] ++ [.ok true])
          (.spinUntilFutureComplete service (deadline - w.now calls) response) := by
      refine ⟨by omega, earlier, request, _, ?_, target, rfl⟩
      rw [isSent, List.append_assoc, List.append_assoc]
      rfl
    dsimp only [Outcome.Ends]
    cases given : w.spin (calls ++ [.now (w.now calls)] ++ [.ok true]) service
        (deadline - w.now calls) with
    | none =>
        rw [Option.map_none, Option.toList_none, List.append_nil]
        exact (asked true).concat (permitted none) rfl rfl
    | some response =>
        refine ⟨(asked true).lawful.concat (permitted _), ?_, ?_, fun reply member => ?_⟩
        · rw [requests_concat, (asked true).sends]
          exact List.append_nil sent
        · rw [responses_concat, (asked true).receives]
          rfl
        · rcases List.mem_append.mp member with member | member
          · exact sofar.given reply member
          · rw [List.mem_singleton.mp member]
            exact ⟨_, _, given⟩
  · show Sofar w deadline sent (received ++ []) _
    rw [List.append_nil]
    exact asked _
  · show Sofar w deadline sent (received ++ []) _
    rw [List.append_nil]
    exact asked _

/-- What a service call has requested and received, and whether that is confirmed. -/
structure Exchanged (request : Request) (service : Service) (requested : List Request)
    (answered : List Reply) (clean : Bool) : Prop where
  requested : requested = [] ∨ requested = [request]
  answered : answered = [] ∧ clean = false ∨
    ∃ response, answered = [⟨service, response⟩] ∧ clean = service.confirms response

theorem cerr_ends (line : String) :
    Triple (Sofar w deadline sent received) (cerr line)
      (fun _ calls => Sofar w deadline sent received calls) (w.Stuck deadline)
      (Cut scarce deadline) :=
  Triple.make (fun _ _ sofar _ => sofar.concat trivial rfl rfl) fun _ _ none => nomatch none

/-- One of the service calls. -/
theorem callService_ends {unavailable missing : String}
    {judge : service.Response → Program Call Bool} (target : request.service = service)
    (isDeadline : deadline = w.now [] + kTotalDeadline)
    (enough : scarce ∨ w.Documented ∧ 300 < fuel)
    (order : (sent ++ [request]).Sublist
      [.rtEnable, World.quiesceRequest, World.deactivateRequest])
    (stopped : request = World.deactivateRequest → ⟨.switchController, true⟩ ∈ received)
    (judges : ∀ {sent received} response,
      Triple (Sofar w deadline sent received) (judge response)
        (fun clean calls => Sofar w deadline sent received calls ∧
          clean = service.confirms response) (w.Stuck deadline) (Cut scarce deadline)) :
    Triple (Sofar w deadline sent received)
      (w.callService service request unavailable missing judge deadline fuel)
      (fun clean calls => ∃ requested answered,
        Sofar w deadline (sent ++ requested) (received ++ answered) calls ∧
          Exchanged request service requested answered clean) (w.Stuck deadline)
      (Cut scarce deadline) := by
  rw [World.callService]
  refine (waitForService_ends isDeadline enough).bind fun ready => Triple.ite (fun found => ?_) ?_
  · have sends : Triple
        (fun calls => Sofar w deadline sent received calls ∧
          (ready = true → Found service calls))
        (asyncSendRequest request)
        (fun _ calls => Sofar w deadline (sent ++ [request]) received calls ∧
          ∃ earlier other, calls = earlier ++ [.asyncSendRequest other] ∧ other.service = service)
        (w.Stuck deadline) (Cut scarce deadline) := by
      refine Triple.make ?_ fun _ _ none => nomatch none
      rintro calls - ⟨sofar, finds⟩ -
      obtain ⟨earlier, timeout, isFound⟩ := finds found
      have permitted : Permitted deadline calls (.asyncSendRequest request) := by
        refine ⟨by rwa [sofar.sends], fun last => ?_, earlier, timeout, target ▸ isFound⟩
        rw [sofar.receives]
        exact stopped last
      refine ⟨⟨sofar.lawful.concat permitted, ?_, ?_, sofar.given⟩, calls, request, rfl, target⟩
      · rw [requests_concat, sofar.sends]
        rfl
      · rw [responses_concat, sofar.receives]
        exact List.append_nil received
    refine sends.bind fun _ => waitForResponse_ends.bind fun response => ?_
    cases response with
    | some response =>
        refine (judges response).mono (fun _ => id) ?_
        rintro clean calls ⟨sofar, judged⟩
        exact ⟨[request], [⟨service, response⟩], sofar, Or.inr rfl, Or.inr ⟨response, rfl, judged⟩⟩
    | none =>
        refine (cerr_ends missing).bind fun _ => Triple.pure fun calls sofar => ?_
        exact ⟨[request], [], sofar, Or.inr rfl, Or.inl ⟨rfl, rfl⟩⟩
  · intro _
    refine Triple.bind ((cerr_ends unavailable).mono (fun _ => And.left) fun _ _ => id) fun _ => ?_
    refine Triple.pure fun calls sofar => ⟨[], [], ?_, Or.inl rfl, Or.inl ⟨rfl, rfl⟩⟩
    rw [List.append_nil, List.append_nil]
    exact sofar

theorem disableEthercatAxes_ends (isDeadline : deadline = w.now [] + kTotalDeadline)
    (enough : scarce ∨ w.Documented ∧ 300 < fuel) :
    Triple (Sofar w deadline [] []) (w.disableEthercatAxes deadline fuel)
      (fun clean calls => ∃ requested answered, Sofar w deadline requested answered calls ∧
        Exchanged .rtEnable .rtDisable requested answered clean) (w.Stuck deadline)
      (Cut scarce deadline) := by
  refine callService_ends rfl isDeadline enough (by decide) (fun no => nomatch no)
    fun response => ?_
  exact (cerr_ends _).bind fun _ => Triple.pure fun calls sofar => ⟨sofar, rfl⟩

theorem quiesceEthercatControllers_ends (isDeadline : deadline = w.now [] + kTotalDeadline)
    (enough : scarce ∨ w.Documented ∧ 300 < fuel)
    (order : sent = [] ∨ sent = [.rtEnable]) :
    Triple (Sofar w deadline sent received) (w.quiesceEthercatControllers deadline fuel)
      (fun clean calls => ∃ requested answered,
        Sofar w deadline (sent ++ requested) (received ++ answered) calls ∧
          Exchanged World.quiesceRequest .switchController requested answered clean)
      (w.Stuck deadline) (Cut scarce deadline) := by
  refine callService_ends rfl isDeadline enough ?_ (fun no => nomatch no) fun ok => ?_
  · rcases order with rfl | rfl <;> decide
  · refine Triple.ite (fun accepted => ?_) fun rejected => ?_
    · exact (cerr_ends _).bind fun _ => Triple.pure fun calls sofar => ⟨sofar, accepted.symm⟩
    · exact (cerr_ends _).bind fun _ => Triple.pure fun calls sofar =>
        ⟨sofar, (Bool.eq_false_iff.mpr rejected).symm⟩

theorem deactivateEthercatHardware_ends (isDeadline : deadline = w.now [] + kTotalDeadline)
    (enough : scarce ∨ w.Documented ∧ 300 < fuel)
    (order : sent.Sublist [.rtEnable, World.quiesceRequest])
    (stopped : ⟨.switchController, true⟩ ∈ received) :
    Triple (Sofar w deadline sent received) (w.deactivateEthercatHardware deadline fuel)
      (fun clean calls => ∃ requested answered,
        Sofar w deadline (sent ++ requested) (received ++ answered) calls ∧
          Exchanged World.deactivateRequest .setHardwareComponentState requested answered clean)
      (w.Stuck deadline) (Cut scarce deadline) := by
  refine callService_ends rfl isDeadline enough (order.append_right [World.deactivateRequest])
    (fun _ => stopped) fun response => ?_
  refine Triple.ite (fun inactive => ?_) fun other => ?_
  · exact (cerr_ends _).bind fun _ => Triple.pure fun calls sofar => ⟨sofar, inactive.symm⟩
  · exact (cerr_ends _).bind fun _ => Triple.pure fun calls sofar =>
      ⟨sofar, (Bool.eq_false_iff.mpr other).symm⟩

/-- Every service has been asked and has confirmed. -/
def AllConfirmed (calls : List Call) : Prop :=
  (responses calls).map Sigma.fst =
      [.rtDisable, .switchController, .setHardwareComponentState] ∧
    ∀ reply ∈ responses calls, reply.confirms = true

/-- What holds when the program exits. -/
structure Exited (w : World) (deadline : Int) (exit : World.ExitStatus) (calls : List Call) : Prop
    where
  lawful : Lawful (Permitted deadline) calls
  success : exit = .success ↔ AllConfirmed calls
  given : ∀ reply ∈ responses calls, ∃ earlier timeout,
    w.spin earlier reply.1 timeout = some reply.2

theorem Exchanged.length_le {requested : List Request} {answered : List Reply} {clean : Bool}
    (exchanged : Exchanged request service requested answered clean) : answered.length ≤ 1 := by
  rcases exchanged.answered with ⟨rfl, -⟩ | ⟨response, rfl, -⟩
  · exact Nat.zero_le 1
  · exact Nat.le_refl 1

/-- The exit status of three exchanges. -/
theorem allConfirmed_iff {disabled quiesced deactivated : List Request}
    {first second third : List Reply} {disableClean controllersQuiesced ethercatInactive : Bool}
    (disable : Exchanged .rtEnable .rtDisable disabled first disableClean)
    (quiesce : Exchanged World.quiesceRequest .switchController quiesced second
      controllersQuiesced)
    (deactivate : Exchanged World.deactivateRequest .setHardwareComponentState deactivated third
      ethercatInactive)
    (received : responses calls = first ++ second ++ third) :
    (disableClean && controllersQuiesced && ethercatInactive) = true ↔ AllConfirmed calls := by
  rw [AllConfirmed, received]
  rcases disable.answered with ⟨rfl, rfl⟩ | ⟨disableReply, rfl, rfl⟩
  · refine iff_of_false nofun fun confirmed => ?_
    have shorter := congrArg List.length confirmed.1
    have second := quiesce.length_le
    have third := deactivate.length_le
    simp only [List.map_append, List.length_append, List.length_map, List.length_nil,
      List.length_cons] at shorter
    omega
  · rcases quiesce.answered with ⟨rfl, rfl⟩ | ⟨quiesceReply, rfl, rfl⟩
    · refine iff_of_false (by simp) fun confirmed => ?_
      have shorter := congrArg List.length confirmed.1
      have third := deactivate.length_le
      simp only [List.map_append, List.length_append, List.length_map, List.length_nil,
        List.length_cons] at shorter
      omega
    · rcases deactivate.answered with ⟨rfl, rfl⟩ | ⟨deactivateReply, rfl, rfl⟩
      · refine iff_of_false (by simp) fun confirmed => ?_
        have shorter := congrArg List.length confirmed.1
        simp at shorter
      · simp only [List.map_cons, List.map_nil, List.nil_append, List.cons_append,
          List.forall_mem_cons, Bool.and_eq_true, and_assoc, Reply.confirms, true_and]
        exact ⟨fun ⟨disabled, stopped, inactive⟩ => ⟨disabled, stopped, inactive, nofun⟩,
          fun ⟨disabled, stopped, inactive, _⟩ => ⟨disabled, stopped, inactive⟩⟩

/-- The run of the program. -/
theorem main_ends (w : World) (enough : scarce ∨ w.Documented ∧ 300 < fuel) :
    (w.main fuel []).Ends (Exited w (w.now [] + kTotalDeadline))
      (w.Stuck (w.now [] + kTotalDeadline)) (Cut scarce (w.now [] + kTotalDeadline)) := by
  have starts : Triple (fun calls => calls = []) w.steadyNow
      (fun start calls => start = w.now [] ∧
        Sofar w (w.now [] + kTotalDeadline) [] [] calls)
      (w.Stuck (w.now [] + kTotalDeadline)) (Cut scarce (w.now [] + kTotalDeadline)) := by
    refine Triple.make ?_ fun _ _ none => nomatch none
    rintro calls start rfl reading
    cases reading
    exact ⟨rfl, lawful_nil.concat trivial, rfl, rfl, fun reply none => nomatch none⟩
  refine Triple.bind starts (fun start => ?_) [] rfl
  rintro calls ⟨rfl, sofar⟩
  refine Triple.bind (disableEthercatAxes_ends rfl enough) (fun disableClean => ?_) calls sofar
  rintro calls ⟨disabled, first, sofar, disable⟩
  refine Triple.bind (quiesceEthercatControllers_ends rfl enough disable.requested)
    (fun controllersQuiesced => ?_) calls sofar
  rintro calls ⟨quiesced, second, sofar, quiesce⟩
  have hardware : Triple
      (Sofar w (w.now [] + kTotalDeadline) (disabled ++ quiesced) (first ++ second))
      (if controllersQuiesced then
        w.deactivateEthercatHardware (w.now [] + kTotalDeadline) fuel else pure false)
      (fun inactive calls => ∃ deactivated third,
        Sofar w (w.now [] + kTotalDeadline) (disabled ++ quiesced ++ deactivated)
          (first ++ second ++ third) calls ∧
          Exchanged World.deactivateRequest .setHardwareComponentState deactivated third inactive)
      (w.Stuck (w.now [] + kTotalDeadline)) (Cut scarce (w.now [] + kTotalDeadline)) := by
    refine Triple.ite (fun accepted => ?_) fun _ => Triple.pure fun calls sofar => ?_
    · refine deactivateEthercatHardware_ends rfl enough ?_ ?_
      · rcases disable.requested with rfl | rfl <;> rcases quiesce.requested with rfl | rfl <;>
          decide
      · rcases quiesce.answered with ⟨-, rejected⟩ | ⟨response, rfl, judged⟩
        · rw [rejected] at accepted
          cases accepted
        · rw [judged] at accepted
          have accepted : response = true := accepted
          rw [accepted]
          exact List.mem_append_right _ (List.mem_singleton.mpr rfl)
    · refine ⟨[], [], ?_, Or.inl rfl, Or.inl ⟨rfl, rfl⟩⟩
      rw [List.append_nil, List.append_nil]
      exact sofar
  refine Triple.bind hardware (fun ethercatInactive => ?_) calls sofar
  rintro calls ⟨deactivated, third, sofar, deactivate⟩
  refine ⟨sofar.lawful, ?_, ?_⟩
  · rw [← allConfirmed_iff disable quiesce deactivate sofar.receives]
    split_ifs with clean
    · exact iff_of_true rfl clean
    · exact iff_of_false nofun clean
  · rw [sofar.receives]
    exact sofar.given

end Programs

/-! ## The shutdown -/

/-- **The law of the shutdown.**  Whatever the world answers, every call that the program makes is
permitted by those before it, also when a call is never answered or a loop goes on beyond every
bound: the requests come in their order and each at most once, the hardware is set inactive only
after its controllers have been stopped, and every wait ends by the deadline.  The exit is a success
exactly if all three services have confirmed. -/
theorem shutdown_lawful (w : World) (fuel : Nat) :
    (w.main fuel []).Ends
      (fun exit calls => Lawful (Permitted (w.now [] + kTotalDeadline)) calls ∧
        (exit = .success ↔ AllConfirmed calls))
      (Lawful (Permitted (w.now [] + kTotalDeadline)))
      (Lawful (Permitted (w.now [] + kTotalDeadline))) := by
  have ends : (w.main fuel []).Ends _ _ (Cut True _) := main_ends w (Or.inl trivial)
  cases outcome : w.main fuel [] with
  | returned exit calls =>
      rw [outcome] at ends
      exact ⟨ends.lawful, ends.success⟩
  | blocked calls =>
      rw [outcome] at ends
      exact ends.1
  | unfinished calls =>
      rw [outcome] at ends
      exact ends.2

/-- **The end of the shutdown.**  With a steady clock and timeouts that are kept, the program exits
after at most three hundred waits for each service, or the deadline passes between two readings of
the clock and a wait with a negative timeout never ends. -/
theorem shutdown_returns {w : World} (documented : w.Documented) {fuel : Nat}
    (enough : 300 < fuel) :
    (∃ exit calls, w.main fuel [] = .returned exit calls) ∨
      ∃ calls, w.main fuel [] = .blocked calls ∧
        w.Straddles (w.now [] + kTotalDeadline) calls := by
  have ends : (w.main fuel []).Ends _ _ (Cut False _) := main_ends w (Or.inr ⟨documented, enough⟩)
  cases outcome : w.main fuel [] with
  | returned exit calls => exact Or.inl ⟨exit, calls, rfl⟩
  | blocked calls =>
      rw [outcome] at ends
      exact Or.inr ⟨calls, rfl, ends.2 documented⟩
  | unfinished calls =>
      rw [outcome] at ends
      exact ends.1.elim

/-- A world in which every service confirms at once. -/
def confirmingWorld : World where
  ok _ := true
  now _ := 0
  ready _ _ _ := some true
  spin _ service _ :=
    match service with
    | .rtDisable =>
        some { ok := true, failedBatch := 0, failedJoint := "", statusWord := 0, stage := "" }
    | .switchController => some true
    | .setHardwareComponentState =>
        some { ok := true, stateId := primaryStateInactive, stateLabel := "inactive" }

theorem shutdown_returns_of_confirmingWorld :
    ∃ exit calls, confirmingWorld.main 301 [] = .returned exit calls := by
  have documented : confirmingWorld.Documented :=
    ⟨fun _ _ => le_rfl, fun _ _ _ _ => rfl, fun _ _ _ _ vain => nomatch vain⟩
  rcases shutdown_returns documented (Nat.lt_succ_self 300) with returned | ⟨calls, -, straddles⟩
  · exact returned
  · obtain ⟨earlier, check, reading, service, -, -, -, unanswered⟩ := straddles
    cases unanswered

/-- A world whose clock passes the deadline between the two readings of the first probe. -/
def straddlingWorld : World where
  ok _ := true
  now calls := if calls.length < 3 then 0 else kTotalDeadline + 1
  ready _ _ timeout := if timeout < 0 then none else some true
  spin _ _ _ := none

example : straddlingWorld.Documented ∧ ∃ calls, straddlingWorld.main 301 [] = .blocked calls := by
  have found (calls : List Call) (service : Service) {timeout : Int} (within : 0 ≤ timeout) :
      straddlingWorld.ready calls service timeout = some true :=
    if_neg (not_lt.mpr within)
  refine ⟨⟨fun calls call => ?_, fun calls service timeout within => ?_,
    fun calls service timeout within vain => ?_⟩, _, rfl⟩
  · simp only [straddlingWorld, List.length_append, kTotalDeadline, millisecond]
    split_ifs <;> omega
  · rw [found calls service within]
    rfl
  · rw [found calls service within] at vain
    cases vain

/-- **From the shutdown to the bus.**  If the master is active when the hardware is deactivated, and
the controller manager confirms the inactive hardware only after `on_deactivate` has succeeded, a
clean exit means that the axes were disabled, and that every configured slave has been seen in PREOP
after the master was deactivated. -/
theorem preop_of_clean_exit {w : World} {fuel : Nat} {d : Ethercat.EthercatDriver}
    {bus : Ethercat.Bus} (running : d.master.masterActive = true)
    (manager : ∀ calls timeout response,
      w.spin calls .setHardwareComponentState timeout = some response →
        Service.confirms .setHardwareComponentState response = true →
          ∃ e, d.onDeactivate bus = some (e, .success))
    {calls : List Call} (clean : w.main fuel [] = .returned .success calls) :
    (∃ response, ⟨.rtDisable, response⟩ ∈ responses calls ∧ response.ok = true) ∧
      ∃ polls, bus.observesPreop d.master.slaveInfo polls = true := by
  have ends : (w.main fuel []).Ends _ _ (Cut True _) := main_ends w (Or.inl trivial)
  rw [clean] at ends
  obtain ⟨services, confirms⟩ := ends.success.mp rfl
  have answered (service : Service)
      (asked : service ∈ [Service.rtDisable, .switchController, .setHardwareComponentState]) :
      ∃ response, ⟨service, response⟩ ∈ responses calls ∧ service.confirms response = true := by
    rw [← services] at asked
    obtain ⟨⟨service, response⟩, member, rfl⟩ := List.mem_map.mp asked
    exact ⟨response, member, confirms _ member⟩
  refine ⟨answered .rtDisable (by decide), ?_⟩
  obtain ⟨response, member, inactive⟩ := answered .setHardwareComponentState (by decide)
  obtain ⟨earlier, timeout, given⟩ := ends.given _ member
  obtain ⟨e, deactivated⟩ := manager earlier timeout response given inactive
  obtain ⟨⟨t, answer⟩, call, same⟩ := Option.map_eq_some_iff.mp deactivated
  have zero : answer.result = 0 := by
    by_contra failed
    rw [if_pos failed] at same
    cases same
  cases Ethercat.EcMaster.deactivation_of_call call with
  | inactive stopped => exact absurd (running.symm.trans stopped) (by decide)
  | refused _ _ result => exact absurd zero result
  | polled _ _ result => exact ⟨answer.polls, result.mp zero⟩

theorem preop_of_clean_exit_of_confirmingWorld :
    ∃ polls, (Ethercat.steadyBus Ethercat.ecAlStatePreop).observesPreop [{ position := 14 }] polls =
      true := by
  let master : Ethercat.EcMaster :=
    { requested := true, masterActive := true, slaveInfo := [{ position := 14 }] }
  have deactivates : ∃ e, (⟨true, master⟩ : Ethercat.EthercatDriver).onDeactivate
      (Ethercat.steadyBus Ethercat.ecAlStatePreop) = some (e, .success) :=
    ⟨_, rfl⟩
  obtain ⟨calls, clean⟩ : ∃ calls, confirmingWorld.main 1 [] = .returned .success calls :=
    ⟨_, rfl⟩
  exact (preop_of_clean_exit (d := ⟨true, master⟩) rfl (fun _ _ _ _ _ => deactivates) clean).2

end RtControl.Shutdown
