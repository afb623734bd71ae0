import Dcsctp4j.WrapperCalls
import Dcsctp4j.Foundation.Transition

/-! # Timers relayed between dcsctp and Java

dcsctp starts, stops and restarts a timeout through its `WrappedTimeout`; the
Java object behind it expires and brings the id it was armed with back through
`handleTimeout`.
-/

namespace Dcsctp4j

open NativeFrame NativeFrame.Program Transition
open scoped List

namespace NativeSctpSocket

variable {σ : Type}

/-- `dcsctpHandle` is dcsctp's `HandleTimeout`. -/
def handleTimeout_ (dcsctpHandle : σ → Native.TimeoutId → σ) (socket : σ)
    (timeoutId : Int64) : σ :=
  dcsctpHandle socket ⟨timeoutId.toUInt64⟩

def handleTimeout (dcsctpHandle : σ → Native.TimeoutId → σ) (socket : σ)
    (timeoutId : Int64) : σ :=
  handleTimeout_ dcsctpHandle socket timeoutId

end NativeSctpSocket

/-! ## The Java timer -/

/-- What one call of `start` asked for; `number` counts the calls before it. -/
structure Arming where
  number : Nat
  duration : Int64
  timeoutId : Int64
deriving DecidableEq

inductive TimerEvent
  | started
  | stopped
  | expired
deriving DecidableEq

/-- The state of the Java object, with all that happened to it. -/
structure JavaTimer where
  starts : Nat
  armed : Option Arming
  seen : List TimerEvent
deriving DecidableEq

namespace JavaTimer

def start (timer : JavaTimer) (duration timeoutId : Int64) : JavaTimer where
  starts := timer.starts + 1
  armed := some { number := timer.starts, duration, timeoutId }
  seen := timer.seen ++ [.started]

def stop (timer : JavaTimer) : JavaTimer where
  starts := timer.starts
  armed := none
  seen := timer.seen ++ [.stopped]

def expire (timer : JavaTimer) : JavaTimer where
  starts := timer.starts
  armed := none
  seen := timer.seen ++ [.expired]

def receive (object : Java.Timeout) (timer : JavaTimer) : ApplicationCall → JavaTimer
  | .timeoutStart timeout duration timeoutId =>
      if timeout = object then timer.start duration timeoutId else timer
  | .timeoutStop timeout => if timeout = object then timer.stop else timer
  | _ => timer

end JavaTimer

/-- `Start` when nothing runs; `Stop` and an expiry when something does. -/
def TimerEvent.next : Bool → TimerEvent → Option Bool
  | false, .started => some true
  | true, .stopped => some false
  | true, .expired => some false
  | _, _ => none

/-- The events obey the discipline and leave the timer in the state `running`. -/
def Disciplined (seen : List TimerEvent) (running : Bool) : Prop :=
  seen.foldlM TimerEvent.next false = some running

theorem Disciplined.snoc {seen : List TimerEvent} {running after : Bool}
    (disciplined : Disciplined seen running) {event : TimerEvent}
    (next : event.next running = some after) : Disciplined (seen ++ [event]) after := by
  rw [Disciplined] at disciplined ⊢
  simp [List.foldlM_append, disciplined, next]

/-! ## The relay -/

/-- dcsctp's timeout, its `WrappedTimeout` and the Java object, with the ids that
expiries have read and not yet brought back. -/
structure RelayState where
  env : JniEnv
  running : Option (Native.DurationMs × Native.TimeoutId)
  armings : List (Native.DurationMs × Native.TimeoutId)
  timer : JavaTimer
  inFlight : List Arming
  handled : List (Arming × Native.TimeoutId)

inductive RelayEvent
  | start (duration : Native.DurationMs) (timeoutId : Native.TimeoutId)
  | stop
  | restart (duration : Native.DurationMs) (timeoutId : Native.TimeoutId)
  | expire (arming : Arming)
  | raceExpire (arming : Arming)
  | deliver (arming : Arming)
deriving DecidableEq

namespace RelayState

def call (setting : JniSetting) (wrapped : WrappedTimeout) (state : RelayState)
    (program : Jni Unit) : RelayState :=
  let after := (program.run setting state.env).2
  let calls := after.received.drop state.env.received.length
  { state with
    env := after
    timer := calls.foldl (JavaTimer.receive wrapped.timeout) state.timer }

def arm (state : RelayState) (duration : Native.DurationMs)
    (timeoutId : Native.TimeoutId) : RelayState :=
  { state with
    running := some (duration, timeoutId)
    armings := state.armings ++ [(duration, timeoutId)] }

def read (state : RelayState) (arming : Arming) : RelayState :=
  { state with inFlight := state.inFlight ++ [arming] }

def expired (state : RelayState) : RelayState :=
  { state with running := none, timer := state.timer.expire }

def handle (state : RelayState) (arming : Arming) : RelayState :=
  { state with
    inFlight := state.inFlight.erase arming
    handled := NativeSctpSocket.handleTimeout
      (fun log timeoutId => log ++ [(arming, timeoutId)]) state.handled arming.timeoutId }

end RelayState

/-- dcsctp keeps its discipline. An expiry ends what runs, at once or, when it
races with other calls, when it is delivered and its arming is still current. -/
inductive RelayStep (setting : JniSetting) (wrapped : WrappedTimeout) :
    RelayState → RelayEvent → RelayState → Prop
  | start {state : RelayState} {duration : Native.DurationMs}
      {timeoutId : Native.TimeoutId} (idle : state.running = none) :
      RelayStep setting wrapped state (.start duration timeoutId)
        ((state.call setting wrapped (wrapped.start duration timeoutId)).arm duration timeoutId)
  | stop {state : RelayState} (busy : state.running ≠ none) :
      RelayStep setting wrapped state .stop
        { state.call setting wrapped wrapped.stop with running := none }
  | restart {state : RelayState} {duration : Native.DurationMs}
      {timeoutId : Native.TimeoutId} (busy : state.running ≠ none) :
      RelayStep setting wrapped state (.restart duration timeoutId)
        ((state.call setting wrapped (wrapped.restart duration timeoutId)).arm duration timeoutId)
  | expire {state : RelayState} {arming : Arming} (armed : state.timer.armed = some arming) :
      RelayStep setting wrapped state (.expire arming) (state.read arming).expired
  | raceExpire {state : RelayState} {arming : Arming}
      (armed : state.timer.armed = some arming) :
      RelayStep setting wrapped state (.raceExpire arming) (state.read arming)
  | deliverCurrent {state : RelayState} {arming : Arming} (member : arming ∈ state.inFlight)
      (current : state.timer.armed = some arming) :
      RelayStep setting wrapped state (.deliver arming) (state.handle arming).expired
  | deliverLate {state : RelayState} {arming : Arming} (member : arming ∈ state.inFlight)
      (late : state.timer.armed ≠ some arming) :
      RelayStep setting wrapped state (.deliver arming) (state.handle arming)

def relay (setting : JniSetting) (wrapped : WrappedTimeout) :
    System RelayState RelayEvent where
  initial state := state.running = none ∧ state.armings = [] ∧
    state.timer = { starts := 0, armed := none, seen := [] } ∧
    state.inFlight = [] ∧ state.handled = []
  step := RelayStep setting wrapped

/-! ## The invariant -/

def Arming.ComesFrom (arming : Arming) (armings : List (Native.DurationMs × Native.TimeoutId))
    (duration : Native.DurationMs) (timeoutId : Native.TimeoutId) : Prop :=
  armings[arming.number]? = some (duration, timeoutId) ∧
    arming.duration = duration.value.toInt64 ∧ arming.timeoutId = timeoutId.value.toInt64

theorem Arming.ComesFrom.snoc {arming : Arming}
    {armings : List (Native.DurationMs × Native.TimeoutId)} {duration : Native.DurationMs}
    {timeoutId : Native.TimeoutId} (origin : arming.ComesFrom armings duration timeoutId)
    (next : Native.DurationMs × Native.TimeoutId) :
    arming.ComesFrom (armings ++ [next]) duration timeoutId := by
  rcases origin with ⟨recorded, same⟩
  have within : arming.number < armings.length := by
    by_contra outside
    rw [List.getElem?_eq_none (by omega)] at recorded
    cases recorded
  exact ⟨by rw [List.getElem?_append_left within, recorded], same⟩

/-- The Java object is armed exactly when the native timeout runs, with the
arguments of the latest `Start` or `Restart`. -/
def RelaysLatest (state : RelayState) : Prop :=
  match state.timer.armed, state.running with
  | none, none => True
  | some arming, some (duration, timeoutId) =>
      arming.ComesFrom state.armings duration timeoutId ∧
        state.armings.getLast? = some (duration, timeoutId)
  | _, _ => False

structure RelayInvariant (state : RelayState) : Prop where
  disciplined : Disciplined state.timer.seen state.timer.armed.isSome
  counted : state.timer.starts = state.armings.length
  latest : RelaysLatest state
  inFlight : ∀ arming ∈ state.inFlight,
    ∃ duration timeoutId, arming.ComesFrom state.armings duration timeoutId
  handled : ∀ arming timeoutId, (arming, timeoutId) ∈ state.handled →
    ∃ duration, arming.ComesFrom state.armings duration timeoutId

structure TimerAnswers (setting : JniSetting) (wrapped : WrappedTimeout) : Prop where
  start : ∀ history duration timeoutId,
    ∃ value, setting.reply history (.timeoutStart wrapped.timeout duration timeoutId) = .ok value
  stop : ∀ history, ∃ value, setting.reply history (.timeoutStop wrapped.timeout) = .ok value

section Steps

variable {setting : JniSetting} {wrapped : WrappedTimeout} {state : RelayState}

theorem call_timer {program : Jni Unit} {calls : List ApplicationCall}
    (contract : Contract [] program [] calls)
    (answers : setting.Answers state.env.received calls) :
    (state.call setting wrapped program).timer =
      calls.foldl (JavaTimer.receive wrapped.timeout) state.timer := by
  have meets := contract setting state.env (by simp)
  have received := (meets.succeeds ⟨by simp, answers⟩).2
  simp only [RelayState.call, received, List.drop_left]

theorem start_timer (answers : TimerAnswers setting wrapped) (duration : Native.DurationMs)
    (timeoutId : Native.TimeoutId) :
    (state.call setting wrapped (wrapped.start duration timeoutId)).timer =
      state.timer.start duration.value.toInt64 timeoutId.value.toInt64 := by
  have replies : setting.Answers state.env.received
      [.timeoutStart wrapped.timeout duration.value.toInt64 timeoutId.value.toInt64] :=
    ⟨answers.start _ _ _, trivial⟩
  rw [call_timer (callJava_contract _) replies]
  simp [JavaTimer.receive]

theorem stop_timer (answers : TimerAnswers setting wrapped) :
    (state.call setting wrapped wrapped.stop).timer = state.timer.stop := by
  have replies : setting.Answers state.env.received [.timeoutStop wrapped.timeout] :=
    ⟨answers.stop _, trivial⟩
  rw [call_timer (callJava_contract _) replies]
  simp [JavaTimer.receive]

/-- The default `restart` is a stop and a start. -/
theorem restart_timer (answers : TimerAnswers setting wrapped) (duration : Native.DurationMs)
    (timeoutId : Native.TimeoutId) :
    (state.call setting wrapped (wrapped.restart duration timeoutId)).timer =
      state.timer.stop.start duration.value.toInt64 timeoutId.value.toInt64 := by
  have contract : Contract [] (wrapped.restart duration timeoutId) []
      ([.timeoutStop wrapped.timeout] ++
        [.timeoutStart wrapped.timeout duration.value.toInt64 timeoutId.value.toInt64]) :=
    Contract.bind (callJava_contract _) fun _ => callJava_contract _
  rw [call_timer contract ⟨answers.stop _, answers.start _ _ _, trivial⟩]
  simp [JavaTimer.receive]

theorem RelaysLatest.isSome (latest : RelaysLatest state) :
    state.timer.armed.isSome = state.running.isSome := by
  rw [RelaysLatest] at latest
  split at latest <;> simp_all

theorem RelayInvariant.armed {timer : JavaTimer} {armed : RelayState}
    (invariant : RelayInvariant state) {duration : Native.DurationMs}
    {timeoutId : Native.TimeoutId}
    (disciplined : Disciplined timer.seen false) (counted : timer.starts = state.armings.length)
    (timerArmed : armed.timer = timer.start duration.value.toInt64 timeoutId.value.toInt64)
    (running : armed.running = some (duration, timeoutId))
    (armings : armed.armings = state.armings ++ [(duration, timeoutId)])
    (inFlight : armed.inFlight = state.inFlight) (handled : armed.handled = state.handled) :
    RelayInvariant armed where
  disciplined := by
    rw [timerArmed]
    exact disciplined.snoc rfl
  counted := by rw [timerArmed, armings]; simp [JavaTimer.start, counted]
  latest := by
    rw [RelaysLatest, timerArmed, running, armings]
    exact ⟨⟨by simp [counted], rfl, rfl⟩, by simp⟩
  inFlight := by
    intro arming member
    rw [inFlight] at member
    rcases invariant.inFlight arming member with ⟨duration, timeoutId, origin⟩
    rw [armings]
    exact ⟨duration, timeoutId, origin.snoc _⟩
  handled := by
    intro arming timeoutId member
    rw [handled] at member
    rcases invariant.handled arming timeoutId member with ⟨duration, origin⟩
    rw [armings]
    exact ⟨duration, origin.snoc _⟩

theorem RelayInvariant.stopped {stopped : RelayState} (invariant : RelayInvariant state)
    (disciplined : Disciplined state.timer.seen true)
    (timerStopped : stopped.timer = state.timer.stop) (running : stopped.running = none)
    (armings : stopped.armings = state.armings) (inFlight : stopped.inFlight = state.inFlight)
    (handled : stopped.handled = state.handled) : RelayInvariant stopped where
  disciplined := by
    rw [timerStopped]
    exact disciplined.snoc rfl
  counted := by
    rw [timerStopped, armings]
    exact invariant.counted
  latest := by
    rw [RelaysLatest, timerStopped, running]
    trivial
  inFlight := by rw [inFlight, armings]; exact invariant.inFlight
  handled := by rw [handled, armings]; exact invariant.handled

theorem RelayInvariant.read {arming : Arming} (invariant : RelayInvariant state)
    (armed : state.timer.armed = some arming) : RelayInvariant (state.read arming) where
  disciplined := invariant.disciplined
  counted := invariant.counted
  latest := invariant.latest
  inFlight := by
    intro other member
    rcases List.mem_append.mp member with member | member
    · exact invariant.inFlight other member
    · have latest := invariant.latest
      rw [List.mem_singleton.mp member]
      rw [RelaysLatest, armed] at latest
      split at latest
      · contradiction
      · rename_i same _
        cases same
        exact ⟨_, _, latest.1⟩
      · contradiction
  handled := invariant.handled

theorem RelayInvariant.expired (invariant : RelayInvariant state)
    (armed : state.timer.armed.isSome) : RelayInvariant state.expired where
  disciplined := by
    have disciplined := invariant.disciplined
    rw [armed] at disciplined
    exact disciplined.snoc rfl
  counted := invariant.counted
  latest := trivial
  inFlight := invariant.inFlight
  handled := invariant.handled

/-- The id that `handleTimeout` hands to dcsctp is bit for bit the one of the
`Start` or `Restart` behind the arming. -/
theorem RelayInvariant.handle {arming : Arming} (invariant : RelayInvariant state)
    (member : arming ∈ state.inFlight) : RelayInvariant (state.handle arming) where
  disciplined := invariant.disciplined
  counted := invariant.counted
  latest := invariant.latest
  inFlight := fun other otherMember =>
    invariant.inFlight other (List.mem_of_mem_erase otherMember)
  handled := by
    intro other timeoutId otherMember
    rcases List.mem_append.mp otherMember with otherMember | otherMember
    · exact invariant.handled other timeoutId otherMember
    · rcases invariant.inFlight arming member with ⟨duration, source, origin⟩
      have same := List.mem_singleton.mp otherMember
      rw [Prod.mk.injEq] at same
      rcases same with ⟨rfl, rfl⟩
      refine ⟨duration, ?_⟩
      have sameId : NativeSctpSocket.handleTimeout
          (fun _ timeoutId => timeoutId) source other.timeoutId = source := by
        rw [NativeSctpSocket.handleTimeout, NativeSctpSocket.handleTimeout_, origin.2.2,
          UInt64.toUInt64_toInt64]
      rwa [← sameId] at origin

theorem relay_invariant (answers : TimerAnswers setting wrapped) :
    (relay setting wrapped).Invariant RelayInvariant where
  initially := by
    intro state invariant
    rcases invariant with ⟨running, armings, timer, inFlight, handled⟩
    exact
      { disciplined := by rw [timer]; rfl
        counted := by rw [timer, armings]; rfl
        latest := by rw [RelaysLatest, timer, running]; trivial
        inFlight := by rw [inFlight]; simp
        handled := by rw [handled]; simp }
  preserved := by
    intro first event last invariant step
    have visible := invariant.latest.isSome
    have disciplined := invariant.disciplined
    cases step with
    | start idle =>
        rw [visible, idle] at disciplined
        exact invariant.armed disciplined invariant.counted (start_timer answers _ _)
          rfl rfl rfl rfl
    | stop busy =>
        rw [visible, Option.isSome_iff_ne_none.mpr busy] at disciplined
        exact invariant.stopped disciplined (stop_timer answers) rfl rfl rfl rfl
    | restart busy =>
        rw [visible, Option.isSome_iff_ne_none.mpr busy] at disciplined
        have stopped : Disciplined first.timer.stop.seen false := disciplined.snoc rfl
        exact invariant.armed stopped invariant.counted (restart_timer answers _ _)
          rfl rfl rfl rfl
    | expire armed => exact (invariant.read armed).expired (by simp [RelayState.read, armed])
    | raceExpire armed => exact invariant.read armed
    | deliverCurrent member current =>
        exact (invariant.handle member).expired (by simp [RelayState.handle, current])
    | deliverLate member late => exact invariant.handle member

end Steps

/-! ## Runs -/

namespace RelayEvent

def arming : RelayEvent → Option (Native.DurationMs × Native.TimeoutId)
  | start duration timeoutId | restart duration timeoutId => some (duration, timeoutId)
  | stop | expire _ | raceExpire _ | deliver _ => none

def reading : RelayEvent → Option Arming
  | expire arming | raceExpire arming => some arming
  | start .. | stop | restart .. | deliver _ => none

def delivered : RelayEvent → Option Arming
  | deliver arming => some arming
  | start .. | stop | restart .. | expire _ | raceExpire _ => none

end RelayEvent

namespace RelayStep

variable {setting : JniSetting} {wrapped : WrappedTimeout} {first last : RelayState}
  {event : RelayEvent}

theorem armings (step : RelayStep setting wrapped first event last) :
    last.armings = first.armings ++ event.arming.toList := by
  cases step with
  | start | restart => rfl
  | stop | expire | raceExpire | deliverCurrent | deliverLate =>
      exact (List.append_nil _).symm

/-- Every id that is brought back reaches dcsctp's `HandleTimeout`, and no other. -/
theorem handled (step : RelayStep setting wrapped first event last) :
    last.handled.map Prod.fst = first.handled.map Prod.fst ++ event.delivered.toList := by
  cases step with
  | start | stop | restart | expire | raceExpire => exact (List.append_nil _).symm
  | deliverCurrent | deliverLate => exact List.map_append

theorem readings (step : RelayStep setting wrapped first event last) :
    (first.inFlight ++ event.reading.toList).Perm (event.delivered.toList ++ last.inFlight) := by
  cases step with
  | start | stop | restart => exact .of_eq (List.append_nil _)
  | expire | raceExpire => exact .refl _
  | deliverCurrent member | deliverLate member =>
      exact (List.append_nil _).symm ▸ List.perm_cons_erase member

end RelayStep

section Runs

variable {setting : JniSetting} {wrapped : WrappedTimeout} {first last : RelayState}
  {events : List RelayEvent}

theorem relay_armings (run : (relay setting wrapped).Run first events last) :
    last.armings = first.armings ++ events.filterMap RelayEvent.arming :=
  run.collects RelayState.armings RelayEvent.arming fun _ _ _ => RelayStep.armings

theorem relay_handled (run : (relay setting wrapped).Run first events last) :
    last.handled.map Prod.fst =
      first.handled.map Prod.fst ++ events.filterMap RelayEvent.delivered :=
  run.collects (fun state => state.handled.map Prod.fst) RelayEvent.delivered
    fun _ _ _ => RelayStep.handled

theorem relay_readings (run : (relay setting wrapped).Run first events last) :
    (first.inFlight ++ events.filterMap RelayEvent.reading).Perm
      (events.filterMap RelayEvent.delivered ++ last.inFlight) := by
  induction run with
  | nil => simp
  | @cons first middle last event events step rest induction =>
      have split : ∀ part : RelayEvent → Option Arming,
          (event :: events).filterMap part = (part event).toList ++ events.filterMap part := by
        intro part
        simp [List.filterMap_eq_flatMap_toList]
      calc first.inFlight ++ (event :: events).filterMap RelayEvent.reading
          = first.inFlight ++ event.reading.toList ++ events.filterMap RelayEvent.reading := by
            rw [split, List.append_assoc]
        _ ~ event.delivered.toList ++ middle.inFlight ++ events.filterMap RelayEvent.reading :=
            step.readings.append_right _
        _ ~ event.delivered.toList ++
              (events.filterMap RelayEvent.delivered ++ last.inFlight) := by
            rw [List.append_assoc]
            exact induction.append_left _
        _ = (event :: events).filterMap RelayEvent.delivered ++ last.inFlight := by
            rw [split, List.append_assoc]

end Runs

theorem Arming.ComesFrom.sameId {first second : Arming}
    {armings : List (Native.DurationMs × Native.TimeoutId)}
    {firstDuration secondDuration : Native.DurationMs} {firstId secondId : Native.TimeoutId}
    (firstOrigin : first.ComesFrom armings firstDuration firstId)
    (secondOrigin : second.ComesFrom armings secondDuration secondId)
    (same : first.timeoutId = second.timeoutId) : firstId = secondId := by
  rw [firstOrigin.2.2, secondOrigin.2.2] at same
  have bits := congrArg Int64.toUInt64 same
  rw [UInt64.toUInt64_toInt64, UInt64.toUInt64_toInt64] at bits
  cases firstId
  cases secondId
  cases bits
  rfl

structure TimersRelayed (events : List RelayEvent) (last : RelayState) : Prop where
  disciplined : Disciplined last.timer.seen last.timer.armed.isSome
  latest : RelaysLatest last
  armings : last.armings = events.filterMap RelayEvent.arming
  /-- What was brought back is what `HandleTimeout` got, in order. -/
  handled : last.handled.map Prod.fst = events.filterMap RelayEvent.delivered
  /-- What was read is brought back once or still on its way. -/
  readings : (events.filterMap RelayEvent.reading).Perm
    (events.filterMap RelayEvent.delivered ++ last.inFlight)
  /-- An id that dcsctp gets is the one of the `Start` or `Restart` it was read from. -/
  sameId : ∀ arming timeoutId, (arming, timeoutId) ∈ last.handled →
    ∃ duration, last.armings[arming.number]? = some (duration, timeoutId)
  distinct : ∀ earlier earlierId later laterId, (earlier, earlierId) ∈ last.handled →
    (later, laterId) ∈ last.handled → earlier.timeoutId = later.timeoutId →
      earlierId = laterId

theorem timers_relayed {setting : JniSetting} {wrapped : WrappedTimeout}
    (answers : TimerAnswers setting wrapped) {first last : RelayState}
    {events : List RelayEvent} (initial : (relay setting wrapped).initial first)
    (run : (relay setting wrapped).Run first events last) : TimersRelayed events last := by
  have invariant := (relay_invariant answers).run run
    ((relay_invariant answers).initially first initial)
  have armings := relay_armings run
  have handled := relay_handled run
  have readings := relay_readings run
  rcases initial with ⟨-, noArmings, -, noneInFlight, noneHandled⟩
  rw [noArmings, List.nil_append] at armings
  rw [noneHandled, List.map_nil, List.nil_append] at handled
  rw [noneInFlight, List.nil_append] at readings
  exact
    { disciplined := invariant.disciplined
      latest := invariant.latest
      armings := armings
      handled := handled
      readings := readings
      sameId := by
        intro arming timeoutId member
        rcases invariant.handled arming timeoutId member with ⟨duration, origin⟩
        exact ⟨duration, origin.1⟩
      distinct := by
        intro earlier earlierId later laterId earlierMember laterMember same
        rcases invariant.handled earlier earlierId earlierMember with ⟨_, earlierOrigin⟩
        rcases invariant.handled later laterId laterMember with ⟨_, laterOrigin⟩
        exact earlierOrigin.sameId laterOrigin same }

def freshRelay : RelayState where
  env := emptyEnv
  running := none
  armings := []
  timer := { starts := 0, armed := none, seen := [] }
  inFlight := []
  handled := []

def racedRelay : RelayState :=
  let started := (freshRelay.call compliantSetting ⟨⟨3⟩⟩
    (WrappedTimeout.start ⟨⟨3⟩⟩ ⟨-1⟩ ⟨18446744073709551615⟩)).arm ⟨-1⟩
      ⟨18446744073709551615⟩
  let raced := started.read ⟨0, -1, -1⟩
  { raced.call compliantSetting ⟨⟨3⟩⟩ (WrappedTimeout.stop ⟨⟨3⟩⟩) with running := none }

/-- A late id, with the largest value an id can have, reaches dcsctp as it was. -/
theorem timers_relayed_late :
    let last := racedRelay.handle ⟨0, -1, -1⟩
    TimersRelayed [.start ⟨-1⟩ ⟨18446744073709551615⟩, .raceExpire ⟨0, -1, -1⟩, .stop,
        .deliver ⟨0, -1, -1⟩] last ∧
      last.handled = [(⟨0, -1, -1⟩, ⟨18446744073709551615⟩)] ∧ last.timer.armed = none := by
  have answers : TimerAnswers compliantSetting ⟨⟨3⟩⟩ :=
    { start := fun _ _ _ => ⟨(), rfl⟩
      stop := fun _ => ⟨(), rfl⟩ }
  refine ⟨timers_relayed answers (show (relay compliantSetting ⟨⟨3⟩⟩).initial freshRelay from
    ⟨rfl, rfl, rfl, rfl, rfl⟩) ?_, rfl, rfl⟩
  refine .cons (.start rfl) (.cons (.raceExpire rfl) (.cons (.stop ?_)
    (.cons (.deliverLate ?_ ?_) (.nil _))))
  · exact Option.some_ne_none _
  · exact List.mem_singleton.mpr rfl
  · exact (Option.some_ne_none _).symm

end Dcsctp4j
