import Dcsctp4j.PacketDelivery

/-! # Where timeouts expire

Every timeout that expires was made and started, and it expires at the socket that
the callbacks which made it were given. This is the socket that made it only if
every endpoint's callbacks have its own wrapper.
-/

namespace Dcsctp4j

open NativeFrame Transition

variable {σ : Type} {sizeType : SizeType} {libraries : Libraries} {factory : DcSctpFactory σ}
  {dcsctp : DcSctpMachine σ} {wiring : Wiring}

/-! ## What the application's timeouts remember -/

/-- The timeout that expires at `dest` with this id was started with it, and it was
made by callbacks whose timeouts go to `dest`. -/
def Expires (wiring : Wiring) (history : List NetworkEvent) (dest : Endpoint)
    (timeoutId : Native.TimeoutId) : Prop :=
  ∃ creator starter timeout, .created creator timeout ∈ history ∧
    .started starter timeout timeoutId ∈ history ∧ wiring.wrapper creator = dest

theorem Expires.mono {first second : List NetworkEvent} {dest : Endpoint}
    {timeoutId : Native.TimeoutId} (expires : Expires wiring first dest timeoutId)
    (within : first ⊆ second) : Expires wiring second dest timeoutId := by
  rcases expires with ⟨creator, starter, timeout, created, started, wrapper⟩
  exact ⟨creator, starter, timeout, within created, within started, wrapper⟩

/-- A timeout knows where its creator's timeouts go, and the id it was started with last. -/
structure TimeoutKnown (wiring : Wiring) (history : List NetworkEvent) (index : Nat)
    (object : TestTimeout) : Prop where
  created : ∃ creator, .created creator ⟨index⟩ ∈ history ∧
    wiring.wrapper creator = object.wrapper
  started : object.pending ≠ [] →
    ∃ starter, .started starter ⟨index⟩ ⟨object.timeoutId.toUInt64⟩ ∈ history

def TimeoutsKnown (wiring : Wiring) (history : List NetworkEvent)
    (timeouts : List TestTimeout) : Prop :=
  ∀ index object, timeouts[index]? = some object → TimeoutKnown wiring history index object

section Known

variable {history : List NetworkEvent} {timeouts : List TestTimeout} {index : Nat}
  {object changed : TestTimeout}

theorem TimeoutsKnown.extend (known : TimeoutsKnown wiring history timeouts)
    (event : NetworkEvent) : TimeoutsKnown wiring (event :: history) timeouts := by
  intro index object bound
  rcases known index object bound with ⟨⟨creator, created, wrapper⟩, started⟩
  refine ⟨⟨creator, List.mem_cons_of_mem _ created, wrapper⟩, fun pending => ?_⟩
  rcases started pending with ⟨starter, started⟩
  exact ⟨starter, List.mem_cons_of_mem _ started⟩

theorem TimeoutsKnown.create (known : TimeoutsKnown wiring history timeouts)
    (endpoint : Endpoint) :
    TimeoutsKnown wiring (.created endpoint ⟨timeouts.length⟩ :: history)
      (timeouts ++ [.new (wiring.wrapper endpoint)]) := by
  intro index object bound
  rw [List.getElem?_append] at bound
  split_ifs at bound with old
  · exact known.extend _ index object bound
  · rcases List.getElem?_eq_some_iff.mp bound with ⟨short, new⟩
    rw [List.length_singleton] at short
    have last : index = timeouts.length := by omega
    rw [List.getElem_singleton] at new
    subst last new
    exact ⟨⟨endpoint, List.mem_cons_self, rfl⟩, absurd rfl⟩

theorem TimeoutsKnown.set (known : TimeoutsKnown wiring history timeouts)
    (bound : timeouts[index]? = some object) (wrapper : changed.wrapper = object.wrapper)
    (started : changed.pending ≠ [] →
      ∃ starter, .started starter ⟨index⟩ ⟨changed.timeoutId.toUInt64⟩ ∈ history) :
    TimeoutsKnown wiring history (timeouts.set index changed) := by
  intro other found foundBound
  by_cases same : index = other
  · subst same
    rw [List.getElem?_set_self (List.getElem?_eq_some_iff.mp bound).1] at foundBound
    cases foundBound
    rcases (known index object bound).created with ⟨creator, created, creatorWrapper⟩
    exact ⟨⟨creator, created, creatorWrapper.trans wrapper.symm⟩, started⟩
  · rw [List.getElem?_set_ne same] at foundBound
    exact known other found foundBound

theorem TimeoutsKnown.start (known : TimeoutsKnown wiring history timeouts)
    (bound : timeouts[index]? = some object) (endpoint : Endpoint)
    (timeoutId : Native.TimeoutId) :
    TimeoutsKnown wiring (.started endpoint ⟨index⟩ timeoutId :: history)
      (timeouts.set index (object.start timeoutId.value.toInt64)) := by
  refine (known.extend _).set bound ?_ ?_
  · rfl
  · intro _
    exact ⟨endpoint, List.mem_cons_self⟩

theorem TimeoutsKnown.erase (known : TimeoutsKnown wiring history timeouts)
    (bound : timeouts[index]? = some object) (future : Nat) :
    TimeoutsKnown wiring history
      (timeouts.set index { object with pending := object.pending.erase future }) := by
  refine known.set bound ?_ ?_
  · rfl
  · intro pending
    apply (known index object bound).started
    intro nothing
    apply pending
    rw [nothing]
    rfl

end Known

/-! ## What the wrappers do to them -/

section Answering

variable {history : List NetworkEvent} {endpoint : Endpoint} {before after : Harness σ sizeType}

def ApplicationCall.aboutTimeouts : ApplicationCall → Bool
  | .createTimeout _ | .timeoutStart _ _ _ | .timeoutStop _ => true
  | _ => false

theorem Answers.timeouts {call : ApplicationCall} {reply : call.Reply}
    (answers : Answers wiring endpoint before call reply after)
    (other : call.aboutTimeouts = false) : after.timeouts = before.timeouts := by
  cases answers with
  | createTimeout => cases other
  | start bound => cases other
  | stop bound started => cases other
  | _ => rfl

theorem Answers.stopped {timeout : Java.Timeout} {reply : Unit}
    (answers : Answers wiring endpoint before (.timeoutStop timeout) reply after)
    (known : TimeoutsKnown wiring history before.timeouts) :
    TimeoutsKnown wiring history after.timeouts := by
  cases answers with
  | stop bound started => exact known.erase bound _
  | report report => cases report

theorem Answers.restarted {timeout : Java.Timeout} {duration : Int64}
    {timeoutId : Native.TimeoutId} {reply : Unit}
    (answers : Answers wiring endpoint before
      (.timeoutStart timeout duration timeoutId.value.toInt64) reply after)
    (known : TimeoutsKnown wiring history before.timeouts) :
    TimeoutsKnown wiring (.started endpoint timeout timeoutId :: history) after.timeouts := by
  cases answers with
  | start bound => exact known.start bound endpoint timeoutId
  | report report => cases report

theorem Converses.timeoutsKnown {wrapper : WrapperCall} {answer : wrapper.Answer}
    (converses : Converses wiring endpoint (wrapper.dialogue libraries) before answer after)
    (known : TimeoutsKnown wiring history before.timeouts) (accepted : Bool) :
    TimeoutsKnown wiring (wrapper.event endpoint accepted answer :: history) after.timeouts := by
  cases wrapper with
  | callback event =>
      have same : after.timeouts = before.timeouts := by
        cases event <;>
          (rcases Converses.answer converses with ⟨reply, answers⟩; exact answers.timeouts rfl)
      rw [same]
      exact known.extend _
  | createTimeout precision =>
      cases converses with
      | ask answers rest =>
          cases rest
          cases answers with
          | createTimeout => exact known.create endpoint
          | report report => cases report
  | timeoutStart timeout duration timeoutId =>
      rcases Converses.answer converses with ⟨reply, answers⟩
      exact answers.restarted known
  | timeoutStop timeout =>
      rcases Converses.answer converses with ⟨reply, answers⟩
      exact (answers.stopped known).extend _
  | timeoutRestart timeout duration timeoutId =>
      cases converses with
      | ask stopped started =>
          rcases Converses.answer started with ⟨reply, answers⟩
          exact answers.restarted (stopped.stopped known)
  | _ =>
      rcases Converses.answer converses with ⟨reply, answers⟩
      rw [answers.timeouts rfl]
      exact known.extend _

end Answering

/-! ## One step -/

structure TimeoutsTraced (wiring : Wiring) (harness : Harness σ sizeType)
    (history : List NetworkEvent) : Prop where
  known : TimeoutsKnown wiring history harness.timeouts
  calling : ∀ dest operation timeoutId, harness.executor = .calling dest operation →
    operation.entry = some (.handleTimeout timeoutId) → Expires wiring history dest timeoutId
  entered : ∀ later earlier dest timeoutId,
    history = later ++ .entered dest (some (.handleTimeout timeoutId)) :: earlier →
      Expires wiring earlier dest timeoutId

section Steps

variable {first last : Harness σ sizeType} {event : NetworkEvent} {history : List NetworkEvent}

theorem TimeoutsTraced.extend (traced : TimeoutsTraced wiring first history)
    (known : TimeoutsKnown wiring (event :: history) last.timeouts)
    (calling : ∀ dest operation timeoutId, last.executor = .calling dest operation →
      operation.entry = some (.handleTimeout timeoutId) →
        Expires wiring (event :: history) dest timeoutId)
    (entered : ∀ dest timeoutId, event = .entered dest (some (.handleTimeout timeoutId)) →
      Expires wiring history dest timeoutId) :
    TimeoutsTraced wiring last (event :: history) where
  known := known
  calling := calling
  entered later earlier dest timeoutId split := by
    cases later with
    | nil =>
        cases split
        exact entered dest timeoutId rfl
    | cons head rest =>
        rw [List.cons_append, List.cons.injEq] at split
        exact traced.entered rest earlier dest timeoutId split.2

theorem event_notTimeout {endpoint : Endpoint} {accepted : Bool} {wrapper : WrapperCall}
    {answer : wrapper.Answer} {dest : Endpoint} {operation : Option NativeOperation} :
    wrapper.event endpoint accepted answer ≠ .entered dest operation := by
  cases wrapper with
  | callback event => cases event <;> exact nofun
  | _ => exact nofun

theorem NetworkStep.traced
    (step : NetworkStep libraries factory dcsctp wiring first event last)
    (traced : TimeoutsTraced wiring first history) :
    TimeoutsTraced wiring last (event :: history) := by
  have known := traced.known.extend event
  have calling : ∀ dest operation timeoutId, first.executor = .calling dest operation →
      operation.entry = some (.handleTimeout timeoutId) →
        Expires wiring (event :: history) dest timeoutId :=
    fun dest operation timeoutId calls entry =>
      (traced.calling dest operation timeoutId calls entry).mono (List.subset_cons_self _ _)
  cases step with
  | call fromMain created free =>
      refine traced.extend known calling fun dest timeoutId entered => ?_
      exact absurd (NetworkEvent.entered.inj entered).2 (entry_fromMain fromMain timeoutId)
  | takePacket idle queue ahead =>
      refine traced.extend known (fun dest operation timeoutId calls entry => ?_) nofun
      cases calls
      rw [entry_task] at entry
      cases entry
  | @takeTimeout index future object idle bound pending =>
      refine traced.extend (known.erase bound future)
        (fun dest operation timeoutId calls entry => ?_) nofun
      cases calls
      cases entry
      have started := (known index object bound).started (List.ne_nil_of_mem pending)
      rcases (known index object bound).created with ⟨creator, created, wrapper⟩
      rcases started with ⟨starter, started⟩
      exact ⟨creator, starter, ⟨index⟩, created, started, wrapper⟩
  | fail calls null => exact traced.extend known (fun _ _ _ calls => nomatch calls) nofun
  | execute calls created free =>
      refine traced.extend known (fun _ _ _ calls => nomatch calls)
        fun dest timeoutId entered => ?_
      rcases NetworkEvent.entered.inj entered with ⟨same, entry⟩
      subst same
      exact traced.calling _ _ timeoutId calls entry
  | ask top converses =>
      refine traced.extend (converses.timeoutsKnown traced.known _)
        (fun dest operation timeoutId calls => ?_)
        fun _ _ entered => absurd entered event_notTimeout
      exact calling dest operation timeoutId (converses.frame.2.2.symm.trans calls)
  | @finish endpoint top =>
      refine traced.extend ?_ (fun dest operation timeoutId calls => ?_) nofun
      · rw [Harness.release_timeouts]
        exact known
      · have unreleased : (first.setActive endpoint none).executor = .calling dest operation :=
          Harness.release_calling calls
        exact calling dest operation timeoutId unreleased
  | _ => exact traced.extend known calling nofun

end Steps

/-! ## Every run -/

theorem Harness.Initial.traced {harness : Harness σ sizeType} (initial : harness.Initial) :
    TimeoutsTraced wiring harness [] where
  known := by
    intro index object bound
    rw [initial.timeouts] at bound
    cases bound
  calling dest operation timeoutId calls := by
    rw [initial.executor] at calls
    cases calls
  entered later earlier dest timeoutId split := by simp at split

/-- Whenever dcsctp is entered because a timeout has expired, the timeout was made and
started before, by callbacks whose timeouts go to this socket. -/
theorem timeouts_traced {first last : Harness σ sizeType} {before after : List NetworkEvent}
    {dest : Endpoint} {timeoutId : Native.TimeoutId}
    (initial : (network libraries factory dcsctp wiring sizeType).initial first)
    (run : (network libraries factory dcsctp wiring sizeType).Run first
      (before ++ .entered dest (some (.handleTimeout timeoutId)) :: after) last) :
    Expires wiring before dest timeoutId := by
  have traced := run.recorded (TimeoutsTraced wiring)
    (fun _ _ _ _ step traced => NetworkStep.traced step traced)
    (Harness.Initial.traced initial)
  have expires : Expires wiring before.reverse dest timeoutId := by
    apply traced.entered after.reverse
    simp
  exact expires.mono fun event member => List.mem_reverse.mp member

/-- In the test's connection the server's timeouts expire at the client. -/
theorem testSimpleConnection_expires {first last : Harness σ sizeType}
    {before after : List NetworkEvent} {dest : Endpoint} {timeoutId : Native.TimeoutId}
    (initial : first.Initial)
    (run : (network libraries factory dcsctp testSimpleConnection sizeType).Run first
      (before ++ .entered dest (some (.handleTimeout timeoutId)) :: after) last) :
    dest = .client := by
  rcases timeouts_traced initial run with ⟨_, _, _, _, _, wrapper⟩
  exact wrapper.symm

/-- Every timeout that expires at a socket was made by it. -/
def TimeoutsReturn (wiring : Wiring) : Prop :=
  ∀ {σ : Type} {sizeType : SizeType} (libraries : Libraries) (factory : DcSctpFactory σ)
    (dcsctp : DcSctpMachine σ) (first last : Harness σ sizeType)
    (before after : List NetworkEvent) (dest : Endpoint) (timeoutId : Native.TimeoutId),
    first.Initial →
    (network libraries factory dcsctp wiring sizeType).Run first
      (before ++ .entered dest (some (.handleTimeout timeoutId)) :: after) last →
    ∃ starter timeout, .created dest timeout ∈ before ∧
      .started starter timeout timeoutId ∈ before

def timingSocket : DcSctpMachine Nat
  | .connect =>
      .ask (.ask (.createTimeout .kLow)) fun timeout =>
        .ask (.ask (.timeoutStart timeout ⟨100⟩ ⟨7⟩)) fun _ => .reply ()
  | operation => echoingSocket operation

def timingEvents (endpoint : Endpoint) : List NetworkEvent :=
  [.other, .other, .other, .other, .other, .other, .entered endpoint (some .connect),
    .created endpoint ⟨0⟩, .started endpoint ⟨0⟩ ⟨7⟩, .other, .other]

theorem timing_run (wiring : Wiring) (endpoint : Endpoint) : ∃ events last,
    (network asciiLibraries quietFactory timingSocket wiring .jsize).Run beforeTest events last ∧
      events = timingEvents endpoint ++
        [.entered (wiring.wrapper endpoint) (some (.handleTimeout ⟨7⟩))] := by
  have run := (@both_created .jsize asciiLibraries timingSocket wiring).append
    (.cons (@NetworkStep.call _ _ _ _ _ _ _ endpoint .connect trivial
      (Option.some_ne_none 0) rfl)
    (.cons (@NetworkStep.ask _ _ _ _ _ _ _ _ endpoint (.createTimeout .kLow) _ _
      (Function.update_self _ _ _) (.ask .createTimeout .reply))
    (.cons (@NetworkStep.ask _ _ _ _ _ _ _ _ endpoint (.timeoutStart _ ⟨100⟩ ⟨7⟩) _ _
      (Function.update_self _ _ _) (.ask (.start rfl) .reply))
    (.cons (@NetworkStep.finish _ _ _ _ _ _ _ endpoint (Function.update_self _ _ _))
    (.cons (@NetworkStep.takeTimeout _ _ _ _ _ _ _ 0 0 _ rfl rfl List.mem_cons_self)
    (.cons (@NetworkStep.execute _ _ _ _ _ _ _ (wiring.wrapper endpoint) _ rfl
      (Option.some_ne_none 0)
      (by simp [Harness.release, Harness.setActive, bothCreated]))
    (.nil _)))))))
  exact ⟨_, _, run, rfl⟩

/-- The timeouts of both endpoints come back to them exactly when each one's callbacks
have the endpoint's own wrapper. -/
theorem timeouts_return_iff (wiring : Wiring) :
    TimeoutsReturn wiring ↔ ∀ endpoint, wiring.wrapper endpoint = endpoint := by
  constructor
  · intro returns endpoint
    rcases timing_run wiring endpoint with ⟨events, last, run, same⟩
    subst same
    rcases returns _ _ _ _ _ _ _ _ _ beforeTest_initial run with ⟨_, _, created, _⟩
    simp [timingEvents] at created
    exact created.1
  · intro own σ sizeType libraries factory dcsctp first last before after dest timeoutId initial run
    rcases timeouts_traced initial run with ⟨creator, starter, timeout, created, started, wrapper⟩
    rw [own] at wrapper
    subst wrapper
    exact ⟨starter, timeout, created, started⟩

end Dcsctp4j
