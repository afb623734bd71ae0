import Dcsctp4j.PacketDelivery

/-! # Packets that arrive

Whatever the two endpoints have done so far, their threads can go on until every
packet on its way has been received. No method waits for the other socket, and the
executor is free again after each.
-/

namespace Dcsctp4j

open NativeFrame Transition

variable {σ : Type} {sizeType : SizeType} {libraries : Libraries} {factory : DcSctpFactory σ}
  {dcsctp : DcSctpMachine σ} {wiring : Wiring}

/-! ## Questions that have an answer -/

/-- The application has an answer to what dcsctp asks: a timeout to stop has been
started, and a range for a random number is not empty. -/
def Harness.Answerable (libraries : Libraries) (wiring : Wiring) (harness : Harness σ sizeType) :
    Prop :=
  ∀ (endpoint : Endpoint) (wrapper : WrapperCall) (next : wrapper.Answer → Activity σ),
    harness.active endpoint = some (.ask (.ask wrapper) next) →
      ∃ answer after, Converses wiring endpoint (wrapper.dialogue libraries) harness answer after

/-! ## Methods that end -/

/-- The executor's method is one that runs, and a socket that is being created is not
looked at. -/
structure Harness.Underway (harness : Harness σ sizeType) : Prop where
  running : ∀ endpoint, harness.executor = .running endpoint → harness.active endpoint ≠ none
  creating : ∀ endpoint activity, harness.active endpoint = some activity →
    harness.sockets endpoint = none → activity.Asks (· ≠ .load)

theorem activity_asks (factory : DcSctpFactory σ) (logPrefix : NativeText) (observed : Bool)
    (options : Native.DcSctpOptions) :
    (factory.activity logPrefix observed options).Asks (· ≠ .load) := by
  apply Dialogue.Asks.bind
  · generalize factory logPrefix observed options = dialogue
    induction dialogue with
    | reply socket => trivial
    | ask call next induction => exact ⟨nofun, induction⟩
  · exact fun socket => ⟨nofun, fun _ => trivial⟩

namespace Harness

variable {harness : Harness σ sizeType} {endpoint other : Endpoint}

theorem Underway.setActive (underway : harness.Underway) {activity : Activity σ}
    (creating : harness.sockets endpoint = none → activity.Asks (· ≠ .load)) :
    (harness.setActive endpoint (some activity)).Underway where
  running other runs := by
    by_cases same : other = endpoint
    · subst same
      rw [setActive_self]
      exact Option.some_ne_none activity
    · rw [setActive_of_ne same]
      exact underway.running other runs
  creating other running active null := by
    by_cases same : other = endpoint
    · subst same
      rw [setActive_self] at active
      cases active
      exact creating null
    · rw [setActive_of_ne same] at active
      exact underway.creating other running active null

theorem Underway.setSocket (underway : harness.Underway) (endpoint : Endpoint) (socket : σ) :
    (harness.setSocket endpoint socket).Underway where
  running := underway.running
  creating other activity active null := by
    by_cases same : other = endpoint
    · subst same
      exact absurd ((Function.update_self _ _ _).symm.trans null) (Option.some_ne_none socket)
    · exact underway.creating other activity active
        ((Function.update_of_ne same _ _).symm.trans null)

theorem Underway.executor {next : Harness σ sizeType} (underway : harness.Underway)
    (sockets : next.sockets = harness.sockets) (active : next.active = harness.active)
    (still : ∀ endpoint, next.executor = .running endpoint →
      harness.executor = .running endpoint) : next.Underway where
  running endpoint runs := by
    rw [active]
    exact underway.running endpoint (still endpoint runs)
  creating endpoint activity := by
    rw [sockets, active]
    exact underway.creating endpoint activity

end Harness

section Steps

variable {first last : Harness σ sizeType} {event : NetworkEvent}

theorem NetworkStep.underway
    (step : NetworkStep libraries factory dcsctp wiring first event last)
    (underway : first.Underway) : last.Underway := by
  cases step with
  | create null free => exact underway.setActive fun _ => activity_asks _ _ _ _
  | call fromMain created free => exact underway.setActive fun null => absurd null created
  | takePacket idle queue ahead => exact underway.executor rfl rfl nofun
  | takeTimeout idle bound pending => exact underway.executor rfl rfl nofun
  | fail calling null => exact underway.executor rfl rfl nofun
  | @execute endpoint operation calling created free =>
      have begun := @Harness.Underway.setActive _ _ _ endpoint underway
        (operation.activity dcsctp) fun null => absurd null created
      refine ⟨fun other runs => ?_, begun.creating⟩
      cases runs
      exact fun none => Option.some_ne_none _ ((Harness.setActive_self _).symm.trans none)
  | load top created =>
      exact underway.setActive fun null => absurd (created.symm.trans null) (Option.some_ne_none _)
  | @store endpoint socket next top =>
      apply (underway.setSocket endpoint socket).setActive
      intro null
      exact absurd ((Function.update_self _ _ _).symm.trans null) (Option.some_ne_none socket)
  | @ask after endpoint wrapper next answer top converses =>
      rcases converses.frame with ⟨sockets, active, executor⟩
      apply (underway.executor sockets active fun _ runs => executor.symm.trans runs).setActive
      intro null
      rw [sockets] at null
      exact (underway.creating endpoint _ top null).2 answer
  | @finish endpoint top =>
      refine ⟨fun other runs => ?_, fun other activity active null => ?_⟩
      · rcases Harness.release_running runs with ⟨runs, distinct⟩
        rw [Harness.release_active, Harness.setActive_of_ne distinct]
        exact underway.running other runs
      · rw [Harness.release_active] at active
        rw [Harness.release_sockets] at null
        by_cases same : other = endpoint
        · subst same
          rw [Harness.setActive_self] at active
          cases active
        · rw [Harness.setActive_of_ne same] at active
          exact underway.creating other activity active null

theorem Harness.Initial.underway {harness : Harness σ sizeType} (initial : harness.Initial) :
    harness.Underway where
  running endpoint runs := by
    rw [initial.executor] at runs
    cases runs
  creating endpoint activity active := by
    rw [initial.active] at active
    cases active

end Steps

/-! ## Every method ends -/

namespace Harness

variable {first second : Harness σ sizeType} {endpoint dest : Endpoint}

theorem release_executor (same : second.executor = first.executor) :
    (second.release endpoint).executor = (first.release endpoint).executor := by
  by_cases runs : first.executor = .running endpoint
  · rw [release_self runs, release_self (same.trans runs)]
  · rw [release_of_ne runs, release_of_ne fun other => runs (same.symm.trans other), same]

theorem inHand_cases (harness : Harness σ sizeType) (dest : Endpoint) :
    harness.inHand dest = [] ∨ ∃ packet, harness.inHand dest = [packet] := by
  rw [inHand]
  split
  · split_ifs
    · rename_i operation _ _
      rcases operation.packet with _ | packet
      · exact .inl rfl
      · exact .inr ⟨packet, rfl⟩
    · exact .inl rfl
  · exact .inl rfl

theorem queued_first {tasks : List PacketTask} {packet : List UInt8} {rest : List (List UInt8)}
    (first : queued tasks dest = packet :: rest) :
    ∃ earlier task later, tasks = earlier ++ task :: later ∧ task.dest = dest ∧
      (∀ other ∈ earlier, other.dest ≠ task.dest) ∧
        fromByteArray task.data.elements = packet := by
  rcases List.map_eq_cons_iff.mp first with ⟨task, others, filtered, data, -⟩
  rcases List.filter_eq_cons_iff.mp filtered with
    ⟨earlier, later, split, ahead, towards, -⟩
  rw [decide_eq_true_eq] at towards
  refine ⟨earlier, task, later, split, towards, fun other member => ?_, data⟩
  rw [towards]
  simpa using ahead other member

theorem inHand_running (runs : first.executor = .running endpoint) : first.inHand dest = [] := by
  rw [inHand, runs]

end Harness

section Progress

variable {harness : Harness σ sizeType} {endpoint dest : Endpoint}

theorem reachable_underway
    (reachable : (network libraries factory dcsctp wiring sizeType).Reachable harness) :
    harness.Underway := by
  have invariant :
      (network libraries factory dcsctp wiring sizeType).Invariant Harness.Underway :=
    ⟨fun _ initial => Harness.Initial.underway initial, fun _ _ _ underway step =>
      NetworkStep.underway step underway⟩
  exact invariant.reachable reachable

theorem reachable_deliverable
    (reachable : (network libraries factory dcsctp wiring sizeType).Reachable harness) :
    Deliverable harness := by
  have invariant : (network libraries factory dcsctp wiring sizeType).Invariant Deliverable :=
    ⟨fun _ initial => Harness.Initial.deliverable initial, fun _ _ _ deliverable step =>
      NetworkStep.deliverable step deliverable⟩
  exact invariant.reachable reachable

theorem run_passes {events : List NetworkEvent} {last : Harness σ sizeType}
    (reachable : (network libraries factory dcsctp wiring sizeType).Reachable harness)
    (run : (network libraries factory dcsctp wiring sizeType).Run harness events last)
    (dest : Endpoint) :
    harness.packetsFor dest ++ events.flatMap (acceptedFor wiring dest) =
      events.flatMap (receivedBy dest) ++ last.packetsFor dest :=
  run.conserves (Harness.packetsFor dest) (acceptedFor wiring dest) (receivedBy dest)
    (fun _ _ _ deliverable step => NetworkStep.deliverable step deliverable)
    (fun _ _ _ deliverable step => NetworkStep.passes step deliverable dest)
    (reachable_deliverable reachable)

variable (answerable : ∀ harness,
  (network libraries factory dcsctp wiring sizeType).Reachable harness →
    harness.Answerable libraries wiring)

include answerable

/-- The induction is on what dcsctp still has to do in the method. -/
theorem method_ends {activity : Activity σ}
    (reachable : (network libraries factory dcsctp wiring sizeType).Reachable harness)
    (active : harness.active endpoint = some activity) :
    ∃ events last, (network libraries factory dcsctp wiring sizeType).Run harness events last ∧
      (∀ dest, events.flatMap (receivedBy dest) = []) ∧ last.active endpoint = none ∧
        last.executor = (harness.release endpoint).executor := by
  induction activity generalizing harness with
  | reply value =>
      refine ⟨_, _, .cons (.finish active) (.nil _), fun _ => rfl, ?_, ?_⟩
      · rw [Harness.release_active, Harness.setActive_self]
      · exact Harness.release_executor rfl
  | ask request next induction =>
      have goesOn : ∀ event middle answer,
          (network libraries factory dcsctp wiring sizeType).step harness event middle →
          middle.active endpoint = some (next answer) → middle.executor = harness.executor →
          (∀ dest, receivedBy dest event = []) →
          ∃ events last,
            (network libraries factory dcsctp wiring sizeType).Run harness events last ∧
            (∀ dest, events.flatMap (receivedBy dest) = []) ∧ last.active endpoint = none ∧
              last.executor = (harness.release endpoint).executor := by
        intro event middle answer step rest executor silent
        rcases induction answer (reachable.run (.cons step (.nil _))) rest with
          ⟨events, last, run, received, ended, released⟩
        refine ⟨event :: events, last, .cons step run, fun dest => ?_, ended, ?_⟩
        · rw [List.flatMap_cons, silent, received]
          rfl
        · rw [released]
          exact Harness.release_executor executor
      cases request with
      | load =>
          rcases created : harness.sockets endpoint with _ | socket
          · have asks := (reachable_underway reachable).creating endpoint _ active created
            exact absurd rfl asks.1
          · exact goesOn _ _ _ (.load active created) (Harness.setActive_self _) rfl fun _ => rfl
      | store socket =>
          exact goesOn _ _ _ (.store active) (Harness.setActive_self _) rfl fun _ => rfl
      | ask wrapper =>
          rcases answerable harness reachable endpoint wrapper next active with
            ⟨answer, after, converses⟩
          exact goesOn _ _ _ (.ask active converses) (Harness.setActive_self _)
            converses.frame.2.2 fun dest => receivedBy_event dest endpoint _ wrapper answer

theorem running_idles
    (reachable : (network libraries factory dcsctp wiring sizeType).Reachable harness)
    (runs : harness.executor = .running endpoint) :
    ∃ events last, (network libraries factory dcsctp wiring sizeType).Run harness events last ∧
      (∀ dest, events.flatMap (receivedBy dest) = []) ∧ last.executor = .idle := by
  rcases active : harness.active endpoint with _ | activity
  · exact absurd active ((reachable_underway reachable).running endpoint runs)
  · rcases method_ends answerable reachable active with
      ⟨events, last, run, silent, ended, released⟩
    refine ⟨events, last, run, silent, ?_⟩
    rw [released, Harness.release_self runs]

/-- The thread in the socket that the executor waits for leaves it. -/
theorem calling_enters {operation : JavaOperation sizeType}
    (reachable : (network libraries factory dcsctp wiring sizeType).Reachable harness)
    (calls : harness.executor = .calling endpoint operation) :
    ∃ events last, (network libraries factory dcsctp wiring sizeType).Run harness events last ∧
      (∀ dest, events.flatMap (receivedBy dest) = []) ∧ last.active endpoint = none ∧
        last.executor = .calling endpoint operation := by
  rcases active : harness.active endpoint with _ | activity
  · exact ⟨[], harness, .nil harness, fun _ => rfl, active, calls⟩
  · rcases method_ends answerable reachable active with
      ⟨events, last, run, silent, ended, released⟩
    refine ⟨events, last, run, silent, ended, ?_⟩
    rw [released, Harness.release_of_ne (by simp [calls]), calls]

theorem executor_idles
    (reachable : (network libraries factory dcsctp wiring sizeType).Reachable harness)
    (dest : Endpoint) :
    ∃ events last, (network libraries factory dcsctp wiring sizeType).Run harness events last ∧
      events.flatMap (receivedBy dest) = harness.inHand dest ∧ last.executor = .idle := by
  rcases executor : harness.executor with _ | ⟨endpoint, operation⟩ | endpoint
  · exact ⟨[], harness, .nil harness, (Harness.inHand_idle executor dest).symm, executor⟩
  · rcases calling_enters answerable reachable executor with
      ⟨events, free, run, silent, inactive, calls⟩
    have freeReachable := reachable.run run
    rw [Harness.inHand_calling executor]
    rcases created : free.sockets endpoint with _ | socket
    · have noPacket : operation.packet = none := by
        by_contra packet
        exact (reachable_deliverable freeReachable).calling endpoint operation calls packet created
      have failed : (network libraries factory dcsctp wiring sizeType).step free .other
          { free with executor := .idle } := NetworkStep.fail calls created
      refine ⟨events ++ [.other], _, run.snoc failed, ?_, rfl⟩
      rw [List.flatMap_append, silent, noPacket]
      exact (ite_self _).symm
    · have exists_ : free.sockets endpoint ≠ none := by
        rw [created]
        exact Option.some_ne_none socket
      have entered := run.snoc (.execute calls exists_ inactive)
      rcases running_idles answerable (reachable.run entered) rfl with
        ⟨later, last, laterRun, laterSilent, idle⟩
      refine ⟨_, last, entered.append laterRun, ?_, idle⟩
      rw [List.flatMap_append, List.flatMap_append, silent, laterSilent, List.append_nil,
        List.nil_append, List.flatMap_singleton]
      rfl
  · rcases running_idles answerable reachable executor with ⟨events, last, run, silent, idle⟩
    exact ⟨events, last, run, (silent dest).trans (Harness.inHand_running executor).symm, idle⟩

theorem next_arrives {packet : List UInt8} {rest : List (List UInt8)}
    (reachable : (network libraries factory dcsctp wiring sizeType).Reachable harness)
    (waiting : harness.packetsFor dest = packet :: rest) :
    ∃ events last, (network libraries factory dcsctp wiring sizeType).Run harness events last ∧
      events.flatMap (receivedBy dest) = [packet] := by
  rcases executor_idles answerable reachable dest with ⟨events, free, run, received, idle⟩
  rcases harness.inHand_cases dest with empty | ⟨held, hand⟩
  · have conserved := run_passes reachable run dest
    rw [waiting, received, empty, List.nil_append, Harness.packetsFor,
      Harness.inHand_idle idle, List.nil_append] at conserved
    rcases Harness.queued_first conserved.symm with
      ⟨earlier, task, later, tasks, towards, ahead, data⟩
    have taken := run.snoc (.takePacket idle tasks ahead)
    rcases executor_idles answerable (reachable.run taken) dest with
      ⟨more, last, moreRun, moreReceived, moreIdle⟩
    refine ⟨_, last, taken.append moreRun, ?_⟩
    rw [List.flatMap_append, List.flatMap_append, received, empty, moreReceived,
      Harness.inHand_calling rfl, if_pos towards, packet_task, data]
    rfl
  · rw [Harness.packetsFor, hand] at waiting
    cases waiting
    exact ⟨events, free, run, received.trans hand⟩

theorem task_begins {operation : JavaOperation sizeType}
    (reachable : (network libraries factory dcsctp wiring sizeType).Reachable harness)
    (calls : harness.executor = .calling endpoint operation)
    (created : harness.sockets endpoint ≠ none) :
    ∃ events last, (network libraries factory dcsctp wiring sizeType).Run harness events last ∧
      last.executor = .running endpoint ∧
        last.active endpoint = some (operation.activity dcsctp) := by
  rcases calling_enters answerable reachable calls with
    ⟨events, free, run, -, inactive, stillCalls⟩
  have stillCreated : free.sockets endpoint ≠ none :=
    @System.Run.preserves _ _ _ (fun harness => harness.sockets endpoint ≠ none) (fun _ => True)
      (fun _ _ _ _ created step => NetworkStep.sockets_kept step created) _ _ _ run
      (fun _ _ => trivial) created
  exact ⟨_, _, run.snoc (.execute stillCalls stillCreated inactive), rfl,
    Harness.setActive_self _⟩

end Progress

structure Harness.Unstuck (libraries : Libraries) (factory : DcSctpFactory σ)
    (dcsctp : DcSctpMachine σ) (wiring : Wiring) (harness : Harness σ sizeType) : Prop where
  /-- All the packets on their way to a socket are received, in order. -/
  arrives : ∀ dest, ∃ events last,
    (network libraries factory dcsctp wiring sizeType).Run harness events last ∧
      events.flatMap (receivedBy dest) = harness.packetsFor dest
  /-- The method that runs in a socket ends. -/
  ends : ∀ endpoint, ∃ events last,
    (network libraries factory dcsctp wiring sizeType).Run harness events last ∧
      last.active endpoint = none
  /-- An executor that waits for a socket gets to its task there. -/
  begins : ∀ endpoint operation, harness.executor = .calling endpoint operation →
    harness.sockets endpoint ≠ none → ∃ events last,
      (network libraries factory dcsctp wiring sizeType).Run harness events last ∧
        last.executor = .running endpoint ∧
          last.active endpoint = some (operation.activity dcsctp)
  /-- The executor is idle again, and the packet in its hands is received. -/
  idles : ∀ dest, ∃ events last,
    (network libraries factory dcsctp wiring sizeType).Run harness events last ∧
      events.flatMap (receivedBy dest) = harness.inHand dest ∧ last.executor = .idle

/-- Whatever has happened, packets arrive, methods end and the executor gets free, as
long as dcsctp asks what can be answered. -/
theorem packets_arrive {harness : Harness σ sizeType}
    (answerable : ∀ harness,
      (network libraries factory dcsctp wiring sizeType).Reachable harness →
        harness.Answerable libraries wiring)
    (reachable : (network libraries factory dcsctp wiring sizeType).Reachable harness) :
    harness.Unstuck libraries factory dcsctp wiring where
  arrives dest := by
    apply reachable.drains (Harness.packetsFor dest) (acceptedFor wiring dest) (receivedBy dest)
      ?_ ?_ (harness.packetsFor dest) [] (List.append_nil _).symm
    · intro _ _ _ reachable step
      exact NetworkStep.passes step (reachable_deliverable reachable) dest
    · intro _ _ _ reachable waiting
      exact next_arrives answerable reachable waiting
  ends endpoint := by
    rcases active : harness.active endpoint with _ | activity
    · exact ⟨[], harness, .nil harness, active⟩
    · rcases method_ends answerable reachable active with ⟨events, last, run, -, ended, -⟩
      exact ⟨events, last, run, ended⟩
  begins _ _ calls created := task_begins answerable reachable calls created
  idles dest := executor_idles answerable reachable dest

/-! ## What can always be answered -/

def Request.Only {State Query : Type} (only : Query → Prop) : Request State Query → Prop
  | .ask query => only query
  | _ => True

section Asking

variable {only : WrapperCall → Prop} {harness : Harness σ sizeType}

def Harness.AsksOnly (only : WrapperCall → Prop) (harness : Harness σ sizeType) : Prop :=
  ∀ endpoint activity, harness.active endpoint = some activity →
    activity.Asks (Request.Only only)

theorem Harness.AsksOnly.setActive (asksOnly : harness.AsksOnly only) {endpoint : Endpoint}
    {activity : Option (Activity σ)}
    (asks : ∀ running, activity = some running → running.Asks (Request.Only only)) :
    (harness.setActive endpoint activity).AsksOnly only := by
  intro other running active
  by_cases same : other = endpoint
  · subst same
    rw [Harness.setActive_self] at active
    exact asks running active
  · rw [Harness.setActive_of_ne same] at active
    exact asksOnly other running active

theorem factoryActivity_asks
    (factoryAsks : ∀ logPrefix observed options, (factory logPrefix observed options).Asks only)
    (logPrefix : NativeText) (observed : Bool) (options : Native.DcSctpOptions) :
    (factory.activity logPrefix observed options).Asks (Request.Only only) := by
  apply Dialogue.Asks.bind
  · exact (factoryAsks logPrefix observed options).run fun call asked => ⟨asked, fun _ => trivial⟩
  · exact fun socket => ⟨trivial, fun _ => trivial⟩

theorem operationActivity_asks
    (dcsctpAsks : ∀ operation, (dcsctp operation).Asks (Request.Only only))
    (operation : JavaOperation sizeType) :
    (operation.activity dcsctp).Asks (Request.Only only) := by
  apply Dialogue.Asks.bind
  · exact operation.meaning.asks_any.run fun entered _ => dcsctpAsks entered
  · exact fun _ => trivial

theorem NetworkStep.asksOnly {first last : Harness σ sizeType} {event : NetworkEvent}
    (factoryAsks : ∀ logPrefix observed options, (factory logPrefix observed options).Asks only)
    (dcsctpAsks : ∀ operation, (dcsctp operation).Asks (Request.Only only))
    (step : NetworkStep libraries factory dcsctp wiring first event last)
    (asksOnly : first.AsksOnly only) : last.AsksOnly only := by
  cases step with
  | create null free =>
      apply asksOnly.setActive
      rintro _ ⟨⟩
      exact factoryActivity_asks factoryAsks _ _ _
  | call fromMain created free =>
      apply asksOnly.setActive
      rintro _ ⟨⟩
      exact operationActivity_asks dcsctpAsks _
  | execute calling created free =>
      apply asksOnly.setActive
      rintro _ ⟨⟩
      exact operationActivity_asks dcsctpAsks _
  | load top created =>
      apply asksOnly.setActive
      rintro _ ⟨⟩
      exact (asksOnly _ _ top).2 _
  | store top =>
      apply Harness.AsksOnly.setActive asksOnly
      rintro _ ⟨⟩
      exact (asksOnly _ _ top).2 _
  | ask top converses =>
      have same := converses.frame.2.1
      apply Harness.AsksOnly.setActive fun endpoint activity active => asksOnly endpoint activity
        (by rwa [← same])
      rintro _ ⟨⟩
      exact (asksOnly _ _ top).2 _
  | @finish endpoint top =>
      have ended := @Harness.AsksOnly.setActive _ _ _ _ asksOnly endpoint none nofun
      intro other activity active
      rw [Harness.release_active] at active
      exact ended other activity active
  | _ => exact asksOnly

theorem Harness.Initial.asksOnly (initial : harness.Initial) : harness.AsksOnly only := by
  intro endpoint activity active
  rw [initial.active] at active
  cases active

/-- A dcsctp that asks only what can be answered at any time. -/
theorem answerable_of_asks
    (answered : ∀ wrapper, only wrapper → ∀ endpoint (harness : Harness σ sizeType),
      ∃ answer after, Converses wiring endpoint (wrapper.dialogue libraries) harness answer after)
    (factoryAsks : ∀ logPrefix observed options, (factory logPrefix observed options).Asks only)
    (dcsctpAsks : ∀ operation, (dcsctp operation).Asks (Request.Only only))
    (reachable : (network libraries factory dcsctp wiring sizeType).Reachable harness) :
    harness.Answerable libraries wiring := by
  have invariant :
      (network libraries factory dcsctp wiring sizeType).Invariant (Harness.AsksOnly only) :=
    ⟨fun _ initial => Harness.Initial.asksOnly initial, fun _ _ _ asksOnly step =>
      NetworkStep.asksOnly factoryAsks dcsctpAsks step asksOnly⟩
  intro endpoint wrapper next active
  exact answered wrapper (invariant.reachable reachable endpoint _ active).1 endpoint harness

end Asking

/-! ## A packet that waits -/

def callingSocket : DcSctpMachine Nat
  | .receivePacket _ => .reply ()
  | operation => pingingSocket operation

def greeting : WrapperCall := .callback (.sendPacketWithStatus [1, 2])

theorem greeting_answered (endpoint : Endpoint) (harness : Harness σ sizeType) :
    ∃ answer after, Converses testSimpleConnection endpoint (greeting.dialogue libraries) harness
      answer after := by
  have towards : ∃ dest, testSimpleConnection.dest endpoint = some dest := by
    cases endpoint
    · exact ⟨.server, rfl⟩
    · exact ⟨.client, rfl⟩
  rcases towards with ⟨dest, towards⟩
  rcases created : harness.sockets dest with _ | socket
  · exact ⟨_, _, .ask (.notCreated towards created) .reply⟩
  · have exists_ : harness.sockets dest ≠ none := by
      rw [created]
      exact Option.some_ne_none socket
    exact ⟨_, _, .ask (@Answers.submit _ _ _ _ _ dest ⟨[1, 2], by decide⟩ towards exists_) .reply⟩

theorem callingSocket_asks (operation : NativeOperation) :
    (callingSocket operation).Asks (Request.Only (· = greeting)) := by
  cases operation with
  | connect => exact ⟨rfl, fun _ => trivial⟩
  | state => exact ⟨trivial, fun _ => trivial⟩
  | _ => trivial

/-- The executor has the greeting and waits for the server, where the main thread is. -/
theorem packets_arrive_greeting : ∃ harness : Harness Nat .jsize,
    harness.packetsFor .server = [[1, 2]] ∧
      harness.executor = .calling .server
        (PacketTask.operation { data := ⟨[1, 2], by decide⟩, dest := .server }) ∧
      harness.active .server ≠ none ∧
      harness.Unstuck asciiLibraries quietFactory callingSocket testSimpleConnection := by
  have sent := (@both_created .jsize asciiLibraries callingSocket testSimpleConnection).append
    (.cons (@NetworkStep.call _ _ _ _ _ _ _ .client .connect trivial
      (Option.some_ne_none 0) rfl)
    (.cons (@NetworkStep.ask _ _ _ _ _ _ _ _ .client greeting _ _ rfl
      (.ask (@Answers.submit _ _ _ _ _ .server ⟨[1, 2], by decide⟩ rfl (Option.some_ne_none 0))
        .reply))
    (.cons (@NetworkStep.finish _ _ _ _ _ _ _ .client rfl)
    (.cons (@NetworkStep.takePacket _ _ _ _ _ _ _ _ [] [] rfl rfl nofun)
    (.cons (@NetworkStep.call _ _ _ _ _ _ _ .server .connect trivial
      (Option.some_ne_none 0) rfl)
    (.nil _))))))
  have answerable := fun harness => @answerable_of_asks Nat .jsize asciiLibraries quietFactory
    callingSocket testSimpleConnection (· = greeting) harness
    (fun wrapper same endpoint harness => by
      subst same
      exact greeting_answered endpoint harness)
    (fun _ _ _ => trivial) callingSocket_asks
  exact ⟨_, rfl, rfl, Option.some_ne_none _,
    packets_arrive answerable ⟨beforeTest, _, beforeTest_initial, sent⟩⟩

end Dcsctp4j
