import Dcsctp4j.ConnectedEndpoints

/-! # What the two endpoints exchange

However the threads interleave, the packets of an endpoint reach the other one as
they were sent.
-/

namespace Dcsctp4j

open NativeFrame Transition

variable {σ : Type} {sizeType : SizeType} {libraries : Libraries} {factory : DcSctpFactory σ}
  {dcsctp : DcSctpMachine σ} {wiring : Wiring}

/-! ## What a call enters -/

theorem fromByteArray_toByteArray (bytes : List UInt8) :
    fromByteArray (toByteArray bytes) = bytes := by
  simp [fromByteArray, toByteArray, Function.comp_def]

theorem entry_task (task : PacketTask) :
    (task.operation : JavaOperation sizeType).entry =
      some (.receivePacket (fromByteArray task.data.elements)) := by
  have inRange := wholeArray_inRange task.data
  have accepted := receivePacket_accepted (inRange.not_refused sizeType)
  have whole : task.data.length.toInt.toNat = (fromByteArray task.data.elements).length := by
    rw [task.data.toInt_length, Int.toNat_natCast, fromByteArray, List.length_map]
  rw [JavaOperation.entry, PacketTask.operation, JavaOperation.meaning, accepted]
  simp [JavaOperation.enters, whole]

theorem packet_task (task : PacketTask) :
    (task.operation : JavaOperation sizeType).packet =
      some (fromByteArray task.data.elements) := by
  rw [JavaOperation.packet, entry_task]
  rfl

theorem packet_fromMain {operation : JavaOperation sizeType} (fromMain : operation.FromMain) :
    operation.packet = none := by
  cases operation with
  | receivePacket _ _ _ _ => exact fromMain.elim
  | resetStreams outgoingStreams =>
      rw [JavaOperation.packet, JavaOperation.entry, JavaOperation.meaning]
      split_ifs <;> rfl
  | _ => rfl

theorem entry_fromMain {operation : JavaOperation sizeType} (fromMain : operation.FromMain)
    (timeoutId : Native.TimeoutId) : operation.entry ≠ some (.handleTimeout timeoutId) := by
  cases operation with
  | receivePacket _ _ _ _ => exact fromMain.elim
  | handleTimeout _ => exact fromMain.elim
  | resetStreams outgoingStreams =>
      rw [JavaOperation.entry, JavaOperation.meaning]
      split_ifs <;> simp [JavaOperation.refuses, JavaOperation.enters]
  | _ => simp [JavaOperation.entry, JavaOperation.meaning, JavaOperation.enters]

/-! ## What the application's answers change -/

section Answering

variable {endpoint : Endpoint} {before after : Harness σ sizeType} {α : Type}

theorem Answers.frame {call : ApplicationCall} {reply : call.Reply}
    (answers : Answers wiring endpoint before call reply after) :
    after.sockets = before.sockets ∧ after.active = before.active ∧
      after.executor = before.executor := by
  cases answers <;> exact ⟨rfl, rfl, rfl⟩

theorem Converses.frame {dialogue : AppDialogue α} {value : α}
    (converses : Converses wiring endpoint dialogue before value after) :
    after.sockets = before.sockets ∧ after.active = before.active ∧
      after.executor = before.executor := by
  induction converses with
  | reply => exact ⟨rfl, rfl, rfl⟩
  | ask answers _ induction =>
      have frame := answers.frame
      exact ⟨induction.1.trans frame.1, induction.2.1.trans frame.2.1,
        induction.2.2.trans frame.2.2⟩

theorem Converses.answer {call : ApplicationCall} {read : call.Reply → α} {value : α}
    (converses : Converses wiring endpoint (askJava call read) before value after) :
    ∃ reply, Answers wiring endpoint before call reply after := by
  cases converses with
  | ask answers rest =>
      cases rest
      exact ⟨_, answers⟩

theorem Answers.tasks {call : ApplicationCall} {reply : call.Reply}
    (answers : Answers wiring endpoint before call reply after)
    (other : ∀ data, call ≠ .sendPacketWithStatus data) : after.tasks = before.tasks := by
  cases answers with
  | submit towards created => exact absurd rfl (other _)
  | _ => rfl

def WrapperCall.packet : WrapperCall → Option (List UInt8)
  | .callback (.sendPacket data) | .callback (.sendPacketWithStatus data) => some data
  | _ => none

theorem Converses.tasks {wrapper : WrapperCall} {answer : wrapper.Answer}
    (converses : Converses wiring endpoint (wrapper.dialogue libraries) before answer after)
    (noPacket : wrapper.packet = none) : after.tasks = before.tasks := by
  cases wrapper with
  | callback event =>
      cases event with
      | sendPacket data => cases noPacket
      | sendPacketWithStatus data => cases noPacket
      | _ =>
          rcases Converses.answer converses with ⟨reply, answers⟩
          exact answers.tasks (by simp)
  | timeoutRestart timeout duration timeoutId =>
      cases converses with
      | ask stopped started =>
          rcases Converses.answer started with ⟨reply, answers⟩
          exact (answers.tasks (by simp)).trans (stopped.tasks (by simp))
  | _ =>
      rcases Converses.answer converses with ⟨reply, answers⟩
      exact answers.tasks (by simp)

end Answering

/-! ## Packets on their way -/

namespace Harness

def inHand (harness : Harness σ sizeType) (dest : Endpoint) : List (List UInt8) :=
  match harness.executor with
  | .calling endpoint operation => if endpoint = dest then operation.packet.toList else []
  | _ => []

def queued (tasks : List PacketTask) (dest : Endpoint) : List (List UInt8) :=
  (tasks.filter fun task => task.dest = dest).map fun task => fromByteArray task.data.elements

def packetsFor (dest : Endpoint) (harness : Harness σ sizeType) : List (List UInt8) :=
  harness.inHand dest ++ queued harness.tasks dest

theorem queued_append (first second : List PacketTask) (dest : Endpoint) :
    queued (first ++ second) dest = queued first dest ++ queued second dest := by
  simp [queued]

theorem queued_singleton (task : PacketTask) (dest : Endpoint) :
    queued [task] dest =
      if task.dest = dest then [fromByteArray task.data.elements] else [] := by
  by_cases same : task.dest = dest <;> simp [queued, same]

theorem queued_take {earlier later : List PacketTask} {task : PacketTask}
    (ahead : ∀ other ∈ earlier, other.dest ≠ task.dest) (dest : Endpoint) :
    queued (earlier ++ task :: later) dest =
      (if task.dest = dest then [fromByteArray task.data.elements] else []) ++
        queued (earlier ++ later) dest := by
  rw [List.append_cons, queued_append, queued_append, queued_singleton, queued_append]
  split_ifs with same
  · have none : queued earlier dest = [] := by
      rw [queued, List.map_eq_nil_iff, List.filter_eq_nil_iff]
      intro other member
      rw [← same]
      simpa using ahead other member
    rw [none]
    rfl
  · rw [List.append_nil, List.nil_append]

theorem inHand_idle {harness : Harness σ sizeType} (idle : harness.executor = .idle)
    (dest : Endpoint) : harness.inHand dest = [] := by
  rw [inHand, idle]

theorem inHand_calling {harness : Harness σ sizeType} {endpoint : Endpoint}
    {operation : JavaOperation sizeType} (calls : harness.executor = .calling endpoint operation)
    (dest : Endpoint) :
    harness.inHand dest = if endpoint = dest then operation.packet.toList else [] := by
  rw [inHand, calls]

theorem inHand_congr {first second : Harness σ sizeType}
    (same : second.executor = first.executor) (dest : Endpoint) :
    second.inHand dest = first.inHand dest := by
  rw [inHand, inHand, same]

end Harness

/-- The packets that a step sends to an endpoint and the executor accepts. -/
def acceptedFor (wiring : Wiring) (dest : Endpoint) : NetworkEvent → List (List UInt8)
  | .sent endpoint data true => if wiring.dest endpoint = some dest then [data] else []
  | _ => []

/-- The packets with which a step enters an endpoint's `ReceivePacket`. -/
def receivedBy (dest : Endpoint) : NetworkEvent → List (List UInt8)
  | .entered endpoint operation =>
      if endpoint = dest then (operation.bind NativeOperation.packet).toList else []
  | _ => []

theorem receivedBy_event (dest endpoint : Endpoint) (accepted : Bool) (wrapper : WrapperCall)
    (answer : wrapper.Answer) : receivedBy dest (wrapper.event endpoint accepted answer) = [] := by
  cases wrapper with
  | callback event => cases event <;> rfl
  | _ => rfl

structure Deliverable (harness : Harness σ sizeType) : Prop where
  tasks : ∀ task ∈ harness.tasks, harness.sockets task.dest ≠ none
  calling : ∀ endpoint operation, harness.executor = .calling endpoint operation →
    operation.packet ≠ none → harness.sockets endpoint ≠ none

/-! ## One step -/

section Steps

variable {first last : Harness σ sizeType} {event : NetworkEvent} {dest : Endpoint}

/-- The executor accepts a packet exactly when its destination has a socket, and
dcsctp is told. -/
theorem Answers.told {endpoint : Endpoint} {jData : List Int8} {reply : Java.SendPacketStatus}
    (answers : Answers wiring endpoint first (.sendPacketWithStatus jData) reply last) :
    decide (Native.SendPacketStatus.mk reply.nativeStatus =
      ⟨Java.SendPacketStatus.kSuccess.nativeStatus⟩) = first.accepts wiring endpoint := by
  cases answers with
  | noDestination nowhere =>
      rw [Harness.accepts, nowhere]
      rfl
  | notCreated towards null =>
      rw [Harness.accepts, towards]
      simp only [null]
      rfl
  | submit towards created =>
      rw [Harness.accepts, towards]
      exact (Option.isSome_iff_ne_none.mpr created).symm
  | report report => cases report

theorem Answers.sent {endpoint : Endpoint} {jData : List Int8} {reply : Java.SendPacketStatus}
    (answers : Answers wiring endpoint first (.sendPacketWithStatus jData) reply last) :
    last.packetsFor dest = first.packetsFor dest ++
      acceptedFor wiring dest
        (.sent endpoint (fromByteArray jData) (first.accepts wiring endpoint)) := by
  cases answers with
  | noDestination nowhere => simp [Harness.accepts, nowhere, acceptedFor]
  | notCreated towards null => simp [Harness.accepts, towards, null, acceptedFor]
  | @submit towardsDest data towards created =>
      have accepts : first.accepts wiring endpoint = true := by
        rw [Harness.accepts, towards]
        exact Option.isSome_iff_ne_none.mpr created
      rw [accepts, acceptedFor, towards, Harness.packetsFor, Harness.packetsFor,
        Harness.queued_append, Harness.queued_singleton, List.append_assoc]
      simp [Harness.inHand]
  | report report => cases report

theorem Converses.packetsFor {endpoint : Endpoint} {wrapper : WrapperCall}
    {answer : wrapper.Answer}
    (converses : Converses wiring endpoint (wrapper.dialogue libraries) first answer last) :
    last.packetsFor dest = first.packetsFor dest ++
      acceptedFor wiring dest
        (wrapper.event endpoint (first.accepts wiring endpoint) answer) := by
  have executor := converses.frame.2.2
  have silent : wrapper.packet = none → last.packetsFor dest = first.packetsFor dest ++ [] := by
    intro noPacket
    rw [Harness.packetsFor, Harness.packetsFor, Harness.inHand_congr executor,
      converses.tasks noPacket, List.append_nil]
  cases wrapper with
  | callback event =>
      cases event with
      | sendPacket data =>
          rcases Converses.answer converses with ⟨reply, answers⟩
          have sent : last.packetsFor dest = _ := answers.sent
          rwa [fromByteArray_toByteArray] at sent
      | sendPacketWithStatus data =>
          cases converses with
          | ask answers rest =>
              cases rest
              have sent : last.packetsFor dest = _ := answers.sent
              rwa [fromByteArray_toByteArray, ← answers.told] at sent
      | _ => exact silent rfl
  | _ => exact silent rfl

theorem Converses.created {α : Type} {endpoint : Endpoint} {dialogue : AppDialogue α} {value : α}
    (converses : Converses wiring endpoint dialogue first value last) :
    ∀ task ∈ last.tasks, task ∈ first.tasks ∨ first.sockets task.dest ≠ none := by
  induction converses with
  | reply => exact fun task member => .inl member
  | ask answers rest induction =>
      intro task member
      rcases induction task member with old | created
      · cases answers with
        | submit towards created =>
            rcases List.mem_append.mp old with old | new
            · exact .inl old
            · rw [List.mem_singleton.mp new]
              exact .inr created
        | _ => exact .inl old
      · rw [answers.frame.1] at created
        exact .inr created

theorem NetworkStep.sockets_kept
    (step : NetworkStep libraries factory dcsctp wiring first event last)
    {endpoint : Endpoint} (created : first.sockets endpoint ≠ none) :
    last.sockets endpoint ≠ none := by
  have update : ∀ (other : Endpoint) (socket : σ),
      Function.update first.sockets other (some socket) endpoint ≠ none := by
    intro other socket
    by_cases same : endpoint = other
    · rw [same, Function.update_self]
      exact Option.some_ne_none socket
    · rwa [Function.update_of_ne same]
  cases step with
  | store top => exact update _ _
  | ask top converses =>
      change Harness.sockets _ endpoint ≠ none
      rw [Harness.setActive, converses.frame.1]
      exact created
  | finish top =>
      rw [Harness.release_sockets]
      exact created
  | _ => exact created

theorem Harness.release_inHand (harness : Harness σ sizeType) (endpoint dest : Endpoint) :
    (harness.release endpoint).inHand dest = harness.inHand dest := by
  by_cases runs : harness.executor = .running endpoint
  · rw [release_self runs, inHand, inHand, runs]
  · rw [release_of_ne runs]

theorem NetworkStep.passes (step : NetworkStep libraries factory dcsctp wiring first event last)
    (deliverable : Deliverable first) (dest : Endpoint) :
    first.packetsFor dest ++ acceptedFor wiring dest event =
      receivedBy dest event ++ last.packetsFor dest := by
  cases step with
  | create null free => exact List.append_nil _
  | @call endpoint operation fromMain created free =>
      have nothing : receivedBy dest (.entered endpoint operation.entry) = [] := by
        change (if endpoint = dest then operation.packet.toList else []) = []
        rw [packet_fromMain fromMain]
        exact ite_self _
      rw [nothing]
      exact List.append_nil _
  | @takePacket task earlier later idle queue ahead =>
      have before : first.packetsFor dest = Harness.queued (earlier ++ task :: later) dest := by
        rw [Harness.packetsFor, Harness.inHand_idle idle, List.nil_append, queue]
      rw [before, Harness.queued_take ahead, Harness.packetsFor,
        Harness.inHand_calling rfl, packet_task]
      exact List.append_nil _
  | @takeTimeout index future object idle bound pending =>
      rw [Harness.packetsFor, Harness.packetsFor, Harness.inHand_idle idle,
        Harness.inHand_calling rfl]
      change Harness.queued first.tasks dest ++ [] = (if object.wrapper = dest then [] else []) ++ _
      rw [ite_self, List.append_nil]
      rfl
  | @fail endpoint operation calling null =>
      have noPacket : operation.packet = none := by
        by_contra packet
        exact deliverable.calling endpoint operation calling packet null
      have hand : first.inHand dest = [] := by
        rw [Harness.inHand_calling calling, noPacket]
        exact ite_self _
      rw [Harness.packetsFor, hand]
      exact List.append_nil _
  | @execute endpoint operation calling created free =>
      rw [Harness.packetsFor, Harness.inHand_calling calling]
      exact List.append_nil _
  | load top created => exact List.append_nil _
  | store top => exact List.append_nil _
  | @ask after endpoint wrapper next answer top converses =>
      rw [receivedBy_event]
      exact converses.packetsFor.symm
  | @finish endpoint top =>
      rw [Harness.packetsFor, Harness.packetsFor, Harness.release_tasks, Harness.release_inHand]
      exact List.append_nil _

theorem NetworkStep.deliverable
    (step : NetworkStep libraries factory dcsctp wiring first event last)
    (deliverable : Deliverable first) : Deliverable last := by
  have kept : ∀ endpoint, first.sockets endpoint ≠ none → last.sockets endpoint ≠ none :=
    fun endpoint => step.sockets_kept
  have tasks : ∀ task ∈ first.tasks, last.sockets task.dest ≠ none :=
    fun task member => kept _ (deliverable.tasks task member)
  have calling : ∀ endpoint operation, first.executor = .calling endpoint operation →
      operation.packet ≠ none → last.sockets endpoint ≠ none :=
    fun endpoint operation calls packet =>
      kept _ (deliverable.calling endpoint operation calls packet)
  cases step with
  | @takePacket task earlier later idle queue ahead =>
      rw [queue] at tasks
      refine ⟨fun other member => tasks other ?_, fun endpoint operation calls _ => ?_⟩
      · rcases List.mem_append.mp member with before | after
        · exact List.mem_append_left _ before
        · exact List.mem_append_right _ (List.mem_cons_of_mem _ after)
      · cases calls
        exact tasks task (List.mem_append_right _ List.mem_cons_self)
  | takeTimeout idle bound pending =>
      refine ⟨tasks, fun endpoint operation calls packet => ?_⟩
      cases calls
      exact absurd rfl packet
  | fail calls null => exact ⟨tasks, fun endpoint operation calls => nomatch calls⟩
  | execute calls created free =>
      exact ⟨tasks, fun endpoint operation calls => nomatch calls⟩
  | ask top converses =>
      refine ⟨fun task member => ?_, fun endpoint operation calls => ?_⟩
      · rcases converses.created task member with old | created
        · exact tasks task old
        · exact kept _ created
      · exact calling endpoint operation (converses.frame.2.2.symm.trans calls)
  | @finish endpoint top =>
      refine ⟨fun task member => ?_, fun dest operation calls => ?_⟩
      · rw [Harness.release_tasks] at member
        exact tasks task member
      · have unreleased : (first.setActive endpoint none).executor = .calling dest operation :=
          Harness.release_calling calls
        exact calling dest operation unreleased
  | _ => exact ⟨tasks, calling⟩

end Steps

/-! ## Every run -/

theorem Harness.Initial.deliverable {harness : Harness σ sizeType} (initial : harness.Initial) :
    Deliverable harness where
  tasks := by simp [initial.tasks]
  calling := by simp [initial.executor]

theorem Harness.Initial.packetsFor {harness : Harness σ sizeType} (initial : harness.Initial)
    (dest : Endpoint) : harness.packetsFor dest = [] := by
  rw [Harness.packetsFor, Harness.inHand_idle initial.executor, initial.tasks]
  rfl

/-- The packets that an endpoint has received are those sent to it and accepted, in
the same order, up to those still on their way. -/
theorem packets_delivered {first last : Harness σ sizeType} {events : List NetworkEvent}
    (initial : (network libraries factory dcsctp wiring sizeType).initial first)
    (run : (network libraries factory dcsctp wiring sizeType).Run first events last)
    (dest : Endpoint) :
    events.flatMap (acceptedFor wiring dest) =
      events.flatMap (receivedBy dest) ++ last.packetsFor dest := by
  have conserved := run.conserves (Harness.packetsFor dest) (acceptedFor wiring dest)
    (receivedBy dest) (fun _ _ _ deliverable step => NetworkStep.deliverable step deliverable)
    (fun _ _ _ deliverable step => NetworkStep.passes step deliverable dest)
    (Harness.Initial.deliverable initial)
  rwa [Harness.Initial.packetsFor initial, List.nil_append] at conserved

def pingingSocket : DcSctpMachine Nat
  | .connect => .ask (.ask (.callback (.sendPacketWithStatus [1, 2]))) fun _ => .reply ()
  | operation => echoingSocket operation

theorem ping_run : ∃ events last,
    (network asciiLibraries quietFactory pingingSocket testSimpleConnection .jsize).Run
      beforeTest events last ∧
      events.flatMap (acceptedFor testSimpleConnection .server) = [[1, 2]] := by
  have exchange := (@both_created .jsize asciiLibraries pingingSocket testSimpleConnection).append
    (.cons (@NetworkStep.call _ _ _ _ _ _ _ .client .connect trivial
      (Option.some_ne_none 0) rfl)
    (.cons (@NetworkStep.ask _ _ _ _ _ _ _ _ .client
      (.callback (.sendPacketWithStatus [1, 2])) _ _ rfl
      (.ask (@Answers.submit _ _ _ _ _ .server ⟨[1, 2], by decide⟩ rfl (Option.some_ne_none 0))
        .reply))
    (.cons (@NetworkStep.takePacket _ _ _ _ _ _ _ _ [] [] rfl rfl nofun)
    (.cons (@NetworkStep.execute _ _ _ _ _ _ _ .server _ rfl (Option.some_ne_none 0) rfl)
    (.nil _)))))
  exact ⟨_, _, exchange, rfl⟩

theorem packets_delivered_ping : ∃ events last,
    (network asciiLibraries quietFactory pingingSocket testSimpleConnection .jsize).Run
      beforeTest events last ∧
      [[1, 2]] = events.flatMap (receivedBy .server) ++ last.packetsFor .server := by
  rcases ping_run with ⟨events, last, run, accepted⟩
  refine ⟨events, last, run, ?_⟩
  rw [← accepted]
  exact packets_delivered beforeTest_initial run .server

end Dcsctp4j
