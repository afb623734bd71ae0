import Dcsctp4j.BatchSend
import Dcsctp4j.LogProxy
import Dcsctp4j.WrapperCalls

/-! # Local references of a native frame

Which calls use only live references and hand the frame back with exactly the
references it held and the one they return.
-/

namespace Dcsctp4j

open NativeFrame NativeFrame.Program

variable {σ : Type}

/-! ## Calls within a frame -/

inductive FrameCall (σ : Type)
  | convertDcSctpMessage (jmessage : LocalRef Java.DcSctpMessage)
  | convertSendOptions (jOptions : LocalRef Java.SendOptions)
  | send_ (socket : σ) (payload : LocalRef (List Int8)) (ppid : Int32) (streamId : Int16)
      (isUnordered : Bool) (lifetime maxRetransmissions : Option (LocalRef Int64))
      (lifecycleId : Int64)
  | sendMany_ (socket : σ) (messages : LocalRef (List Java.DcSctpMessage))
      (joptions : LocalRef Java.SendOptions)
  | wrapper (call : WrapperCall)
  | onLogMessage (line : Native.LogLineRef)

namespace FrameCall

def run (libraries : Libraries) (dcsctp : DcSctpSocket σ) : FrameCall σ → Jni (List Nat)
  | convertDcSctpMessage jmessage => do
      let _ ← Dcsctp4j.convertDcSctpMessage jmessage
      return []
  | convertSendOptions jOptions => do
      let _ ← Dcsctp4j.convertSendOptions jOptions
      return []
  | send_ socket payload ppid streamId isUnordered lifetime maxRetransmissions lifecycleId => do
      let _ ← NativeSctpSocket.send_ dcsctp socket payload ppid streamId isUnordered
        lifetime maxRetransmissions lifecycleId
      return []
  | sendMany_ socket messages joptions => do
      let (statusArray, _) ← NativeSctpSocket.sendMany_ dcsctp socket messages joptions
      return [statusArray.handle]
  | wrapper call => do
      call.run libraries
      return []
  | onLogMessage line => do
      LogProxy.onLogMessage libraries line
      return []

def arguments : FrameCall σ → List Nat
  | convertDcSctpMessage jmessage => [jmessage.handle]
  | convertSendOptions jOptions => [jOptions.handle]
  | send_ _ payload _ _ _ lifetime maxRetransmissions _ =>
      payload.handle :: (lifetime.toList ++ maxRetransmissions.toList).map LocalRef.handle
  | sendMany_ _ messages joptions => [messages.handle, joptions.handle]
  | wrapper _ | onLogMessage _ => []

/-- Nothing is borrowed from a temporary and nothing is released to nobody. -/
def Owned : FrameCall σ → Prop
  | convertSendOptions jOptions | sendMany_ _ _ jOptions =>
      jOptions.object.lifetime = none ∧ jOptions.object.maxRetransmissions = none
  | onLogMessage line => line.threadId = none
  | convertDcSctpMessage _ | send_ _ _ _ _ _ _ _ _ | wrapper _ => True

end FrameCall

/-- The references a call hands over: none when it ends with an exception. -/
def returned {Fault : Type} : Except Fault (List Nat) → List Nat
  | .ok handles => handles
  | .error _ => []

/-- No reference is used after its end, and the frame ends up with the ones it
held and the one returned. -/
def Exact (libraries : Libraries) (dcsctp : DcSctpSocket σ) (setting : JniSetting)
    (call : FrameCall σ) (env : JniEnv) : Prop :=
  let (result, after) := (call.run libraries dcsctp).run setting env
  after.staleUses = env.staleUses ∧ after.table.live = returned result ++ env.table.live

def ExactRun (libraries : Libraries) (dcsctp : DcSctpSocket σ) (setting : JniSetting) :
    List (FrameCall σ) → JniEnv → Prop
  | [], _ => True
  | call :: rest, env =>
      Exact libraries dcsctp setting call env ∧
        ExactRun libraries dcsctp setting rest
          ((call.run libraries dcsctp).run setting env).2

/-! ## References left behind -/

/-- The program uses live references only, and leaves `count` references that
nothing will delete. -/
def Leaves {α : Type} (held : List Nat) (program : Jni α) (count : Nat) : Prop :=
  ∀ (setting : JniSetting) (env : JniEnv), (∀ handle ∈ held, handle ∈ env.table.live) →
    ∃ left : List Nat, left.length = count ∧ (∀ handle ∈ left, env.table.next ≤ handle) ∧
      (program.run setting env).2.table.live = left ++ env.table.live ∧
      (program.run setting env).2.staleUses = env.staleUses

namespace Leaves

variable {α ε : Type} {held : List Nat} {count : Nat}

theorem ofContract {program : Jni α} {weaks : List WeakTarget}
    {calls : List ApplicationCall} (contract : Contract held program weaks calls) :
    Leaves held program 0 := by
  intro setting env heldLive
  have meets := contract setting env heldLive
  exact ⟨[], rfl, by simp, meets.live, meets.staleUses⟩

theorem ofReturns {program : Jni α} {value : α} (returns : Returns held program value) :
    Leaves held program 0 := by
  intro setting env heldLive
  rcases returns setting env heldLive with ⟨table, live, ran⟩
  exact ⟨[], rfl, by simp, by rw [ran]; exact live, by rw [ran]⟩

theorem acquire {object : ε} {next : LocalRef ε → Jni α} {weaks : List WeakTarget}
    {calls : List ApplicationCall}
    (rest : ∀ handle, Contract (handle :: held) (next ⟨handle, object⟩) weaks calls) :
    Leaves held (Program.acquire object >>= next) 1 := by
  intro setting env heldLive
  have meets := rest env.table.next setting { env with table := env.table.acquire }
    (RefTable.acquire_holds heldLive)
  have ran : (Program.acquire object >>= next).run setting env =
      (next ⟨env.table.next, object⟩).run setting { env with table := env.table.acquire } :=
    rfl
  rw [ran]
  exact ⟨[env.table.next], rfl, by simp, meets.live, meets.staleUses⟩

/-- What the body leaves behind was created after the scope's own reference, so
the scope does not delete it. -/
theorem withOptionalLocal (object : Option ε) {body : Option (LocalRef ε) → Jni α}
    (inner : ∀ (held' : List Nat) ref, (∀ handle ∈ held, handle ∈ held') →
      (∀ present ∈ ref, present.handle ∈ held') → Leaves held' (body ref) count) :
    Leaves held (Dcsctp4j.withOptionalLocal object body) count := by
  cases object with
  | none => exact inner held none (fun _ member => member) (by simp)
  | some object =>
      intro setting env heldLive
      let opened : JniEnv := { env with table := env.table.acquire }
      rcases inner (env.table.next :: held) (some ⟨env.table.next, object⟩)
          (fun _ member => List.mem_cons_of_mem _ member) (by simp) setting opened
          (RefTable.acquire_holds heldLive) with ⟨left, length, fresh, live, staleUses⟩
      have notLeft : env.table.next ∉ left := by
        intro member
        have bound := fresh _ member
        simp only [opened, RefTable.acquire_next] at bound
        omega
      refine ⟨left, length, ?_, ?_, staleUses⟩
      · intro handle member
        have bound := fresh handle member
        simp only [opened, RefTable.acquire_next] at bound
        omega
      · change List.erase _ _ = _
        rw [live, List.erase_append_right _ notLeft]
        simp [opened]

end Leaves

theorem fromOptionalInt_leaves {α : Type} {held : List Nat} (value : Option Int32)
    {next : Option (LocalRef Int32) → Jni α} {weaks : List WeakTarget}
    {calls : List ApplicationCall}
    (rest : ∀ more ref, (∀ handle ∈ held, handle ∈ more) →
      (∀ present ∈ ref, present.handle ∈ more) → Contract more (next ref) weaks calls) :
    Leaves held (Integer.fromOptionalInt value >>= next) (if value = none then 0 else 1) := by
  cases value with
  | none => exact Leaves.ofContract (rest held none (fun _ member => member) (by simp))
  | some value =>
      have leaves : Leaves held (acquire value >>= fun ref => next (some ref)) 1 :=
        Leaves.acquire fun handle => rest (handle :: held) (some ⟨handle, value⟩)
          (fun _ member => List.mem_cons_of_mem _ member) (by simp)
      exact leaves

theorem onLogMessage_leaves (libraries : Libraries) (line : Native.LogLineRef)
    (held : List Nat) :
    Leaves held (LogProxy.onLogMessage libraries line)
      (if line.threadId = none then 0 else 1) := by
  apply Leaves.withOptionalLocal
  intro messageHeld messageRef _ messageOwned
  apply Leaves.withOptionalLocal
  intro filenameHeld filenameRef includes filenameOwned
  apply fromOptionalInt_leaves
  intro more threadRef subset threadOwned
  apply Contract.afterSilent (passOptional_contract messageRef fun ref present =>
    subset _ (includes _ (messageOwned ref present)))
  intro _
  apply Contract.afterSilent (passOptional_contract filenameRef fun ref present =>
    subset _ (filenameOwned ref present))
  intro _
  apply Contract.afterSilent (passOptional_contract threadRef threadOwned)
  intro _
  exact callJava_contract _

/-! ## Exactness -/

section Exactness

variable {libraries : Libraries} {dcsctp : DcSctpSocket σ} {setting : JniSetting}
  {call : FrameCall σ} {env : JniEnv}

theorem exact_iff_of_run {result : Except (Fault Throwable) (List Nat)} {after : JniEnv}
    (ran : (call.run libraries dcsctp).run setting env = (result, after)) :
    Exact libraries dcsctp setting call env ↔
      after.staleUses = env.staleUses ∧ after.table.live = returned result ++ env.table.live := by
  simp only [Exact, ran]

theorem exact_iff_of_leaves {α : Type} {program : Jni α} {count : Nat}
    (runs : call.run libraries dcsctp = program >>= fun _ => pure [])
    (leaves : Leaves call.arguments program count)
    (argumentsLive : ∀ handle ∈ call.arguments, handle ∈ env.table.live) :
    Exact libraries dcsctp setting call env ↔ count = 0 := by
  rcases leaves setting env argumentsLive with ⟨left, length, -, live, staleUses⟩
  rcases ran : program.run setting env with ⟨result, after⟩
  rw [ran] at live staleUses
  have whole : ∃ result', returned result' = [] ∧
      (call.run libraries dcsctp).run setting env = (result', after) := by
    rw [runs]
    cases result with
    | ok value => exact ⟨.ok [], rfl, by rw [run_bind_ok ran]; rfl⟩
    | error fault => exact ⟨.error fault, rfl, by rw [run_bind_error ran]⟩
  rcases whole with ⟨result', nothing, wholeRan⟩
  rw [exact_iff_of_run wholeRan, nothing, live, staleUses, ← length,
    List.length_eq_zero_iff]
  simp

theorem convertSendOptions_exact_iff {jOptions : LocalRef Java.SendOptions}
    (owned : jOptions.handle ∈ env.table.live) :
    Exact libraries dcsctp setting (.convertSendOptions jOptions) env ↔
      ¬jOptions.object.Borrows := by
  rcases convertSendOptions_run setting env owned with ⟨stale, table, live, staleNone, ran⟩
  have whole : ∃ result, returned result = [] ∧
      ((FrameCall.convertSendOptions jOptions).run libraries dcsctp).run setting env =
        (result, { env with table, staleUses := stale ++ env.staleUses }) := by
    rw [FrameCall.run]
    split at ran
    · exact ⟨_, rfl, by rw [run_bind_error ran]⟩
    · exact ⟨_, rfl, by rw [run_bind_ok ran]; rfl⟩
  rcases whole with ⟨result, nothing, wholeRan⟩
  rw [exact_iff_of_run wholeRan, nothing]
  simp [live, staleNone]

theorem sendManyNative_exact_iff {socket : σ}
    {messages : LocalRef (List Java.DcSctpMessage)} {joptions : LocalRef Java.SendOptions}
    (messagesOwned : messages.handle ∈ env.table.live)
    (optionsOwned : joptions.handle ∈ env.table.live) :
    Exact libraries dcsctp setting (.sendMany_ socket messages joptions) env ↔
      ¬joptions.object.Borrows := by
  rcases sendManyNative_run dcsctp socket setting env messagesOwned optionsOwned with
      ⟨stale, table, staleNone, ran⟩
  split at ran
  · have whole : ((FrameCall.sendMany_ socket messages joptions).run libraries dcsctp).run
        setting env = _ := run_bind_error ran.2 _
    rw [exact_iff_of_run whole]
    simp [returned, ran.1, staleNone]
  · rcases ran with ⟨handle, live, ran⟩
    have whole : ((FrameCall.sendMany_ socket messages joptions).run libraries dcsctp).run
        setting env =
          (.ok [handle], { env with table, staleUses := stale ++ env.staleUses }) :=
      run_bind_ok ran _
    rw [exact_iff_of_run whole]
    simp [returned, live, staleNone]

theorem exact_iff_owned (argumentsLive : ∀ handle ∈ call.arguments, handle ∈ env.table.live) :
    Exact libraries dcsctp setting call env ↔ call.Owned := by
  cases call with
  | convertDcSctpMessage jmessage =>
      rw [exact_iff_of_leaves rfl (Leaves.ofReturns
        (convertDcSctpMessage_returns List.mem_cons_self)) argumentsLive]
      exact iff_of_true rfl trivial
  | convertSendOptions jOptions =>
      rw [convertSendOptions_exact_iff (argumentsLive _ List.mem_cons_self),
        Java.SendOptions.Borrows, not_not, FrameCall.Owned]
  | send_ socket payload ppid streamId isUnordered lifetime limit lifecycleId =>
      rw [exact_iff_of_leaves rfl (Leaves.ofReturns
        (sendNative_returns dcsctp socket ppid streamId isUnordered lifecycleId
          List.mem_cons_self (by simp_all [FrameCall.arguments])
          (by simp_all [FrameCall.arguments]))) argumentsLive]
      exact iff_of_true rfl trivial
  | sendMany_ socket messages joptions =>
      rw [sendManyNative_exact_iff (argumentsLive _ List.mem_cons_self)
        (argumentsLive _ (by simp [FrameCall.arguments])), Java.SendOptions.Borrows, not_not,
        FrameCall.Owned]
  | wrapper wrapperCall =>
      rw [exact_iff_of_leaves rfl
        (Leaves.ofContract (wrapperCall.run_contract libraries)) argumentsLive]
      exact iff_of_true rfl trivial
  | onLogMessage line =>
      rw [exact_iff_of_leaves rfl (onLogMessage_leaves libraries line _) argumentsLive]
      simp [FrameCall.Owned]

/-- A sequence of calls in one frame is exact exactly when each of its calls
owns what it uses. -/
theorem exactRun_iff_owned (libraries : Libraries) (dcsctp : DcSctpSocket σ)
    (setting : JniSetting) (calls : List (FrameCall σ)) (env : JniEnv)
    (argumentsLive : ∀ call ∈ calls, ∀ handle ∈ call.arguments, handle ∈ env.table.live) :
    ExactRun libraries dcsctp setting calls env ↔ ∀ call ∈ calls, call.Owned := by
  induction calls generalizing env with
  | nil => simp [ExactRun]
  | cons call rest induction =>
      have headIff : Exact libraries dcsctp setting call env ↔ call.Owned :=
        exact_iff_owned (argumentsLive call List.mem_cons_self)
      rw [ExactRun, List.forall_mem_cons, ← headIff]
      apply and_congr_right
      intro headExact
      apply induction
      intro other member handle argument
      rw [headExact.2]
      apply List.mem_append_right
      exact argumentsLive other (List.mem_cons_of_mem _ member) handle argument

end Exactness

def openedEnv : JniEnv where
  table := RefTable.empty.acquire.acquire
  staleUses := []
  received := []

theorem exactRun_iff_owned_opened :
    ExactRun asciiLibraries queueingSocket compliantSetting
        [.convertDcSctpMessage ⟨0, ⟨1, 51, [65]⟩⟩, .wrapper (.callback (.sendPacket [1])),
          .convertSendOptions ⟨1, {}⟩] openedEnv ↔
      ∀ call ∈ ([.convertDcSctpMessage ⟨0, ⟨1, 51, [65]⟩⟩,
        .wrapper (.callback (.sendPacket [1])), .convertSendOptions ⟨1, {}⟩] :
          List (FrameCall (List Native.DcSctpMessage))), call.Owned :=
  exactRun_iff_owned asciiLibraries queueingSocket compliantSetting _ openedEnv
    (by simp [FrameCall.arguments, openedEnv, RefTable.empty])

def threadLine : Native.LogLineRef where
  message := some [104, 105]
  filename := none
  line := 0
  threadId := some 1
  timestamp := ⟨Int64.minValue⟩
  severity := .lsInfo

/-- The failing inputs: options with a lifetime, and a line with a thread id. -/
theorem lifetime_and_threadId_not_exact :
    ¬ExactRun asciiLibraries queueingSocket compliantSetting
        [.convertSendOptions ⟨0, { lifetime := some 1000 }⟩] openedEnv ∧
      ¬ExactRun asciiLibraries queueingSocket compliantSetting [.onLogMessage threadLine]
        openedEnv := by
  constructor
  · intro both
    rcases both with ⟨exact, -⟩
    have owned := (convertSendOptions_exact_iff (by decide)).mp exact
    exact owned (by decide)
  · intro both
    rcases both with ⟨exact, -⟩
    have owned := (exact_iff_owned (by simp [FrameCall.arguments])).mp exact
    cases owned

/-! ## Log lines within one frame -/

def runLines (libraries : Libraries) (setting : JniSetting) :
    List Native.LogLineRef → JniEnv → JniEnv
  | [], env => env
  | line :: rest, env =>
      runLines libraries setting rest ((LogProxy.onLogMessage libraries line).run setting env).2

/-- The table grows by one reference for every line with a thread id. -/
theorem runLines_live_length (libraries : Libraries) (setting : JniSetting)
    (lines : List Native.LogLineRef) (env : JniEnv) :
    (runLines libraries setting lines env).table.live.length =
      env.table.live.length + lines.countP fun line => line.threadId ≠ none := by
  induction lines generalizing env with
  | nil => rfl
  | cons line rest induction =>
      rcases onLogMessage_leaves libraries line [] setting env (by simp) with
          ⟨left, length, -, live, -⟩
      rw [runLines, induction, live, List.length_append,
        length, List.countP_cons]
      by_cases absent : line.threadId = none
      · simp [absent]
      · simp [absent]
        omega

end Dcsctp4j
