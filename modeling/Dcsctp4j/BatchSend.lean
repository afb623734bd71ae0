import Dcsctp4j.NativeSctpSocket

/-! # The batch path and the single path

What `send` and `sendMany` compute, and when sending a list at once is the same
as sending its messages in turn.
-/

namespace Dcsctp4j

open NativeFrame NativeFrame.Program

variable {σ : Type}

/-! ## Borrowed optional fields -/

/-- The field is borrowed from a reference that is dead by now. -/
theorem borrowField_run (field : Option Int64) (setting : JniSetting) (env : JniEnv) :
    ∃ ref table, table.live = env.table.live ∧
      (∀ borrowed ∈ ref, borrowed.handle ∉ env.table.live) ∧
      ref.map LocalRef.object = field ∧
      (borrowField field).run setting env = (.ok ref, { env with table }) := by
  cases field with
  | none => exact ⟨none, env.table, rfl, by simp, rfl, rfl⟩
  | some value =>
      refine ⟨some ⟨env.table.next, value⟩, env.table.acquire.release env.table.next,
        by simp, ?_, rfl, rfl⟩
      intro borrowed equal
      cases equal
      exact env.table.next_not_mem

theorem convertOptional_stale_run {ν : Type} (convert : Int64 → ν)
    (ref : Option (LocalRef Int64)) (setting : JniSetting) (env : JniEnv)
    (dead : ∀ borrowed ∈ ref, borrowed.handle ∉ env.table.live) :
    ∃ stale, (stale = [] ↔ ref = none) ∧
      (convertOptional convert ref).run setting env =
        (if ref ≠ none ∧ setting.staleUse = .aborts then .error .vmAborted
          else .ok (ref.map fun borrowed => convert borrowed.object),
          { env with staleUses := stale ++ env.staleUses }) := by
  cases ref with
  | none => exact ⟨[], by simp, by simp [convertOptional]⟩
  | some borrowed =>
      refine ⟨[borrowed.handle], by simp, ?_⟩
      have notLive := dead borrowed rfl
      cases kind : setting.staleUse <;>
        simp [convertOptional, Long.longValue, run_bind, useRef, notLive, kind]

theorem convertOptionals_stale_run {ν μ ω : Type} (convertFirst : Int64 → ν)
    (convertSecond : Int64 → μ) (assemble : Option ν → Option μ → ω)
    (first second : Option (LocalRef Int64)) (setting : JniSetting) (env : JniEnv)
    (firstDead : ∀ borrowed ∈ first, borrowed.handle ∉ env.table.live)
    (secondDead : ∀ borrowed ∈ second, borrowed.handle ∉ env.table.live) :
    ∃ stale, (stale = [] ↔ first = none ∧ second = none) ∧
      (do
        let one ← convertOptional convertFirst first
        let two ← convertOptional convertSecond second
        return assemble one two : Jni ω).run setting env =
        (if ¬(first = none ∧ second = none) ∧ setting.staleUse = .aborts then
            .error .vmAborted
          else .ok (assemble (first.map fun borrowed => convertFirst borrowed.object)
            (second.map fun borrowed => convertSecond borrowed.object)),
          { env with staleUses := stale ++ env.staleUses }) := by
  rcases convertOptional_stale_run convertFirst first setting env firstDead with
      ⟨firstStale, firstNone, firstRan⟩
  rcases convertOptional_stale_run convertSecond second setting
      { env with staleUses := firstStale ++ env.staleUses } secondDead with
      ⟨secondStale, secondNone, secondRan⟩
  by_cases aborted : first ≠ none ∧ setting.staleUse = .aborts
  · rw [if_pos aborted] at firstRan
    refine ⟨firstStale, by rw [firstNone]; tauto, ?_⟩
    rw [run_bind_error firstRan, if_pos (by tauto)]
  · rw [if_neg aborted] at firstRan
    refine ⟨secondStale ++ firstStale, by rw [List.append_eq_nil_iff]; tauto, ?_⟩
    rw [run_bind_ok firstRan]
    by_cases secondAborted : second ≠ none ∧ setting.staleUse = .aborts
    · rw [if_pos secondAborted] at secondRan
      rw [run_bind_error secondRan, if_pos (by tauto), List.append_assoc]
    · rw [if_neg secondAborted] at secondRan
      rw [run_bind_ok secondRan, if_neg (by tauto), List.append_assoc, run_pure]

def Java.SendOptions.Borrows (options : Java.SendOptions) : Prop :=
  ¬(options.lifetime = none ∧ options.maxRetransmissions = none)

instance (options : Java.SendOptions) : Decidable options.Borrows :=
  inferInstanceAs (Decidable (¬_))

theorem convertSendOptions_run {jOptions : LocalRef Java.SendOptions}
    (setting : JniSetting) (env : JniEnv) (owned : jOptions.handle ∈ env.table.live) :
    ∃ stale table, table.live = env.table.live ∧
      (stale = [] ↔ ¬jOptions.object.Borrows) ∧
      (convertSendOptions jOptions).run setting env =
        (if jOptions.object.Borrows ∧ setting.staleUse = .aborts then .error .vmAborted
          else .ok jOptions.object.toNative,
          { env with table, staleUses := stale ++ env.staleUses }) := by
  have read : ∀ middle : JniEnv, middle.table.live = env.table.live →
      (useRef jOptions : Jni _).run setting middle = (.ok jOptions.object, middle) := by
    intro middle live
    simp [useRef, live, owned]
  rcases borrowField_run jOptions.object.lifetime setting env with
      ⟨lifetime, lifetimeTable, lifetimeLive, lifetimeDead, lifetimeObject, lifetimeRan⟩
  rcases borrowField_run jOptions.object.maxRetransmissions setting
      { env with table := lifetimeTable } with
      ⟨limit, table, live, limitDead, limitObject, limitRan⟩
  have tableLive : table.live = env.table.live := live.trans lifetimeLive
  rcases convertOptionals_stale_run
    (fun value => Native.DurationMs.mk value.toInt32) Int64.toUInt64
    (fun first second => Native.SendOptions.mk jOptions.object.isUnordered first second
      ⟨jOptions.object.lifecycleId.toUInt64⟩)
    lifetime limit setting { env with table }
    (by simpa [tableLive] using lifetimeDead)
    (by simpa [tableLive, lifetimeLive] using limitDead) with ⟨stale, staleNone, ran⟩
  have borrows : jOptions.object.Borrows ↔ ¬(lifetime = none ∧ limit = none) := by
    rw [Java.SendOptions.Borrows, ← lifetimeObject, ← limitObject, Option.map_eq_none_iff,
      Option.map_eq_none_iff]
  have value : jOptions.object.toNative =
      ⟨jOptions.object.isUnordered, lifetime.map fun ref => ⟨ref.object.toInt32⟩,
        limit.map fun ref => ref.object.toUInt64, ⟨jOptions.object.lifecycleId.toUInt64⟩⟩ := by
    simp [Java.SendOptions.toNative, ← lifetimeObject, ← limitObject, Function.comp_def]
  refine ⟨stale, table, tableLive, by rw [staleNone, borrows, not_not], ?_⟩
  rw [convertSendOptions, run_bind_ok (read env rfl), run_bind_ok (read env rfl),
    run_bind_ok lifetimeRan, run_bind_ok (read _ lifetimeLive), run_bind_ok limitRan,
    run_bind_ok (read _ tableLive)]
  simp only [borrows, value]
  exact ran

/-! ## `sendMany_` -/

theorem withArrayAccess_run {ε α : Type} {ref : LocalRef (List ε)} {body : List ε → Jni α}
    {setting : JniSetting} {env after : JniEnv}
    {result : Except (Fault Throwable) α} (owned : ref.handle ∈ env.table.live)
    (ran : (body ref.object).run setting env = (result, after))
    (stillOwned : ref.handle ∈ after.table.live) :
    (withArrayAccess ref body).run setting env = (result, after) := by
  have entered : (useRef ref : Jni _).run setting env = (.ok ref.object, env) := by
    simp [useRef, owned]
  rw [withArrayAccess, run_bind_ok entered]
  simp [guarded, ran, run_bind, useRef, stillOwned]

theorem sendManyNative_run (dcsctp : DcSctpSocket σ) (socket : σ)
    {messages : LocalRef (List Java.DcSctpMessage)} {joptions : LocalRef Java.SendOptions}
    (setting : JniSetting) (env : JniEnv) (messagesOwned : messages.handle ∈ env.table.live)
    (optionsOwned : joptions.handle ∈ env.table.live) :
    let sent := dcsctp.sendMany socket
      (messages.object.map Java.DcSctpMessage.toNative) joptions.object.toNative
    ∃ stale table, (stale = [] ↔ ¬joptions.object.Borrows) ∧
      if joptions.object.Borrows ∧ setting.staleUse = .aborts then
        table.live = env.table.live ∧
        (NativeSctpSocket.sendMany_ dcsctp socket messages joptions).run setting env =
          (.error .vmAborted, { env with table, staleUses := stale ++ env.staleUses })
      else
        ∃ handle, table.live = handle :: env.table.live ∧
        (NativeSctpSocket.sendMany_ dcsctp socket messages joptions).run setting env =
          (.ok (⟨handle, sent.1.map Native.SendStatus.toInt32⟩, sent.2),
            { env with table, staleUses := stale ++ env.staleUses }) := by
  intro sent
  rcases convertAll_returns messagesOwned messages.object setting env
      (fun _ member => member) with ⟨converted, convertedLive, convertedRan⟩
  have stillOwned : joptions.handle ∈ converted.live := by simpa [convertedLive]
  rcases convertSendOptions_run setting { env with table := converted } stillOwned with
      ⟨stale, table, live, staleNone, optionsRan⟩
  have tableLive : table.live = env.table.live := live.trans convertedLive
  refine if aborted : joptions.object.Borrows ∧ setting.staleUse = .aborts then
    ⟨stale, table, staleNone, ?_⟩ else ⟨stale, table.acquire, staleNone, ?_⟩
  · rw [if_pos aborted] at optionsRan ⊢
    refine ⟨tableLive, withArrayAccess_run messagesOwned ?_ (by simpa [tableLive])⟩
    rw [run_bind_ok convertedRan, run_bind_error optionsRan]
  · rw [if_neg aborted] at optionsRan ⊢
    refine ⟨table.next, by rw [RefTable.acquire_live, tableLive],
      withArrayAccess_run messagesOwned ?_ (by simp [tableLive, messagesOwned])⟩
    rw [run_bind_ok convertedRan, run_bind_ok optionsRan]
    simp [run_bind, acquire, useRef, sent]

/-! ## `send` and `sendMany` -/

theorem acquireOptional_run (value : Option Int64) (setting : JniSetting) (env : JniEnv) :
    ∃ ref table, (∀ handle ∈ env.table.live, handle ∈ table.live) ∧
      (∀ present ∈ ref, present.handle ∈ table.live) ∧ ref.map LocalRef.object = value ∧
      (acquireOptional value).run setting env = (.ok ref, { env with table }) := by
  cases value with
  | none => exact ⟨none, env.table, fun _ member => member, by simp, rfl, rfl⟩
  | some value =>
      exact ⟨some ⟨env.table.next, value⟩, env.table.acquire,
        fun _ member => List.mem_cons_of_mem _ member, by simp, rfl, rfl⟩

theorem callSend_run (dcsctp : DcSctpSocket σ) (socket : σ) (message : Java.DcSctpMessage)
    (options : Java.SendOptions) (setting : JniSetting) (env : JniEnv) :
    let sent := dcsctp.send socket message.toNative options.toNative
    (NativeSctpSocket.callSend_ dcsctp socket message.payload message.ppid message.streamId
      options.isUnordered options.lifetime options.maxRetransmissions
      options.lifecycleId).run setting env = (.ok (sent.1.toInt32, sent.2), env) := by
  intro sent
  rcases acquireOptional_run options.lifetime setting { env with table := env.table.acquire } with
      ⟨lifetime, lifetimeTable, lifetimeKeeps, lifetimeOwned, lifetimeObject, lifetimeRan⟩
  rcases acquireOptional_run options.maxRetransmissions setting
      { env with table := lifetimeTable } with
      ⟨limit, table, keeps, limitOwned, limitObject, limitRan⟩
  let payload : LocalRef (List Int8) := ⟨env.table.next, message.payload⟩
  have acquired : (acquire message.payload : Jni _).run setting env =
      (.ok payload, { env with table := env.table.acquire }) := rfl
  have payloadOwned : payload.handle ∈ table.live :=
    keeps _ (lifetimeKeeps _ (by simp [payload]))
  rcases sendNative_returns dcsctp socket message.ppid message.streamId options.isUnordered
      options.lifecycleId payloadOwned
      (fun ref present => keeps _ (lifetimeOwned ref present)) limitOwned setting
      { env with table } fun _ member => member with ⟨final, _, ran⟩
  rw [lifetimeObject, limitObject] at ran
  rw [NativeSctpSocket.callSend_, inFrame_run, run_bind_ok acquired,
    run_bind_ok lifetimeRan, run_bind_ok limitRan, ran]

theorem send_run (dcsctp : DcSctpSocket σ) (socket : σ) (message : Java.DcSctpMessage)
    (options : Java.SendOptions) (setting : JniSetting) (env : JniEnv) :
    let sent := dcsctp.send socket message.toNative options.toNative
    (NativeSctpSocket.send dcsctp socket message options).run setting env =
      (.ok (sent.1.toJava, sent.2), env) := by
  intro sent
  rw [NativeSctpSocket.send,
    run_bind_ok (callSend_run dcsctp socket message options setting env),
    run_bind_ok (fromNativeStatus_run sent.1 setting env)]
  rfl

theorem callSendMany_run (dcsctp : DcSctpSocket σ) (socket : σ)
    (messages : List Java.DcSctpMessage) (options : Java.SendOptions)
    (setting : JniSetting) (env : JniEnv) :
    let sent := dcsctp.sendMany socket (messages.map Java.DcSctpMessage.toNative)
      options.toNative
    ∃ stale, (stale = [] ↔ ¬options.Borrows) ∧
      (NativeSctpSocket.callSendMany_ dcsctp socket messages options).run setting env =
        (if options.Borrows ∧ setting.staleUse = .aborts then .error .vmAborted
          else .ok (sent.1.map Native.SendStatus.toInt32, sent.2),
          { env with staleUses := stale ++ env.staleUses }) := by
  intro sent
  let messagesRef : LocalRef (List Java.DcSctpMessage) := ⟨env.table.next, messages⟩
  let optionsRef : LocalRef Java.SendOptions := ⟨env.table.next + 1, options⟩
  let opened : JniEnv := { env with table := env.table.acquire.acquire }
  have messagesOwned : messagesRef.handle ∈ opened.table.live := by
    simp [messagesRef, opened]
  have optionsOwned : optionsRef.handle ∈ opened.table.live := by simp [optionsRef, opened]
  rcases sendManyNative_run dcsctp socket setting opened messagesOwned optionsOwned with
      ⟨stale, table, staleNone, ran⟩
  refine ⟨stale, staleNone, ?_⟩
  have messagesRan : (acquire messages : Jni _).run setting env =
      (.ok messagesRef, { env with table := env.table.acquire }) := rfl
  have optionsRan : (acquire options : Jni _).run setting
      { env with table := env.table.acquire } = (.ok optionsRef, opened) := rfl
  rw [NativeSctpSocket.callSendMany_, inFrame_run, run_bind_ok messagesRan,
    run_bind_ok optionsRan]
  by_cases aborted : options.Borrows ∧ setting.staleUse = .aborts
  · rw [if_pos aborted] at ran ⊢
    rw [run_bind_error ran.2]
  · rw [if_neg aborted] at ran ⊢
    rcases ran with ⟨handle, live, sentRan⟩
    rw [run_bind_ok sentRan]
    simp [run_bind, useRef, live, opened, sent, messagesRef, optionsRef]

theorem sendMany_run (dcsctp : DcSctpSocket σ) (socket : σ)
    (messages : List Java.DcSctpMessage) (options : Java.SendOptions)
    (setting : JniSetting) (env : JniEnv) :
    let sent := dcsctp.sendMany socket (messages.map Java.DcSctpMessage.toNative)
      options.toNative
    ∃ stale, (stale = [] ↔ ¬options.Borrows) ∧
      (NativeSctpSocket.sendMany dcsctp socket messages options).run setting env =
        (if options.Borrows ∧ setting.staleUse = .aborts then .error .vmAborted
          else .ok (sent.1.map Native.SendStatus.toJava, sent.2),
          { env with staleUses := stale ++ env.staleUses }) := by
  intro sent
  rcases callSendMany_run dcsctp socket messages options setting env with
      ⟨stale, staleNone, ran⟩
  refine ⟨stale, staleNone, ?_⟩
  rw [NativeSctpSocket.sendMany]
  split at ran
  · rw [run_bind_error ran, if_pos ‹_›]
  · rw [run_bind_ok ran, if_neg ‹_›]
    exact run_bind_ok (fromNativeStatuses_run setting _ sent.1) _

/-! ## Sending in turn -/

def sendInTurn (dcsctp : DcSctpSocket σ) (options : Java.SendOptions) :
    σ → List Java.DcSctpMessage → Jni (List Java.SendStatus × σ)
  | socket, [] => pure ([], socket)
  | socket, message :: rest => do
      let (status, socket) ← NativeSctpSocket.send dcsctp socket message options
      let (statuses, socket) ← sendInTurn dcsctp options socket rest
      return (status :: statuses, socket)

theorem sendEach_length
    (send : σ → Native.DcSctpMessage → Native.SendOptions → Native.SendStatus × σ)
    (options : Native.SendOptions) (messages : List Native.DcSctpMessage) (socket : σ) :
    (DcSctpSocket.sendEach send options socket messages).1.length = messages.length := by
  induction messages generalizing socket with
  | nil => rfl
  | cons message rest induction => simp [DcSctpSocket.sendEach, induction]

theorem sendInTurn_run (dcsctp : DcSctpSocket σ) (options : Java.SendOptions)
    (setting : JniSetting) (env : JniEnv) (messages : List Java.DcSctpMessage) (socket : σ) :
    let sent := DcSctpSocket.sendEach dcsctp.send options.toNative socket
      (messages.map Java.DcSctpMessage.toNative)
    (sendInTurn dcsctp options socket messages).run setting env =
      (.ok (sent.1.map Native.SendStatus.toJava, sent.2), env) := by
  induction messages generalizing socket with
  | nil => rfl
  | cons message rest induction =>
      rw [sendInTurn, run_bind_ok (send_run dcsctp socket message options setting env),
        run_bind_ok (induction _)]
      rfl

/-- `sendMany` returns one status for each message, the ones that sending the
messages in turn returns, and leaves the socket in the same state. -/
def BatchAgrees (dcsctp : DcSctpSocket σ) (socket : σ) (messages : List Java.DcSctpMessage)
    (options : Java.SendOptions) (setting : JniSetting) (env : JniEnv) : Prop :=
  ∃ statuses socket', statuses.length = messages.length ∧
    ((NativeSctpSocket.sendMany dcsctp socket messages options).run setting env).1 =
      .ok (statuses, socket') ∧
    ((sendInTurn dcsctp options socket messages).run setting env).1 =
      .ok (statuses, socket')

/-- Where a stale use goes unpunished the two paths always agree, whatever the
numbers: the conversions are the same. -/
theorem batchAgrees_of_survives {dcsctp : DcSctpSocket σ} (batches : dcsctp.Batches)
    (socket : σ) (messages : List Java.DcSctpMessage) (options : Java.SendOptions)
    (setting : JniSetting) (env : JniEnv)
    (survives : ¬(options.Borrows ∧ setting.staleUse = .aborts)) :
    BatchAgrees dcsctp socket messages options setting env := by
  rcases sendMany_run dcsctp socket messages options setting env with ⟨stale, -, ran⟩
  rw [if_neg survives, batches] at ran
  refine ⟨_, _, ?_, by rw [ran], by rw [sendInTurn_run]⟩
  simp [sendEach_length]

theorem not_batchAgrees_of_aborts (dcsctp : DcSctpSocket σ) (socket : σ)
    (messages : List Java.DcSctpMessage) {options : Java.SendOptions}
    {setting : JniSetting} (env : JniEnv) (borrows : options.Borrows)
    (aborts : setting.staleUse = .aborts) :
    ¬BatchAgrees dcsctp socket messages options setting env := by
  intro agrees
  rcases agrees with ⟨statuses, socket', -, returned, -⟩
  rcases sendMany_run dcsctp socket messages options setting env with ⟨stale, -, ran⟩
  rw [ran, if_pos ⟨borrows, aborts⟩] at returned
  simp at returned

/-- The batch path is safe exactly for options without lifetime and without a
limit of retransmissions. -/
theorem sendMany_agrees_iff (dcsctp : DcSctpSocket σ) (batches : dcsctp.Batches)
    (socket : σ) (messages : List Java.DcSctpMessage) (options : Java.SendOptions) :
    (∀ setting env, BatchAgrees dcsctp socket messages options setting env) ↔
      options.lifetime = none ∧ options.maxRetransmissions = none := by
  constructor
  · intro agrees
    by_contra borrows
    exact not_batchAgrees_of_aborts dcsctp socket messages emptyEnv borrows rfl
      (agrees compliantSetting emptyEnv)
  · intro bothNone setting env
    exact batchAgrees_of_survives batches socket messages options setting env
      fun aborted => aborted.1 bothNone

def queueingSocket : DcSctpSocket (List Native.DcSctpMessage) where
  send := queueingSend
  sendMany queue messages options :=
    DcSctpSocket.sendEach queueingSend options queue messages
where
  queueingSend (queue : List Native.DcSctpMessage) (message : Native.DcSctpMessage)
      (_ : Native.SendOptions) : Native.SendStatus × List Native.DcSctpMessage :=
    if message.payload = [] then (.kErrorMessageEmpty, queue)
    else (.kSuccess, queue ++ [message])

theorem sendMany_agrees_iff_unlimited :
    (∀ setting env, BatchAgrees queueingSocket [] [⟨-1, -1, [-128]⟩, ⟨0, 51, []⟩]
        { lifecycleId := -7 } setting env) ↔
      (none : Option Int64) = none ∧ (none : Option Int64) = none :=
  sendMany_agrees_iff queueingSocket (fun _ _ _ => rfl) [] _ { lifecycleId := -7 }

/-- The failing input: one message with a lifetime of a second. -/
theorem sendMany_with_lifetime_aborts :
    ((NativeSctpSocket.sendMany queueingSocket [] [⟨1, 51, [65]⟩]
        { lifetime := some 1000 }).run compliantSetting emptyEnv).1 = .error .vmAborted ∧
      ((sendInTurn queueingSocket { lifetime := some 1000 } [] [⟨1, 51, [65]⟩]).run
        compliantSetting emptyEnv).1 = .ok ([.kSuccess], [⟨⟨1⟩, ⟨51⟩, [65]⟩]) ∧
      ¬BatchAgrees queueingSocket [] [⟨1, 51, [65]⟩] { lifetime := some 1000 }
        compliantSetting emptyEnv :=
  ⟨rfl, rfl, not_batchAgrees_of_aborts queueingSocket [] _ emptyEnv (by decide) rfl⟩

end Dcsctp4j
