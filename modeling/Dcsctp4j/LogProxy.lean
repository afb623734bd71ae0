import Dcsctp4j.WrappedObjects

/-! # Log lines on their way to Java

`LogProxy::OnLogMessage` of `log_proxy.cpp` and `LogProxy.onLogMessage` behind
it.
-/

namespace Dcsctp4j

open NativeFrame NativeFrame.Program

/-! ## The Java side -/

def asciiText (text : String) : JString :=
  text.toList.map fun char => char.toNat.toUInt16

namespace Java.LogProxy

/-- What `StringBuilder.append` makes of a string that may be null. -/
def appended (text : Option JString) : JString :=
  text.getD (asciiText "null")

def formattedMessage (message filename : Option JString) (line : Int32) :
    Option JString :=
  if filename = none ∧ line = 0 then
    message
  else
    let file := filename.getD []
    let number := if line ≠ 0 then asciiText s!"#{line.toInt}" else []
    some (file ++ number ++ asciiText ": " ++ appended message)

def instant (timestampUs : Int64) : Option Instant :=
  if timestampUs ≠ Int64.minValue then
    some
      { epochSecond := Int64.ofInt (timestampUs.toInt.fdiv 1000000)
        nano := Int32.ofInt (timestampUs.toInt.fmod 1000000 * 1000) }
  else
    none

def onLogMessage (message filename : Option JString) (line : Int32)
    (threadId : Option Int32) (timestampUs : Int64) (severity : LoggingSeverity) :
    Jni Unit :=
  callJava <| .log
    { level := severity.level
      message := formattedMessage message filename line
      instant := instant timestampUs
      threadId := threadId }

end Java.LogProxy

/-! ## The native side -/

def withOptionalLocal {ε α : Type} :
    Option ε → (Option (LocalRef ε) → Jni α) → Jni α
  | none, body => body none
  | some object, body => withLocal object fun ref => body (some ref)

/-- `Integer_class::fromOptionalInt`: the reference is released, so nothing
deletes it. -/
def Integer.fromOptionalInt : Option Int32 → Jni (Option (LocalRef Int32))
  | none => pure none
  | some value => do
      let ref ← acquire value
      return some ref

def passOptional {ε : Type} : Option (LocalRef ε) → Jni Unit
  | none => pure ()
  | some ref => do
      let _ ← useRef ref
      return ()

namespace LogProxy

def timestampUs (timestamp : Native.Timestamp) : Int64 :=
  if timestamp.isFinite then timestamp.us else Int64.minValue

/-- The Java object is reached through a global reference. -/
def onLogMessage (libraries : Libraries) (line : Native.LogLineRef) : Jni Unit :=
  let message := line.message.map libraries.javaStringCreate
  let filename := line.filename.map libraries.javaStringCreate
  withOptionalLocal message fun messageRef =>
  withOptionalLocal filename fun filenameRef => do
    let threadId ← Integer.fromOptionalInt line.threadId
    let timestampUs := timestampUs line.timestamp
    let severity := LoggingSeverityMembers.map line.severity
    passOptional messageRef
    passOptional filenameRef
    passOptional threadId
    Java.LogProxy.onLogMessage message filename line.line line.threadId timestampUs severity

def record (libraries : Libraries) (line : Native.LogLineRef) : Java.LogRecord where
  level := (LoggingSeverityMembers.map line.severity).level
  message := Java.LogProxy.formattedMessage (line.message.map libraries.javaStringCreate)
    (line.filename.map libraries.javaStringCreate) line.line
  instant := Java.LogProxy.instant (timestampUs line.timestamp)
  threadId := line.threadId

end LogProxy

/-! ## What a line brings to the logger -/

section Lines

variable {held : List Nat} {calls : List ApplicationCall}

theorem withOptionalLocal_makes {ε α : Type} (object : Option ε)
    {body : Option (LocalRef ε) → Jni α}
    (inner : ∀ (held' : List Nat) ref, (∀ handle ∈ held, handle ∈ held') →
      (∀ present ∈ ref, present.handle ∈ held') → Makes held' (body ref) calls) :
    Makes held (withOptionalLocal object body) calls := by
  cases object with
  | none => exact inner held none (fun _ member => member) (by simp)
  | some object =>
      apply Makes.withLocal
      intro handle
      exact inner (handle :: held) (some ⟨handle, object⟩)
        (fun _ member => List.mem_cons_of_mem _ member) (by simp)

theorem fromOptionalInt_makes {α : Type} (value : Option Int32)
    {next : Option (LocalRef Int32) → Jni α}
    (rest : ∀ more ref, (∀ handle ∈ held, handle ∈ more) →
      (∀ present ∈ ref, present.handle ∈ more) → Makes more (next ref) calls) :
    Makes held (Integer.fromOptionalInt value >>= next) calls := by
  cases value with
  | none => exact rest held none (fun _ member => member) (by simp)
  | some value =>
      have makes : Makes held (acquire value >>= fun ref => next (some ref)) calls :=
        Makes.acquire value fun handle => rest (handle :: held) (some ⟨handle, value⟩)
          (fun _ member => List.mem_cons_of_mem _ member) (by simp)
      exact makes

theorem passOptional_contract {ε : Type} (ref : Option (LocalRef ε))
    (owned : ∀ present ∈ ref, present.handle ∈ held) :
    Contract held (passOptional ref) [] [] := by
  cases ref with
  | none => exact Contract.pure ()
  | some present =>
      exact Contract.afterSilent (Contract.useRef (owned present rfl)) fun _ =>
        Contract.pure ()

/-- Every line that is passed on reaches the logger as one record. -/
theorem onLogMessage_makes (libraries : Libraries) (line : Native.LogLineRef)
    (held : List Nat) :
    Makes held (LogProxy.onLogMessage libraries line)
      [.log (LogProxy.record libraries line)] := by
  apply withOptionalLocal_makes
  intro messageHeld messageRef _ messageOwned
  apply withOptionalLocal_makes
  intro filenameHeld filenameRef includes filenameOwned
  apply fromOptionalInt_makes
  intro more threadRef subset threadOwned
  apply Makes.afterSilent (passOptional_contract messageRef fun ref present =>
    subset _ (includes _ (messageOwned ref present)))
  intro _
  apply Makes.afterSilent (passOptional_contract filenameRef fun ref present =>
    subset _ (filenameOwned ref present))
  intro _
  apply Makes.afterSilent (passOptional_contract threadRef threadOwned)
  intro _
  exact Makes.call _

theorem onLogMessage_received (libraries : Libraries) (line : Native.LogLineRef)
    (setting : JniSetting) (env : JniEnv) :
    ((LogProxy.onLogMessage libraries line).run setting env).2.received =
      env.received ++ [.log (LogProxy.record libraries line)] :=
  onLogMessage_makes libraries line [] setting env (by simp)

end Lines

end Dcsctp4j
