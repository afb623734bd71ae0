import Dcsctp4j.LogFilter
import Dcsctp4j.NativeLifetime

/-! # Log proxies and their threads

The Java class `LogProxy`, the native sink behind it, the `Cleaner` and the garbage
collector, under any interleaving of threads that register a proxy and threads
whose native code logs. Neither constructor takes a lock between its check of
`instance` and what follows.
-/

namespace Dcsctp4j

open Transition

/-! ## Memory and threads -/

/-- The native `LogProxy` with its `jglobal_ref`, and the severity it was added to
WebRTC's streams with. -/
structure NativeLogProxy where
  logProxy : Object
  minSeverity : Native.LoggingSeverity
  deleted : Bool
deriving DecidableEq

/-- How far `register` has come: before `registerNative`, past the check of the native
`instance`, past its assignment, past `AddLogToStream`, and past `CLEANER.register`. -/
inductive ProxyStage
  | entered
  | checked
  | assigned (ptr : Pointer)
  | native (ptr : Pointer)
  | constructed
deriving DecidableEq

inductive ProxyFrame
  | constructor (object : Object) (stage : ProxyStage)
  | onLogMessage (ptr : Pointer) (line : Native.LogLineRef)
  | destruct (ptr : Pointer)
deriving DecidableEq

def ProxyFrame.registers : ProxyFrame → Bool
  | constructor .. => true
  | onLogMessage .. | destruct _ => false

/-- Java proxies are numbered, and native ones are positions in `natives`. Both
classes have a field `instance`. -/
structure LogWorld where
  proxies : Nat
  natives : List NativeLogProxy
  javaInstance : Option Object
  nativeInstance : Option Pointer
  streams : List Pointer
  stack : Thread → List ProxyFrame
  cleaner : List Cleanable

namespace LogWorld

def setStack (world : LogWorld) (thread : Thread) (stack : List ProxyFrame) : LogWorld :=
  { world with stack := Function.update world.stack thread stack }

/-- `instance = this`. -/
def assign (world : LogWorld) (object : Object) (minSeverity : Native.LoggingSeverity) :
    LogWorld :=
  { world with
    natives := world.natives ++ [{ logProxy := object, minSeverity, deleted := false }]
    nativeInstance := some world.natives.length }

def addLogToStream (world : LogWorld) (ptr : Pointer) : LogWorld :=
  { world with streams := world.streams ++ [ptr] }

/-- `~LogProxy`. -/
def deleteSink (world : LogWorld) (ptr : Pointer) : LogWorld :=
  { world with
    natives := world.natives.modify ptr fun native => { native with deleted := true }
    nativeInstance := if world.nativeInstance = some ptr then none else world.nativeInstance
    streams := world.streams.erase ptr }

/-- A proxy is reachable from the static field, from its constructor and from the
global reference of a native one. -/
def Reachable (world : LogWorld) (object : Object) : Prop :=
  world.javaInstance = some object ∨
    (∃ thread stage, .constructor object stage ∈ world.stack thread) ∨
    ∃ native ∈ world.natives, native.deleted = false ∧ native.logProxy = object

def receivers (world : LogWorld) (line : Native.LogLineRef) : List Pointer :=
  world.streams.filter fun ptr =>
    LogProxy.gets (world.natives[ptr]?.map NativeLogProxy.minSeverity) line

def registrations (world : LogWorld) (thread : Thread) : Nat :=
  (world.stack thread).countP ProxyFrame.registers

end LogWorld

/-! ## Steps -/

inductive LogProxyEvent
  | register
  | registered
  | line (line : Native.LogLineRef) (receivers : List Pointer)
  | collector
  | destruct (ptr : Pointer)
  | other
deriving DecidableEq

inductive LogProxyStep (minSeverity : Java.LoggingSeverity) :
    LogWorld → LogProxyEvent → LogWorld → Prop
  /-- `register` finds no instance and makes a proxy. -/
  | new {world : LogWorld} {thread : Thread} (null : world.javaInstance = none) :
      LogProxyStep minSeverity world .register
        ({ world with proxies := world.proxies + 1 }.setStack thread
          (.constructor world.proxies .entered :: world.stack thread))
  | check {world : LogWorld} {thread : Thread} {object : Object} {rest : List ProxyFrame}
      (top : world.stack thread = .constructor object .entered :: rest)
      (null : world.nativeInstance = none) :
      LogProxyStep minSeverity world .other
        (world.setStack thread (.constructor object .checked :: rest))
  /-- "LogProxy registered multiple times": the exception leaves the constructors. -/
  | refuse {world : LogWorld} {thread : Thread} {object : Object} {rest : List ProxyFrame}
      (top : world.stack thread = .constructor object .entered :: rest)
      (registered : world.nativeInstance ≠ none) :
      LogProxyStep minSeverity world .other (world.setStack thread rest)
  | assign {world : LogWorld} {thread : Thread} {object : Object} {rest : List ProxyFrame}
      (top : world.stack thread = .constructor object .checked :: rest) :
      LogProxyStep minSeverity world .other
        ((world.assign object (LoggingSeverityMembers.mapToNative minSeverity)).setStack thread
          (.constructor object (.assigned world.natives.length) :: rest))
  | addLogToStream {world : LogWorld} {thread : Thread} {object : Object} {ptr : Pointer}
      {rest : List ProxyFrame}
      (top : world.stack thread = .constructor object (.assigned ptr) :: rest) :
      LogProxyStep minSeverity world .registered
        ((world.addLogToStream ptr).setStack thread (.constructor object (.native ptr) :: rest))
  | registerCleaner {world : LogWorld} {thread : Thread} {object : Object} {ptr : Pointer}
      {rest : List ProxyFrame}
      (top : world.stack thread = .constructor object (.native ptr) :: rest) :
      LogProxyStep minSeverity world .other
        ({ world with
            cleaner := { object, ptr, stage := .waiting } :: world.cleaner }.setStack thread
          (.constructor object .constructed :: rest))
  /-- `instance = new LogProxy()`. -/
  | store {world : LogWorld} {thread : Thread} {object : Object} {rest : List ProxyFrame}
      (top : world.stack thread = .constructor object .constructed :: rest) :
      LogProxyStep minSeverity world .other
        ({ world with javaInstance := some object }.setStack thread rest)
  | logLine {world : LogWorld} {thread : Thread} {line : Native.LogLineRef} :
      LogProxyStep minSeverity world (.line line (world.receivers line))
        (world.setStack thread
          ((world.receivers line).map (.onLogMessage · line) ++ world.stack thread))
  | logReturns {world : LogWorld} {thread : Thread} {ptr : Pointer} {line : Native.LogLineRef}
      {rest : List ProxyFrame} (top : world.stack thread = .onLogMessage ptr line :: rest) :
      LogProxyStep minSeverity world .other (world.setStack thread rest)
  | enqueue {world : LogWorld} {entry : Cleanable} (member : entry ∈ world.cleaner)
      (waiting : entry.stage = .waiting) (unreachable : ¬world.Reachable entry.object) :
      LogProxyStep minSeverity world .collector
        { world with cleaner := world.cleaner.map (Cleanable.advance entry.ptr .enqueued) }
  | destruct {world : LogWorld} {thread : Thread} {entry : Cleanable}
      (member : entry ∈ world.cleaner) (enqueued : entry.stage = .enqueued)
      (idle : world.stack thread = []) :
      LogProxyStep minSeverity world (.destruct entry.ptr)
        ({ world with
            cleaner := world.cleaner.map (Cleanable.advance entry.ptr .ran) }.setStack thread
          [.destruct entry.ptr])
  | destructReturns {world : LogWorld} {thread : Thread} {ptr : Pointer}
      {rest : List ProxyFrame} (top : world.stack thread = .destruct ptr :: rest) :
      LogProxyStep minSeverity world .other ((world.deleteSink ptr).setStack thread rest)

structure LogWorld.Initial (world : LogWorld) : Prop where
  proxies : world.proxies = 0
  natives : world.natives = []
  javaInstance : world.javaInstance = none
  nativeInstance : world.nativeInstance = none
  streams : world.streams = []
  stack : ∀ thread, world.stack thread = []
  cleaner : world.cleaner = []

/-- What the code alone allows. -/
def unlockedLogProxies (minSeverity : Java.LoggingSeverity) : System LogWorld LogProxyEvent where
  initial := LogWorld.Initial
  step := LogProxyStep minSeverity

/-- The static initializer of `DcSctp4j` is the only caller of `register`, and the JVM
lets one thread at a time initialize a class. -/
def logProxies (minSeverity : Java.LoggingSeverity) : System LogWorld LogProxyEvent where
  initial := LogWorld.Initial
  step first event last := LogProxyStep minSeverity first event last ∧
    (event = .register → ∀ thread, first.registrations thread = 0)

end Dcsctp4j
