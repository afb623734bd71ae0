import Mathlib.Logic.Function.Basic
import Dcsctp4j.Foundation.ObjectGraph
import Dcsctp4j.Foundation.Transition

/-! # The life of a native socket

`DcSctpSocketFactory.create` and the Java class `NativeSctpSocket`, the native
socket behind them, the `Cleaner` and the garbage collector, under any
interleaving of application threads. Objects and native allocations are known by
identity: a pointer names one allocation and is not used again after it.
-/

namespace Dcsctp4j

open ObjectGraph Transition

abbrev Object := Nat

abbrev Pointer := Nat

abbrev Thread := Nat

/-! ## Memory -/

/-- The fields of a Java object that hold references; a `NativeSctpSocket` also
keeps its pointer. -/
inductive JavaObject
  | application (fields : List Object)
  | nativeSctpSocket (callbacks : Object) (packetObserver : Option Object) (ptr : Pointer)
deriving DecidableEq

def JavaObject.references : JavaObject → List Object
  | application fields => fields
  | nativeSctpSocket callbacks packetObserver _ => callbacks :: packetObserver.toList

/-- A `jweak_ref`, which the collector may clear. -/
structure WeakRef where
  target : Object
  cleared : Bool
deriving DecidableEq

/-- The native `NativeSctpSocket` with the references that its callbacks, its
observer and its timeouts hold. Those of the timeouts are `jglobal_ref`s. -/
structure NativeSocket where
  callbacks : WeakRef
  packetObserver : Option WeakRef
  timeouts : List Object
deriving DecidableEq

namespace NativeSocket

def weaks (native : NativeSocket) : List WeakRef :=
  native.callbacks :: native.packetObserver.toList

def new (callbacks : Object) (packetObserver : Option Object) : NativeSocket where
  callbacks := { target := callbacks, cleared := false }
  packetObserver := packetObserver.map fun observer => { target := observer, cleared := false }
  timeouts := []

def addTimeout (timeout : Object) (native : NativeSocket) : NativeSocket :=
  { native with timeouts := timeout :: native.timeouts }

def release (native : NativeSocket) : NativeSocket :=
  { native with timeouts := [] }

def clearCallbacks (native : NativeSocket) : NativeSocket :=
  { native with callbacks := { native.callbacks with cleared := true } }

def clearPacketObserver (native : NativeSocket) : NativeSocket :=
  { native with
    packetObserver := native.packetObserver.map fun weak => { weak with cleared := true } }

end NativeSocket

/-! ## Threads -/

inductive Purpose
  | program
  | createTimeout
  | callback
deriving DecidableEq

/-- How far `create` has come: before the native part, in it, and between its
return and the constructor. -/
inductive CreateStage
  | entered
  | native (ptr : Pointer)
  | returned (ptr : Pointer)
deriving DecidableEq

/-- A `method` frame holds the monitor of its socket. Native code runs in it
while `inNative`; otherwise it runs the Java statements around the native call. -/
inductive Frame
  | application (purpose : Purpose) (held : List Object)
  | create (callbacks : Object) (packetObserver : Option Object) (stage : CreateStage)
  | method (socket : Object) (arguments : List Object) (inNative : Bool)
  | destruct (ptr : Pointer)
deriving DecidableEq

namespace Frame

def objects : Frame → List Object
  | application _ held => held
  | create callbacks packetObserver _ => callbacks :: packetObserver.toList
  | method socket arguments _ => socket :: arguments
  | destruct _ => []

def claim : Frame → Option Pointer
  | create _ _ (.native ptr) | create _ _ (.returned ptr) | destruct ptr => some ptr
  | _ => none

def monitor : Frame → Option Object
  | method socket _ _ => some socket
  | _ => none

end Frame

/-! ## The `Cleaner` -/

inductive CleanStage
  | waiting
  | enqueued
  | ran
deriving DecidableEq

/-- One registered action: `destruct(ptr)` once `object` is unreachable. -/
structure Cleanable where
  object : Object
  ptr : Pointer
  stage : CleanStage
deriving DecidableEq

def Cleanable.advance (ptr : Pointer) (stage : CleanStage) (entry : Cleanable) : Cleanable :=
  if entry.ptr = ptr then { entry with stage } else entry

/-! ## The whole process -/

/-- Objects and native sockets are positions in `heap` and `natives`; a stack
has its innermost frame first. `started` logs the starts of `destruct`. -/
@[ext] structure World where
  heap : List JavaObject
  natives : List NativeSocket
  statics : List Object
  stack : Thread → List Frame
  cleaner : List Cleanable
  started : List Pointer

namespace World

def setStack (world : World) (thread : Thread) (stack : List Frame) : World :=
  { world with stack := Function.update world.stack thread stack }

def addObject (world : World) (object : JavaObject) : World :=
  { world with heap := world.heap ++ [object] }

def store (world : World) (object : Object) (fields : List Object) : World :=
  { world with heap := world.heap.set object (.application fields) }

def addNative (world : World) (native : NativeSocket) : World :=
  { world with natives := world.natives ++ [native] }

def updateNative (world : World) (ptr : Pointer) (change : NativeSocket → NativeSocket) :
    World :=
  { world with natives := world.natives.modify ptr change }

/-- `CLEANER.register(this, () -> destruct(ptr))`. -/
def register (world : World) (object : Object) (ptr : Pointer) : World :=
  { world with cleaner := { object, ptr, stage := .waiting } :: world.cleaner }

def advance (world : World) (ptr : Pointer) (stage : CleanStage) : World :=
  { world with cleaner := world.cleaner.map (Cleanable.advance ptr stage) }

def logStart (world : World) (ptr : Pointer) : World :=
  { world with started := ptr :: world.started }

def Points (world : World) (holder object : Object) : Prop :=
  ∃ fields, world.heap[holder]? = some fields ∧ object ∈ fields.references

def applicationRoots (world : World) : Set Object :=
  { object | object ∈ world.statics ∨
      ∃ thread, ∃ frame ∈ world.stack thread, object ∈ frame.objects }

def globalRoots (world : World) : Set Object :=
  { object | ∃ native ∈ world.natives, object ∈ native.timeouts }

def Reachable (world : World) (object : Object) : Prop :=
  Reaches world.Points (world.applicationRoots ∪ world.globalRoots) object

/-- What application code can read next: what it holds, static fields and the
fields of its objects. Those of `NativeSctpSocket` are hidden from it. -/
def Readable (world : World) (held : List Object) (object : Object) : Prop :=
  object ∈ held ∨ object ∈ world.statics ∨
    ∃ holder ∈ held, ∃ fields,
      world.heap[holder]? = some (.application fields) ∧ object ∈ fields

/-- The frame runs native code of the socket behind `ptr`, under `create_` or
under a method. -/
inductive RunsNative (world : World) : Frame → Pointer → Prop
  | create {callbacks : Object} {packetObserver : Option Object} {ptr : Pointer} :
      RunsNative world (.create callbacks packetObserver (.native ptr)) ptr
  | method {socket callbacks : Object} {arguments : List Object}
      {packetObserver : Option Object} {ptr : Pointer}
      (object : world.heap[socket]? =
        some (.nativeSctpSocket callbacks packetObserver ptr)) :
      RunsNative world (.method socket arguments true) ptr

def HoldsMonitor (world : World) (thread : Thread) (socket : Object) : Prop :=
  ∃ frame ∈ world.stack thread, Frame.monitor frame = some socket

end World

/-! ## Steps -/

inductive Move (world : World) (thread : Thread) : List Frame → List Frame → Prop
  | compute {purpose : Purpose} {held after : List Object} {rest : List Frame}
      (readable : ∀ object ∈ after, world.Readable held object) :
      Move world thread (.application purpose held :: rest)
        (.application purpose after :: rest)
  | callCreate {purpose : Purpose} {held : List Object} {rest : List Frame}
      {callbacks : Object} {packetObserver : Option Object} (given : callbacks ∈ held)
      (observerGiven : ∀ observer ∈ packetObserver, observer ∈ held) :
      Move world thread (.application purpose held :: rest)
        (.create callbacks packetObserver .entered :: .application purpose held :: rest)
  | createRefused {callbacks : Object} {packetObserver : Option Object} {rest : List Frame} :
      Move world thread (.create callbacks packetObserver .entered :: rest) rest
  | createReturns {callbacks : Object} {packetObserver : Option Object} {ptr : Pointer}
      {rest : List Frame} :
      Move world thread (.create callbacks packetObserver (.native ptr) :: rest)
        (.create callbacks packetObserver (.returned ptr) :: rest)
  /-- A `synchronized` method waits until no other thread holds the monitor. -/
  | callMethod {purpose : Purpose} {held arguments : List Object} {rest : List Frame}
      {socket callbacks : Object} {packetObserver : Option Object} {ptr : Pointer}
      (given : socket ∈ held) (argumentsGiven : ∀ argument ∈ arguments, argument ∈ held)
      (object : world.heap[socket]? =
        some (.nativeSctpSocket callbacks packetObserver ptr))
      (free : ∀ other, other ≠ thread → ¬world.HoldsMonitor other socket) :
      Move world thread (.application purpose held :: rest)
        (.method socket arguments false :: .application purpose held :: rest)
  /-- The Java statements of a method run methods of its arguments. -/
  | useArguments {socket : Object} {arguments held : List Object} {rest : List Frame}
      (given : ∀ object ∈ held, object ∈ arguments) :
      Move world thread (.method socket arguments false :: rest)
        (.application .callback held :: .method socket arguments false :: rest)
  | enterNative {socket : Object} {arguments : List Object} {rest : List Frame} :
      Move world thread (.method socket arguments false :: rest)
        (.method socket arguments true :: rest)
  | leaveNative {socket : Object} {arguments : List Object} {rest : List Frame} :
      Move world thread (.method socket arguments true :: rest)
        (.method socket arguments false :: rest)
  | methodReturns {socket : Object} {arguments : List Object} {rest : List Frame} :
      Move world thread (.method socket arguments false :: rest) rest
  /-- `WrappedSocketCallbacks` reaches its object through `getObj`. -/
  | callback {frame : Frame} {rest : List Frame} {ptr : Pointer} {native : NativeSocket}
      {purpose : Purpose} (runs : world.RunsNative frame ptr)
      (bound : world.natives[ptr]? = some native)
      (resolves : native.callbacks.cleared = false) (kind : purpose ≠ .program) :
      Move world thread (frame :: rest)
        (.application purpose [native.callbacks.target] :: frame :: rest)
  | observe {frame : Frame} {rest : List Frame} {ptr : Pointer} {native : NativeSocket}
      {observer : WeakRef} (runs : world.RunsNative frame ptr)
      (bound : world.natives[ptr]? = some native)
      (present : native.packetObserver = some observer)
      (resolves : observer.cleared = false) :
      Move world thread (frame :: rest)
        (.application .callback [observer.target] :: frame :: rest)
  /-- `WrappedTimeout` has a global reference, also while the socket is deleted. -/
  | timer {frame : Frame} {rest : List Frame} {ptr : Pointer} {native : NativeSocket}
      {timeout : Object} (runs : world.RunsNative frame ptr ∨ frame = .destruct ptr)
      (bound : world.natives[ptr]? = some native) (member : timeout ∈ native.timeouts) :
      Move world thread (frame :: rest)
        (.application .callback [timeout] :: frame :: rest)
  | finish {purpose : Purpose} {held : List Object} {rest : List Frame} :
      Move world thread (.application purpose held :: rest) rest

inductive Event
  | thread (thread : Thread)
  | timeoutCreated (ptr : Pointer) (timeout : Object)
  | collector
  | destruct (ptr : Pointer)
  | deleted (ptr : Pointer)
deriving DecidableEq

inductive Step : World → Event → World → Prop
  | move {world : World} {thread : Thread} {before after : List Frame}
      (top : world.stack thread = before) (move : Move world thread before after) :
      Step world (.thread thread) (world.setStack thread after)
  | store {world : World} {thread : Thread} {purpose : Purpose} {held fields after : List Object}
      {rest : List Frame} {object : Object}
      (top : world.stack thread = .application purpose held :: rest) (given : object ∈ held)
      (shape : world.heap[object]? = some (.application fields))
      (stored : ∀ field ∈ after, field ∈ fields ∨ field ∈ held) :
      Step world (.thread thread) (world.store object after)
  | storeStatic {world : World} {thread : Thread} {purpose : Purpose}
      {held after : List Object} {rest : List Frame}
      (top : world.stack thread = .application purpose held :: rest)
      (stored : ∀ object ∈ after, object ∈ world.statics ∨ object ∈ held) :
      Step world (.thread thread) { world with statics := after }
  | allocate {world : World} {thread : Thread} {purpose : Purpose}
      {held fields : List Object} {rest : List Frame}
      (top : world.stack thread = .application purpose held :: rest)
      (given : ∀ field ∈ fields, field ∈ held) :
      Step world (.thread thread)
        ((world.addObject (.application fields)).setStack thread
          (.application purpose (world.heap.length :: held) :: rest))
  | spawn {world : World} {thread other : Thread} {purpose : Purpose}
      {held given : List Object} {rest : List Frame}
      (top : world.stack thread = .application purpose held :: rest)
      (idle : world.stack other = []) (passed : ∀ object ∈ given, object ∈ held) :
      Step world (.thread thread) (world.setStack other [.application .program given])
  | create_ {world : World} {thread : Thread} {callbacks : Object}
      {packetObserver : Option Object} {rest : List Frame}
      (top : world.stack thread = .create callbacks packetObserver .entered :: rest) :
      Step world (.thread thread)
        ((world.addNative (.new callbacks packetObserver)).setStack thread
          (.create callbacks packetObserver (.native world.natives.length) :: rest))
  /-- An exception leaves `create_`. Its `unique_ptr` has no dcsctp socket yet, so what
  dcsctp had made of one stays, with its timeouts. -/
  | createFails {world : World} {thread : Thread} {callbacks : Object}
      {packetObserver : Option Object} {ptr : Pointer} {rest : List Frame}
      (top : world.stack thread = .create callbacks packetObserver (.native ptr) :: rest) :
      Step world (.thread thread) (world.setStack thread rest)
  /-- The same where dcsctp is built so that an exception destroys what it had made. -/
  | createUnwinds {world : World} {thread : Thread} {callbacks : Object}
      {packetObserver : Option Object} {ptr : Pointer} {rest : List Frame}
      (top : world.stack thread = .create callbacks packetObserver (.native ptr) :: rest) :
      Step world (.deleted ptr) ((world.updateNative ptr .release).setStack thread rest)
  | construct {world : World} {thread : Thread} {callbacks : Object}
      {packetObserver : Option Object} {ptr : Pointer} {purpose : Purpose}
      {held : List Object} {rest : List Frame}
      (top : world.stack thread = .create callbacks packetObserver (.returned ptr) ::
        .application purpose held :: rest) :
      Step world (.thread thread)
        (((world.addObject (.nativeSctpSocket callbacks packetObserver ptr)).register
          world.heap.length ptr).setStack thread
            (.application purpose (world.heap.length :: held) :: rest))
  | createTimeout {world : World} {thread : Thread} {held : List Object} {frame : Frame}
      {rest : List Frame} {ptr : Pointer} {timeout : Object}
      (top : world.stack thread = .application .createTimeout held :: frame :: rest)
      (runs : world.RunsNative frame ptr) (returned : timeout ∈ held) :
      Step world (.timeoutCreated ptr timeout)
        ((world.updateNative ptr (.addTimeout timeout)).setStack thread (frame :: rest))
  | clearCallbacks {world : World} {ptr : Pointer} {native : NativeSocket}
      (bound : world.natives[ptr]? = some native)
      (unreachable : ¬world.Reachable native.callbacks.target) :
      Step world .collector (world.updateNative ptr .clearCallbacks)
  | clearPacketObserver {world : World} {ptr : Pointer} {native : NativeSocket}
      {observer : WeakRef} (bound : world.natives[ptr]? = some native)
      (present : native.packetObserver = some observer)
      (unreachable : ¬world.Reachable observer.target) :
      Step world .collector (world.updateNative ptr .clearPacketObserver)
  | enqueue {world : World} {entry : Cleanable} (member : entry ∈ world.cleaner)
      (waiting : entry.stage = .waiting) (unreachable : ¬world.Reachable entry.object) :
      Step world .collector (world.advance entry.ptr .enqueued)
  /-- The `Cleaner` runs the action on a thread that does nothing else. -/
  | destruct {world : World} {thread : Thread} {entry : Cleanable}
      (member : entry ∈ world.cleaner) (enqueued : entry.stage = .enqueued)
      (idle : world.stack thread = []) :
      Step world (.destruct entry.ptr)
        (((world.advance entry.ptr .ran).logStart entry.ptr).setStack thread
          [.destruct entry.ptr])
  | destructReturns {world : World} {thread : Thread} {ptr : Pointer} {rest : List Frame}
      (top : world.stack thread = .destruct ptr :: rest) :
      Step world (.deleted ptr) ((world.updateNative ptr .release).setStack thread rest)

structure World.Initial (world : World) : Prop where
  heap : world.heap = []
  natives : world.natives = []
  statics : world.statics = []
  stack : ∀ thread, world.stack thread = [] ∨
    world.stack thread = [.application .program []]
  cleaner : world.cleaner = []
  started : world.started = []

def process : System World Event where
  initial := World.Initial
  step := Step

end Dcsctp4j
