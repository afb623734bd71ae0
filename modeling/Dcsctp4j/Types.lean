import Mathlib.Data.List.Basic
import Mathlib.Algebra.Ring.Int.Defs
import Mathlib.Algebra.Ring.Nat

/-! # Values on the two sides of the binding

Java values use Lean's signed machine integers and dcsctp's use the unsigned
ones, each at the width the declarations give. Java arrays and C++ vectors and
views are lists.
-/

namespace Dcsctp4j

/-! ## dcsctp's values -/

/-- Bytes of an `absl::string_view`. -/
abbrev NativeText := List UInt8

namespace Native

structure StreamId where
  value : UInt16
deriving DecidableEq

structure Ppid where
  value : UInt32
deriving DecidableEq

structure TimeoutId where
  value : UInt64
deriving DecidableEq

structure DurationMs where
  value : Int32
deriving DecidableEq

structure TimeMs where
  value : Int64
deriving DecidableEq

structure LifecycleId where
  value : UInt64
deriving DecidableEq

structure StreamPriority where
  value : UInt16
deriving DecidableEq

structure DcSctpMessage where
  streamId : StreamId
  ppid : Ppid
  payload : List UInt8
deriving DecidableEq

structure SendOptions where
  unordered : Bool
  lifetime : Option DurationMs
  maxRetransmissions : Option UInt64
  lifecycleId : LifecycleId
deriving DecidableEq

inductive ErrorKind
  | kNoError
  | kTooManyRetries
  | kNotConnected
  | kParseFailed
  | kWrongSequence
  | kPeerReported
  | kProtocolViolation
  | kResourceExhaustion
  | kUnsupportedOperation
deriving DecidableEq

inductive DelayPrecision
  | kLow
  | kHigh
deriving DecidableEq

inductive LoggingSeverity
  | lsVerbose
  | lsInfo
  | lsWarning
  | lsError
  | lsNone
deriving DecidableEq

/-- `webrtc::Timestamp` in microseconds; its two ends stand for the infinities. -/
structure Timestamp where
  us : Int64
deriving DecidableEq

def Timestamp.isFinite (timestamp : Timestamp) : Bool :=
  decide (timestamp.us ≠ Int64.minValue ∧ timestamp.us ≠ Int64.maxValue)

/-- `rtc::LogLineRef`; a view without data is `none`. -/
structure LogLineRef where
  message : Option NativeText
  filename : Option NativeText
  line : Int32
  threadId : Option Int32
  timestamp : Timestamp
  severity : LoggingSeverity
deriving DecidableEq

/-- A C++ enumeration over `int`: `SendPacketStatus(status)` keeps any value. -/
structure SendPacketStatus where
  value : Int32
deriving DecidableEq

inductive SendStatus
  | kSuccess
  | kErrorMessageEmpty
  | kErrorMessageTooLarge
  | kErrorResourceExhaustion
  | kErrorShuttingDown
deriving DecidableEq

end Native

/-! ## Java's values -/

/-- UTF-16 code units of a `java.lang.String`. -/
abbrev JString := List UInt16

structure Throwable where
  className : String
  message : String
deriving DecidableEq

namespace Java

structure DcSctpMessage where
  streamId : Int16
  ppid : Int32
  payload : List Int8
deriving DecidableEq

def lifecycleNotSet : Int64 := 0

/-- `SendOptions`, with `null` as `none`. -/
structure SendOptions where
  isUnordered : Bool := false
  lifetime : Option Int64 := none
  maxRetransmissions : Option Int64 := none
  lifecycleId : Int64 := lifecycleNotSet
deriving DecidableEq

structure Instant where
  epochSecond : Int64
  nano : Int32
deriving DecidableEq

inductive ErrorKind
  | kNoError
  | kTooManyRetries
  | kNotConnected
  | kParseFailed
  | kWrongSequence
  | kPeerReported
  | kProtocolViolation
  | kResourceExhaustion
  | kUnsupportedOperation
deriving DecidableEq

inductive DelayPrecision
  | kLow
  | kHigh
deriving DecidableEq

inductive SendPacketStatus
  | kSuccess
  | kTemporaryFailure
  | kError
deriving DecidableEq

def SendPacketStatus.nativeStatus : SendPacketStatus → Int32
  | .kSuccess => 0
  | .kTemporaryFailure => 1
  | .kError => 2

inductive SendStatus
  | kSuccess
  | kErrorMessageEmpty
  | kErrorMessageTooLarge
  | kErrorResourceExhaustion
  | kErrorShuttingDown
deriving DecidableEq

def SendStatus.nativeStatus : SendStatus → Int32
  | .kSuccess => 0
  | .kErrorMessageEmpty => 1
  | .kErrorMessageTooLarge => 2
  | .kErrorResourceExhaustion => 3
  | .kErrorShuttingDown => 4

def SendStatus.name : SendStatus → String
  | .kSuccess => "kSuccess"
  | .kErrorMessageEmpty => "kErrorMessageEmpty"
  | .kErrorMessageTooLarge => "kErrorMessageTooLarge"
  | .kErrorResourceExhaustion => "kErrorResourceExhaustion"
  | .kErrorShuttingDown => "kErrorShuttingDown"

inductive LoggingSeverity
  | lsVerbose
  | lsInfo
  | lsWarning
  | lsError
  | lsNone
deriving DecidableEq

/-- `severity.level.intValue()`. -/
def LoggingSeverity.level : LoggingSeverity → Int32
  | .lsVerbose => 500
  | .lsInfo => 800
  | .lsWarning => 900
  | .lsError => 1000
  | .lsNone => 2147483647

/-- A `java.util.logging.LogRecord`, as far as `LogProxy` fills it in. -/
structure LogRecord where
  level : Int32
  message : Option JString
  instant : Option Instant
  threadId : Option Int32
deriving DecidableEq

structure Timeout where
  object : Nat
deriving DecidableEq

end Java

/-! ## Enumeration members

Each `map` is one C++ `switch`. Its `default` branch answers values outside the
enumeration, which dcsctp does not produce. -/

def ErrorKindMembers.map : Native.ErrorKind → Java.ErrorKind
  | .kNoError => .kNoError
  | .kTooManyRetries => .kTooManyRetries
  | .kNotConnected => .kNotConnected
  | .kParseFailed => .kParseFailed
  | .kWrongSequence => .kWrongSequence
  | .kPeerReported => .kPeerReported
  | .kProtocolViolation => .kProtocolViolation
  | .kResourceExhaustion => .kResourceExhaustion
  | .kUnsupportedOperation => .kUnsupportedOperation

def DelayPrecisionMembers.map : Native.DelayPrecision → Java.DelayPrecision
  | .kLow => .kLow
  | .kHigh => .kHigh

def LoggingSeverityMembers.map : Native.LoggingSeverity → Java.LoggingSeverity
  | .lsVerbose => .lsVerbose
  | .lsInfo => .lsInfo
  | .lsWarning => .lsWarning
  | .lsError => .lsError
  | .lsNone => .lsNone

/-! ## Unsigned readings -/

/-- The bits of a signed number of the given width, read without a sign. -/
def unsignedReading (width : Nat) (value : Int) : Nat :=
  (value % 2 ^ width).toNat

theorem unsignedReading_toInt {width : Nat} (bits : BitVec width) :
    unsignedReading width bits.toInt = bits.toNat := by
  have periodic : bits.toInt % ((2 ^ width : Nat) : Int) =
      bits.toNat % ((2 ^ width : Nat) : Int) := by
    rw [BitVec.toInt_eq_toNat_bmod, Int.bmod_emod]
  push_cast at periodic
  have bound := bits.isLt
  rw [unsignedReading, periodic, Int.emod_eq_of_lt (by omega) (by exact_mod_cast bound)]
  simp

theorem toNat_toUInt8 (value : Int8) :
    value.toUInt8.toNat = unsignedReading 8 value.toInt :=
  (unsignedReading_toInt value.toBitVec).symm

theorem toNat_toUInt16 (value : Int16) :
    value.toUInt16.toNat = unsignedReading 16 value.toInt :=
  (unsignedReading_toInt value.toBitVec).symm

theorem toNat_toUInt32 (value : Int32) :
    value.toUInt32.toNat = unsignedReading 32 value.toInt :=
  (unsignedReading_toInt value.toBitVec).symm

theorem toNat_toUInt64 (value : Int64) :
    value.toUInt64.toNat = unsignedReading 64 value.toInt :=
  (unsignedReading_toInt value.toBitVec).symm

@[simp] theorem unsignedReading_toInt8 (value : UInt8) :
    unsignedReading 8 value.toInt8.toInt = value.toNat := by
  rw [← toNat_toUInt8, UInt8.toUInt8_toInt8]

@[simp] theorem unsignedReading_toInt16 (value : UInt16) :
    unsignedReading 16 value.toInt16.toInt = value.toNat := by
  rw [← toNat_toUInt16, UInt16.toUInt16_toInt16]

@[simp] theorem unsignedReading_toInt32 (value : UInt32) :
    unsignedReading 32 value.toInt32.toInt = value.toNat := by
  rw [← toNat_toUInt32, UInt32.toUInt32_toInt32]

/-! ## Conversions of arrays

C++ converts element by element when it copies between a vector and a Java
array; the conversions keep the bits. -/

def toByteArray (bytes : List UInt8) : List Int8 := bytes.map UInt8.toInt8

def fromByteArray (bytes : List Int8) : List UInt8 := bytes.map Int8.toUInt8

def toShortArray (streams : List Native.StreamId) : List Int16 :=
  streams.map fun stream => stream.value.toInt16

@[simp] theorem toByteArray_fromByteArray (bytes : List Int8) :
    toByteArray (fromByteArray bytes) = bytes := by
  simp [fromByteArray, toByteArray, Function.comp_def]

/-! ## Code the repository takes from elsewhere -/

/-- Functions of SimpleJNI and WebRTC that the native code calls and the
repository does not contain. -/
structure Libraries where
  javaStringCreate : NativeText → JString
  timestampMs : Int64 → Int64

end Dcsctp4j
