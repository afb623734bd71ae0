import Dcsctp4j.Types

/-! # Options mapped to native fields

The accessors of `DcSctpOptions_class` in `mapped_objects.cpp`, one pair for
each field of dcsctp's options, and the checked setters of `DcSctpOptions.java`.
-/

namespace Dcsctp4j

namespace Native

structure ZeroChecksumAlternateErrorDetectionMethod where
  value : UInt32
deriving DecidableEq

structure DcSctpOptions where
  localPort : Int32
  remotePort : Int32
  announcedMaximumIncomingStreams : UInt16
  announcedMaximumOutgoingStreams : UInt16
  mtu : UInt64
  maxMessageSize : UInt64
  defaultStreamPriority : StreamPriority
  maxReceiverWindowBufferSize : UInt64
  maxSendBufferSize : UInt64
  perStreamSendQueueLimit : UInt64
  totalBufferedAmountLowThreshold : UInt64
  rttMax : DurationMs
  rtoInitial : DurationMs
  rtoMax : DurationMs
  rtoMin : DurationMs
  t1InitTimeout : DurationMs
  t1CookieTimeout : DurationMs
  t2ShutdownTimeout : DurationMs
  maxTimerBackoffDuration : Option DurationMs
  heartbeatInterval : DurationMs
  delayedAckMaxTimeout : DurationMs
  minRttVariance : DurationMs
  cwndMtusInitial : UInt64
  cwndMtusMin : UInt64
  avoidFragmentationCwndMtus : UInt64
  maxBurst : Int32
  maxRetransmissions : Option Int32
  maxInitRetransmits : Option Int32
  enablePartialReliability : Bool
  enableMessageInterleaving : Bool
  heartbeatIntervalIncludeRtt : Bool
  disableChecksumVerification : Bool
  zeroChecksumAlternateErrorDetectionMethod : ZeroChecksumAlternateErrorDetectionMethod
deriving DecidableEq

end Native

/-! ## Native accessors -/

namespace DcSctpOptions

open Native (DcSctpOptions)

/-- The check of both announced stream counts. -/
def announcedStreams (option : String) (value : Int32) : Except Throwable UInt16 :=
  if value < 0 ∨ 65535 < value then
    .error ⟨"java.lang.Throwable", s!"Invalid value for {option}"⟩
  else
    .ok value.toUInt32.toUInt16

def getLocalPort (options : DcSctpOptions) : Int32 := options.localPort

def setLocalPort (localPort : Int32) (options : DcSctpOptions) : DcSctpOptions :=
  { options with localPort }

def getRemotePort (options : DcSctpOptions) : Int32 := options.remotePort

def setRemotePort (remotePort : Int32) (options : DcSctpOptions) : DcSctpOptions :=
  { options with remotePort }

def getAnnouncedMaximumIncomingStreams (options : DcSctpOptions) : Int32 :=
  options.announcedMaximumIncomingStreams.toUInt32.toInt32

def setAnnouncedMaximumIncomingStreams_ (announcedMaximumIncomingStreams : Int32)
    (options : DcSctpOptions) : Except Throwable DcSctpOptions := do
  let streams ← announcedStreams "announcedMaximumIncomingStreams" announcedMaximumIncomingStreams
  return { options with announcedMaximumIncomingStreams := streams }

def getAnnouncedMaximumOutgoingStreams (options : DcSctpOptions) : Int32 :=
  options.announcedMaximumOutgoingStreams.toUInt32.toInt32

def setAnnouncedMaximumOutgoingStreams_ (announcedMaximumOutgoingStreams : Int32)
    (options : DcSctpOptions) : Except Throwable DcSctpOptions := do
  let streams ← announcedStreams "announcedMaximumOutgoingStreams" announcedMaximumOutgoingStreams
  return { options with announcedMaximumOutgoingStreams := streams }

def getMtu (options : DcSctpOptions) : Int64 := options.mtu.toInt64

def setMtu (mtu : Int64) (options : DcSctpOptions) : DcSctpOptions :=
  { options with mtu := mtu.toUInt64 }

def getMaxMessageSize (options : DcSctpOptions) : Int64 := options.maxMessageSize.toInt64

def setMaxMessageSize (maxMessageSize : Int64) (options : DcSctpOptions) : DcSctpOptions :=
  { options with maxMessageSize := maxMessageSize.toUInt64 }

def getDefaultStreamPriority (options : DcSctpOptions) : Int16 :=
  options.defaultStreamPriority.value.toInt16

def setDefaultStreamPriority (defaultStreamPriority : Int16) (options : DcSctpOptions) :
    DcSctpOptions :=
  { options with defaultStreamPriority := ⟨defaultStreamPriority.toUInt16⟩ }

def getMaxReceiverWindowBufferSize (options : DcSctpOptions) : Int64 :=
  options.maxReceiverWindowBufferSize.toInt64

def setMaxReceiverWindowBufferSize (maxReceiverWindowBufferSize : Int64)
    (options : DcSctpOptions) : DcSctpOptions :=
  { options with maxReceiverWindowBufferSize := maxReceiverWindowBufferSize.toUInt64 }

def getMaxSendBufferSize (options : DcSctpOptions) : Int64 := options.maxSendBufferSize.toInt64

def setMaxSendBufferSize (maxSendBufferSize : Int64) (options : DcSctpOptions) : DcSctpOptions :=
  { options with maxSendBufferSize := maxSendBufferSize.toUInt64 }

def getPerStreamSendQueueLimit (options : DcSctpOptions) : Int64 :=
  options.perStreamSendQueueLimit.toInt64

def setPerStreamSendQueueLimit (perStreamSendQueueLimit : Int64) (options : DcSctpOptions) :
    DcSctpOptions :=
  { options with perStreamSendQueueLimit := perStreamSendQueueLimit.toUInt64 }

def getTotalBufferedAmountLowThreshold (options : DcSctpOptions) : Int64 :=
  options.totalBufferedAmountLowThreshold.toInt64

def setTotalBufferedAmountLowThreshold (totalBufferedAmountLowThreshold : Int64)
    (options : DcSctpOptions) : DcSctpOptions :=
  { options with totalBufferedAmountLowThreshold := totalBufferedAmountLowThreshold.toUInt64 }

def getRttMax (options : DcSctpOptions) : Int64 := options.rttMax.value.toInt64

def setRttMax (rttMax : Int64) (options : DcSctpOptions) : DcSctpOptions :=
  { options with rttMax := ⟨rttMax.toInt32⟩ }

def getRtoInitial (options : DcSctpOptions) : Int64 := options.rtoInitial.value.toInt64

def setRtoInitial (rtoInitial : Int64) (options : DcSctpOptions) : DcSctpOptions :=
  { options with rtoInitial := ⟨rtoInitial.toInt32⟩ }

def getRtoMax (options : DcSctpOptions) : Int64 := options.rtoMax.value.toInt64

def setRtoMax (rtoMax : Int64) (options : DcSctpOptions) : DcSctpOptions :=
  { options with rtoMax := ⟨rtoMax.toInt32⟩ }

def getRtoMin (options : DcSctpOptions) : Int64 := options.rtoMin.value.toInt64

def setRtoMin (rtoMin : Int64) (options : DcSctpOptions) : DcSctpOptions :=
  { options with rtoMin := ⟨rtoMin.toInt32⟩ }

def getT1InitTimeout (options : DcSctpOptions) : Int64 := options.t1InitTimeout.value.toInt64

def setT1InitTimeout (t1InitTimeout : Int64) (options : DcSctpOptions) : DcSctpOptions :=
  { options with t1InitTimeout := ⟨t1InitTimeout.toInt32⟩ }

def getT1CookieTimeout (options : DcSctpOptions) : Int64 := options.t1CookieTimeout.value.toInt64

def setT1CookieTimeout (t1CookieTimeout : Int64) (options : DcSctpOptions) : DcSctpOptions :=
  { options with t1CookieTimeout := ⟨t1CookieTimeout.toInt32⟩ }

def getT2ShutdownTimeout (options : DcSctpOptions) : Int64 :=
  options.t2ShutdownTimeout.value.toInt64

def setT2ShutdownTimeout (t2ShutdownTimeout : Int64) (options : DcSctpOptions) : DcSctpOptions :=
  { options with t2ShutdownTimeout := ⟨t2ShutdownTimeout.toInt32⟩ }

def getMaxTimerBackoffDuration (options : DcSctpOptions) : Option Int64 :=
  options.maxTimerBackoffDuration.map fun duration => duration.value.toInt64

def setMaxTimerBackoffDuration (maxTimerBackoffDuration : Option Int64)
    (options : DcSctpOptions) : DcSctpOptions :=
  { options with
    maxTimerBackoffDuration := maxTimerBackoffDuration.map fun duration => ⟨duration.toInt32⟩ }

def getHeartbeatInterval (options : DcSctpOptions) : Int64 :=
  options.heartbeatInterval.value.toInt64

def setHeartbeatInterval (heartbeatInterval : Int64) (options : DcSctpOptions) : DcSctpOptions :=
  { options with heartbeatInterval := ⟨heartbeatInterval.toInt32⟩ }

def getDelayedAckMaxTimeout (options : DcSctpOptions) : Int64 :=
  options.delayedAckMaxTimeout.value.toInt64

def setDelayedAckMaxTimeout (delayedAckMaxTimeout : Int64) (options : DcSctpOptions) :
    DcSctpOptions :=
  { options with delayedAckMaxTimeout := ⟨delayedAckMaxTimeout.toInt32⟩ }

def getMinRttVariance (options : DcSctpOptions) : Int64 := options.minRttVariance.value.toInt64

def setMinRttVariance (minRttVariance : Int64) (options : DcSctpOptions) : DcSctpOptions :=
  { options with minRttVariance := ⟨minRttVariance.toInt32⟩ }

def getCwndMtusInitial (options : DcSctpOptions) : Int64 := options.cwndMtusInitial.toInt64

def setCwndMtusInitial (cwndMtusInitial : Int64) (options : DcSctpOptions) : DcSctpOptions :=
  { options with cwndMtusInitial := cwndMtusInitial.toUInt64 }

def getCwndMtusMin (options : DcSctpOptions) : Int64 := options.cwndMtusMin.toInt64

def setCwndMtusMin (cwndMtusMin : Int64) (options : DcSctpOptions) : DcSctpOptions :=
  { options with cwndMtusMin := cwndMtusMin.toUInt64 }

def getAvoidFragmentationCwndMtus (options : DcSctpOptions) : Int64 :=
  options.avoidFragmentationCwndMtus.toInt64

def setAvoidFragmentationCwndMtus (avoidFragmentationCwndMtus : Int64) (options : DcSctpOptions) :
    DcSctpOptions :=
  { options with avoidFragmentationCwndMtus := avoidFragmentationCwndMtus.toUInt64 }

def getMaxBurst (options : DcSctpOptions) : Int32 := options.maxBurst

def setMaxBurst (maxBurst : Int32) (options : DcSctpOptions) : DcSctpOptions :=
  { options with maxBurst }

def getMaxRetransmissions (options : DcSctpOptions) : Option Int32 := options.maxRetransmissions

def setMaxRetransmissions (maxRetransmissions : Option Int32) (options : DcSctpOptions) :
    DcSctpOptions :=
  { options with maxRetransmissions }

def getMaxInitRetransmits (options : DcSctpOptions) : Option Int32 := options.maxInitRetransmits

def setMaxInitRetransmits (maxInitRetransmits : Option Int32) (options : DcSctpOptions) :
    DcSctpOptions :=
  { options with maxInitRetransmits }

def isEnablePartialReliability (options : DcSctpOptions) : Bool :=
  options.enablePartialReliability

def setEnablePartialReliability (enablePartialReliability : Bool) (options : DcSctpOptions) :
    DcSctpOptions :=
  { options with enablePartialReliability }

def isEnableMessageInterleaving (options : DcSctpOptions) : Bool :=
  options.enableMessageInterleaving

def setEnableMessageInterleaving (enableMessageInterleaving : Bool) (options : DcSctpOptions) :
    DcSctpOptions :=
  { options with enableMessageInterleaving }

def isHeartbeatIntervalIncludeRtt (options : DcSctpOptions) : Bool :=
  options.heartbeatIntervalIncludeRtt

def setHeartbeatIntervalIncludeRtt (heartbeatIntervalIncludeRtt : Bool)
    (options : DcSctpOptions) : DcSctpOptions :=
  { options with heartbeatIntervalIncludeRtt }

def isDisableChecksumVerification (options : DcSctpOptions) : Bool :=
  options.disableChecksumVerification

def setDisableChecksumVerification (disableChecksumVerification : Bool)
    (options : DcSctpOptions) : DcSctpOptions :=
  { options with disableChecksumVerification }

def getZeroChecksumAlternateErrorDetectionMethod (options : DcSctpOptions) : Int32 :=
  options.zeroChecksumAlternateErrorDetectionMethod.value.toInt32

def setZeroChecksumAlternateErrorDetectionMethod (zeroChecksumAlternateErrorDetectionMethod : Int32)
    (options : DcSctpOptions) : DcSctpOptions :=
  { options with
    zeroChecksumAlternateErrorDetectionMethod :=
      ⟨zeroChecksumAlternateErrorDetectionMethod.toUInt32⟩ }

/-! ## Checked setters of the Java class -/

def checkedStreams (option : String) (value : Int32) : Except Throwable Unit :=
  if value < 0 ∨ 65535 < value then
    .error ⟨"java.lang.IllegalArgumentException", s!"Invalid value for {option}: {value}"⟩
  else
    .ok ()

def setAnnouncedMaximumIncomingStreams (announcedMaximumIncomingStreams : Int32)
    (options : DcSctpOptions) : Except Throwable DcSctpOptions := do
  checkedStreams "announcedMaximumIncomingStreams" announcedMaximumIncomingStreams
  setAnnouncedMaximumIncomingStreams_ announcedMaximumIncomingStreams options

def setAnnouncedMaximumOutgoingStreams (announcedMaximumOutgoingStreams : Int32)
    (options : DcSctpOptions) : Except Throwable DcSctpOptions := do
  checkedStreams "announcedMaximumOutgoingStreams" announcedMaximumOutgoingStreams
  setAnnouncedMaximumOutgoingStreams_ announcedMaximumOutgoingStreams options

end DcSctpOptions

/-! ## All options by name -/

inductive OptionName
  | localPort
  | remotePort
  | announcedMaximumIncomingStreams
  | announcedMaximumOutgoingStreams
  | mtu
  | maxMessageSize
  | defaultStreamPriority
  | maxReceiverWindowBufferSize
  | maxSendBufferSize
  | perStreamSendQueueLimit
  | totalBufferedAmountLowThreshold
  | rttMax
  | rtoInitial
  | rtoMax
  | rtoMin
  | t1InitTimeout
  | t1CookieTimeout
  | t2ShutdownTimeout
  | maxTimerBackoffDuration
  | heartbeatInterval
  | delayedAckMaxTimeout
  | minRttVariance
  | cwndMtusInitial
  | cwndMtusMin
  | avoidFragmentationCwndMtus
  | maxBurst
  | maxRetransmissions
  | maxInitRetransmits
  | enablePartialReliability
  | enableMessageInterleaving
  | heartbeatIntervalIncludeRtt
  | disableChecksumVerification
  | zeroChecksumAlternateErrorDetectionMethod
deriving DecidableEq

namespace OptionName

/-- The type of the accessors in Java; `Long` and `Integer` may be null. -/
@[reducible] def Value : OptionName → Type
  | .localPort | .remotePort | .announcedMaximumIncomingStreams
  | .announcedMaximumOutgoingStreams | .maxBurst
  | .zeroChecksumAlternateErrorDetectionMethod => Int32
  | .mtu | .maxMessageSize | .maxReceiverWindowBufferSize | .maxSendBufferSize
  | .perStreamSendQueueLimit | .totalBufferedAmountLowThreshold | .rttMax | .rtoInitial
  | .rtoMax | .rtoMin | .t1InitTimeout | .t1CookieTimeout | .t2ShutdownTimeout
  | .heartbeatInterval | .delayedAckMaxTimeout | .minRttVariance | .cwndMtusInitial
  | .cwndMtusMin | .avoidFragmentationCwndMtus => Int64
  | .defaultStreamPriority => Int16
  | .maxTimerBackoffDuration => Option Int64
  | .maxRetransmissions | .maxInitRetransmits => Option Int32
  | .enablePartialReliability | .enableMessageInterleaving | .heartbeatIntervalIncludeRtt
  | .disableChecksumVerification => Bool

def get : (name : OptionName) → Native.DcSctpOptions → name.Value
  | .localPort => DcSctpOptions.getLocalPort
  | .remotePort => DcSctpOptions.getRemotePort
  | .announcedMaximumIncomingStreams => DcSctpOptions.getAnnouncedMaximumIncomingStreams
  | .announcedMaximumOutgoingStreams => DcSctpOptions.getAnnouncedMaximumOutgoingStreams
  | .mtu => DcSctpOptions.getMtu
  | .maxMessageSize => DcSctpOptions.getMaxMessageSize
  | .defaultStreamPriority => DcSctpOptions.getDefaultStreamPriority
  | .maxReceiverWindowBufferSize => DcSctpOptions.getMaxReceiverWindowBufferSize
  | .maxSendBufferSize => DcSctpOptions.getMaxSendBufferSize
  | .perStreamSendQueueLimit => DcSctpOptions.getPerStreamSendQueueLimit
  | .totalBufferedAmountLowThreshold => DcSctpOptions.getTotalBufferedAmountLowThreshold
  | .rttMax => DcSctpOptions.getRttMax
  | .rtoInitial => DcSctpOptions.getRtoInitial
  | .rtoMax => DcSctpOptions.getRtoMax
  | .rtoMin => DcSctpOptions.getRtoMin
  | .t1InitTimeout => DcSctpOptions.getT1InitTimeout
  | .t1CookieTimeout => DcSctpOptions.getT1CookieTimeout
  | .t2ShutdownTimeout => DcSctpOptions.getT2ShutdownTimeout
  | .maxTimerBackoffDuration => DcSctpOptions.getMaxTimerBackoffDuration
  | .heartbeatInterval => DcSctpOptions.getHeartbeatInterval
  | .delayedAckMaxTimeout => DcSctpOptions.getDelayedAckMaxTimeout
  | .minRttVariance => DcSctpOptions.getMinRttVariance
  | .cwndMtusInitial => DcSctpOptions.getCwndMtusInitial
  | .cwndMtusMin => DcSctpOptions.getCwndMtusMin
  | .avoidFragmentationCwndMtus => DcSctpOptions.getAvoidFragmentationCwndMtus
  | .maxBurst => DcSctpOptions.getMaxBurst
  | .maxRetransmissions => DcSctpOptions.getMaxRetransmissions
  | .maxInitRetransmits => DcSctpOptions.getMaxInitRetransmits
  | .enablePartialReliability => DcSctpOptions.isEnablePartialReliability
  | .enableMessageInterleaving => DcSctpOptions.isEnableMessageInterleaving
  | .heartbeatIntervalIncludeRtt => DcSctpOptions.isHeartbeatIntervalIncludeRtt
  | .disableChecksumVerification => DcSctpOptions.isDisableChecksumVerification
  | .zeroChecksumAlternateErrorDetectionMethod =>
      DcSctpOptions.getZeroChecksumAlternateErrorDetectionMethod

def set : (name : OptionName) → name.Value → Native.DcSctpOptions →
    Except Throwable Native.DcSctpOptions
  | .localPort => fun value options => .ok (DcSctpOptions.setLocalPort value options)
  | .remotePort => fun value options => .ok (DcSctpOptions.setRemotePort value options)
  | .announcedMaximumIncomingStreams => DcSctpOptions.setAnnouncedMaximumIncomingStreams
  | .announcedMaximumOutgoingStreams => DcSctpOptions.setAnnouncedMaximumOutgoingStreams
  | .mtu => fun value options => .ok (DcSctpOptions.setMtu value options)
  | .maxMessageSize => fun value options => .ok (DcSctpOptions.setMaxMessageSize value options)
  | .defaultStreamPriority => fun value options =>
      .ok (DcSctpOptions.setDefaultStreamPriority value options)
  | .maxReceiverWindowBufferSize => fun value options =>
      .ok (DcSctpOptions.setMaxReceiverWindowBufferSize value options)
  | .maxSendBufferSize => fun value options =>
      .ok (DcSctpOptions.setMaxSendBufferSize value options)
  | .perStreamSendQueueLimit => fun value options =>
      .ok (DcSctpOptions.setPerStreamSendQueueLimit value options)
  | .totalBufferedAmountLowThreshold => fun value options =>
      .ok (DcSctpOptions.setTotalBufferedAmountLowThreshold value options)
  | .rttMax => fun value options => .ok (DcSctpOptions.setRttMax value options)
  | .rtoInitial => fun value options => .ok (DcSctpOptions.setRtoInitial value options)
  | .rtoMax => fun value options => .ok (DcSctpOptions.setRtoMax value options)
  | .rtoMin => fun value options => .ok (DcSctpOptions.setRtoMin value options)
  | .t1InitTimeout => fun value options => .ok (DcSctpOptions.setT1InitTimeout value options)
  | .t1CookieTimeout => fun value options => .ok (DcSctpOptions.setT1CookieTimeout value options)
  | .t2ShutdownTimeout => fun value options =>
      .ok (DcSctpOptions.setT2ShutdownTimeout value options)
  | .maxTimerBackoffDuration => fun value options =>
      .ok (DcSctpOptions.setMaxTimerBackoffDuration value options)
  | .heartbeatInterval => fun value options =>
      .ok (DcSctpOptions.setHeartbeatInterval value options)
  | .delayedAckMaxTimeout => fun value options =>
      .ok (DcSctpOptions.setDelayedAckMaxTimeout value options)
  | .minRttVariance => fun value options => .ok (DcSctpOptions.setMinRttVariance value options)
  | .cwndMtusInitial => fun value options => .ok (DcSctpOptions.setCwndMtusInitial value options)
  | .cwndMtusMin => fun value options => .ok (DcSctpOptions.setCwndMtusMin value options)
  | .avoidFragmentationCwndMtus => fun value options =>
      .ok (DcSctpOptions.setAvoidFragmentationCwndMtus value options)
  | .maxBurst => fun value options => .ok (DcSctpOptions.setMaxBurst value options)
  | .maxRetransmissions => fun value options =>
      .ok (DcSctpOptions.setMaxRetransmissions value options)
  | .maxInitRetransmits => fun value options =>
      .ok (DcSctpOptions.setMaxInitRetransmits value options)
  | .enablePartialReliability => fun value options =>
      .ok (DcSctpOptions.setEnablePartialReliability value options)
  | .enableMessageInterleaving => fun value options =>
      .ok (DcSctpOptions.setEnableMessageInterleaving value options)
  | .heartbeatIntervalIncludeRtt => fun value options =>
      .ok (DcSctpOptions.setHeartbeatIntervalIncludeRtt value options)
  | .disableChecksumVerification => fun value options =>
      .ok (DcSctpOptions.setDisableChecksumVerification value options)
  | .zeroChecksumAlternateErrorDetectionMethod => fun value options =>
      .ok (DcSctpOptions.setZeroChecksumAlternateErrorDetectionMethod value options)

/-- The native field keeps the value. Only a duration beyond 32 bits is lost: a
negative number stays the same bits, and the stream counts are checked. -/
def Keeps : (name : OptionName) → name.Value → Prop
  | .rttMax | .rtoInitial | .rtoMax | .rtoMin | .t1InitTimeout | .t1CookieTimeout
  | .t2ShutdownTimeout | .heartbeatInterval | .delayedAckMaxTimeout
  | .minRttVariance => fun value => -2 ^ 31 ≤ value.toInt ∧ value.toInt < 2 ^ 31
  | .maxTimerBackoffDuration => fun value =>
      ∀ duration ∈ value, -2 ^ 31 ≤ duration.toInt ∧ duration.toInt < 2 ^ 31
  | _ => fun _ => True

end OptionName

/-! ## What a setter does -/

theorem toInt64_toInt32 {value : Int64} (lower : -2 ^ 31 ≤ value.toInt)
    (upper : value.toInt < 2 ^ 31) : value.toInt32.toInt64 = value := by
  apply Int64.toInt.inj
  rw [Int32.toInt_toInt64, Int64.toInt_toInt32]
  exact Int.bmod_eq_of_le (by omega) (by omega)

namespace DcSctpOptions

theorem announcedStreams_kept {option : String} {value : Int32} {streams : UInt16}
    (accepted : announcedStreams option value = .ok streams) :
    streams.toUInt32.toInt32 = value := by
  rw [announcedStreams] at accepted
  split at accepted
  · cases accepted
  · rename_i inside
    cases accepted
    rw [Int32.lt_iff_toInt_lt, Int32.lt_iff_toInt_lt, not_or] at inside
    have lower : 0 ≤ value.toInt := Int.not_lt.mp inside.1
    have upper : value.toInt ≤ 65535 := Int.not_lt.mp inside.2
    have bits := toNat_toUInt32 value
    rw [unsignedReading] at bits
    have same : value.toUInt32.toUInt16.toUInt32 = value.toUInt32 := by
      apply UInt32.toNat.inj
      rw [UInt16.toNat_toUInt32, UInt32.toNat_toUInt16]
      omega
    rw [same, Int32.toInt32_toUInt32]

theorem announced_ok {option : String} {value : Int32} {changed : Native.DcSctpOptions}
    {store : UInt16 → Native.DcSctpOptions}
    (accepted : (do
      let streams ← announcedStreams option value
      return store streams) = Except.ok changed) :
    ∃ streams, streams.toUInt32.toInt32 = value ∧ changed = store streams := by
  cases check : announcedStreams option value with
  | error throwable =>
      rw [check] at accepted
      cases accepted
  | ok streams =>
      rw [check] at accepted
      cases accepted
      exact ⟨streams, announcedStreams_kept check, rfl⟩

theorem checked_ok {option : String} {value : Int32} {options changed : Native.DcSctpOptions}
    {native : Int32 → Native.DcSctpOptions → Except Throwable Native.DcSctpOptions}
    (accepted : (do checkedStreams option value; native value options) = .ok changed) :
    native value options = .ok changed := by
  rw [checkedStreams] at accepted
  split at accepted
  · cases accepted
  · exact accepted

end DcSctpOptions

/-- All the ways to set an option: the two underscore variants are public too. -/
inductive Setter
  | checked (name : OptionName)
  | incomingStreams_
  | outgoingStreams_
deriving DecidableEq

namespace Setter

@[reducible] def name : Setter → OptionName
  | checked name => name
  | incomingStreams_ => .announcedMaximumIncomingStreams
  | outgoingStreams_ => .announcedMaximumOutgoingStreams

def run : (setter : Setter) → setter.name.Value → Native.DcSctpOptions →
    Except Throwable Native.DcSctpOptions
  | checked name => name.set
  | incomingStreams_ => DcSctpOptions.setAnnouncedMaximumIncomingStreams_
  | outgoingStreams_ => DcSctpOptions.setAnnouncedMaximumOutgoingStreams_

structure Changes (name : OptionName) (value : name.Value)
    (options changed : Native.DcSctpOptions) : Prop where
  same : name.Keeps value → name.get changed = value
  other : ∀ other, other ≠ name → other.get changed = other.get options

theorem incoming_changes {value : Int32} {options changed : Native.DcSctpOptions}
    (accepted : DcSctpOptions.setAnnouncedMaximumIncomingStreams_ value options = .ok changed) :
    Changes .announcedMaximumIncomingStreams value options changed := by
  rcases DcSctpOptions.announced_ok accepted with ⟨streams, kept, rfl⟩
  constructor
  · intro _
    exact kept
  · intro other different
    cases other <;> first | rfl | contradiction

theorem outgoing_changes {value : Int32} {options changed : Native.DcSctpOptions}
    (accepted : DcSctpOptions.setAnnouncedMaximumOutgoingStreams_ value options = .ok changed) :
    Changes .announcedMaximumOutgoingStreams value options changed := by
  rcases DcSctpOptions.announced_ok accepted with ⟨streams, kept, rfl⟩
  constructor
  · intro _
    exact kept
  · intro other different
    cases other <;> first | rfl | contradiction

/-- A plain setter stores the value in its own field, the field its getter
reads. -/
theorem checked_changes {name : OptionName} {value : name.Value}
    {options changed : Native.DcSctpOptions}
    (accepted : name.set value options = .ok changed) :
    Changes name value options changed := by
  cases name with
  | announcedMaximumIncomingStreams =>
      exact incoming_changes (DcSctpOptions.checked_ok accepted)
  | announcedMaximumOutgoingStreams =>
      exact outgoing_changes (DcSctpOptions.checked_ok accepted)
  | maxTimerBackoffDuration =>
      cases accepted
      constructor
      · intro kept
        cases value with
        | none => rfl
        | some duration =>
            have bounds := kept duration rfl
            exact congrArg some (toInt64_toInt32 bounds.1 bounds.2)
      · intro other different
        cases other <;> first | rfl | contradiction
  | _ =>
      cases accepted
      constructor
      · intro kept
        first | rfl | exact toInt64_toInt32 kept.1 kept.2
      · intro other different
        cases other <;> first | rfl | contradiction

theorem run_changes {setter : Setter} {value : setter.name.Value}
    {options changed : Native.DcSctpOptions}
    (accepted : setter.run value options = .ok changed) :
    Changes setter.name value options changed := by
  cases setter with
  | checked name => exact checked_changes accepted
  | incomingStreams_ => exact incoming_changes accepted
  | outgoingStreams_ => exact outgoing_changes accepted

end Setter

end Dcsctp4j
