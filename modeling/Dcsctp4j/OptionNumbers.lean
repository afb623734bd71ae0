import Dcsctp4j.OptionsStore
import Dcsctp4j.Foundation.MachineNumbers

/-! # Numbers of the options

The `int` and `long` numbers of `DcSctpOptions`, the native fields they are stored
into, and what becomes of a number that its field does not hold.
-/

namespace Dcsctp4j

open MachineNumbers

namespace OptionName

/-- The integer that a Java value passes; null passes none. Priorities are of
type `short` and flags are no numbers. -/
def javaNumber : (name : OptionName) → name.Value → Option Int
  | .localPort | .remotePort | .announcedMaximumIncomingStreams
  | .announcedMaximumOutgoingStreams | .maxBurst
  | .zeroChecksumAlternateErrorDetectionMethod => fun value => some value.toInt
  | .mtu | .maxMessageSize | .maxReceiverWindowBufferSize | .maxSendBufferSize
  | .perStreamSendQueueLimit | .totalBufferedAmountLowThreshold | .rttMax | .rtoInitial
  | .rtoMax | .rtoMin | .t1InitTimeout | .t1CookieTimeout | .t2ShutdownTimeout
  | .heartbeatInterval | .delayedAckMaxTimeout | .minRttVariance | .cwndMtusInitial
  | .cwndMtusMin | .avoidFragmentationCwndMtus => fun value => some value.toInt
  | .maxTimerBackoffDuration => fun value => value.map Int64.toInt
  | .maxRetransmissions | .maxInitRetransmits => fun value => value.map Int32.toInt
  | .defaultStreamPriority | .enablePartialReliability | .enableMessageInterleaving
  | .heartbeatIntervalIncludeRtt | .disableChecksumVerification => fun _ => none

def nativeNumber : OptionName → Native.DcSctpOptions → Option Int
  | .localPort => fun options => some options.localPort.toInt
  | .remotePort => fun options => some options.remotePort.toInt
  | .announcedMaximumIncomingStreams => fun options =>
      some options.announcedMaximumIncomingStreams.toNat
  | .announcedMaximumOutgoingStreams => fun options =>
      some options.announcedMaximumOutgoingStreams.toNat
  | .mtu => fun options => some options.mtu.toNat
  | .maxMessageSize => fun options => some options.maxMessageSize.toNat
  | .maxReceiverWindowBufferSize => fun options => some options.maxReceiverWindowBufferSize.toNat
  | .maxSendBufferSize => fun options => some options.maxSendBufferSize.toNat
  | .perStreamSendQueueLimit => fun options => some options.perStreamSendQueueLimit.toNat
  | .totalBufferedAmountLowThreshold => fun options =>
      some options.totalBufferedAmountLowThreshold.toNat
  | .rttMax => fun options => some options.rttMax.value.toInt
  | .rtoInitial => fun options => some options.rtoInitial.value.toInt
  | .rtoMax => fun options => some options.rtoMax.value.toInt
  | .rtoMin => fun options => some options.rtoMin.value.toInt
  | .t1InitTimeout => fun options => some options.t1InitTimeout.value.toInt
  | .t1CookieTimeout => fun options => some options.t1CookieTimeout.value.toInt
  | .t2ShutdownTimeout => fun options => some options.t2ShutdownTimeout.value.toInt
  | .maxTimerBackoffDuration => fun options =>
      options.maxTimerBackoffDuration.map fun duration => duration.value.toInt
  | .heartbeatInterval => fun options => some options.heartbeatInterval.value.toInt
  | .delayedAckMaxTimeout => fun options => some options.delayedAckMaxTimeout.value.toInt
  | .minRttVariance => fun options => some options.minRttVariance.value.toInt
  | .cwndMtusInitial => fun options => some options.cwndMtusInitial.toNat
  | .cwndMtusMin => fun options => some options.cwndMtusMin.toNat
  | .avoidFragmentationCwndMtus => fun options => some options.avoidFragmentationCwndMtus.toNat
  | .maxBurst => fun options => some options.maxBurst.toInt
  | .maxRetransmissions => fun options => options.maxRetransmissions.map Int32.toInt
  | .maxInitRetransmits => fun options => options.maxInitRetransmits.map Int32.toInt
  | .zeroChecksumAlternateErrorDetectionMethod => fun options =>
      some options.zeroChecksumAlternateErrorDetectionMethod.value.toNat
  | .defaultStreamPriority | .enablePartialReliability | .enableMessageInterleaving
  | .heartbeatIntervalIncludeRtt | .disableChecksumVerification => fun _ => none

def fieldRange : OptionName → Set Int
  | .localPort | .remotePort | .maxBurst | .maxRetransmissions | .maxInitRetransmits
  | .rttMax | .rtoInitial | .rtoMax | .rtoMin | .t1InitTimeout | .t1CookieTimeout
  | .t2ShutdownTimeout | .maxTimerBackoffDuration | .heartbeatInterval
  | .delayedAckMaxTimeout | .minRttVariance => signedRange 32
  | .announcedMaximumIncomingStreams | .announcedMaximumOutgoingStreams => unsignedRange 16
  | .mtu | .maxMessageSize | .maxReceiverWindowBufferSize | .maxSendBufferSize
  | .perStreamSendQueueLimit | .totalBufferedAmountLowThreshold | .cwndMtusInitial
  | .cwndMtusMin | .avoidFragmentationCwndMtus => unsignedRange 64
  | .zeroChecksumAlternateErrorDetectionMethod => unsignedRange 32
  | .defaultStreamPriority | .enablePartialReliability | .enableMessageInterleaving
  | .heartbeatIntervalIncludeRtt | .disableChecksumVerification => Set.univ

def Fits (name : OptionName) (value : name.Value) : Prop :=
  ∀ number ∈ name.javaNumber value, number ∈ name.fieldRange

def checksRange : OptionName → Bool
  | .announcedMaximumIncomingStreams | .announcedMaximumOutgoingStreams => true
  | _ => false

end OptionName

/-! ## Conversions that keep the number -/

theorem size_kept_iff (value : Int64) :
    (value.toUInt64.toNat : Int) = value.toInt ↔ value.toInt ∈ unsignedRange 64 :=
  toNat_eq_toInt_iff value.toBitVec

theorem method_kept_iff (value : Int32) :
    (value.toUInt32.toNat : Int) = value.toInt ↔ value.toInt ∈ unsignedRange 32 :=
  toNat_eq_toInt_iff value.toBitVec

theorem duration_kept_iff (value : Int64) :
    value.toInt32.toInt = value.toInt ↔ value.toInt ∈ signedRange 32 := by
  rw [Int64.toInt_toInt32]
  exact bmod_eq_self_iff (by decide) value.toInt

theorem duration_congr {first second : Int32} (same : first.toInt64 = second.toInt64) :
    first.toInt = second.toInt := by
  rw [← Int32.toInt_toInt64, ← Int32.toInt_toInt64, same]

theorem int_fits (value : Int32) : value.toInt ∈ signedRange 32 :=
  ⟨value.le_toInt, value.toInt_lt⟩

theorem present_kept_iff {native passed : Int} {range : Set Int}
    (kept : native = passed ↔ passed ∈ range) :
    some native = some passed ↔ ∀ number ∈ some passed, number ∈ range := by
  simpa using kept

theorem present_fits {passed : Int} {range : Set Int} (inside : passed ∈ range) :
    ∀ number ∈ some passed, number ∈ range := by
  simpa using inside

theorem optional_kept_iff {ε ν : Type} (value : Option ε) {convert : ε → ν} {number : ν → Int}
    {passed : ε → Int} {range : Set Int}
    (kept : ∀ present, number (convert present) = passed present ↔ passed present ∈ range) :
    (value.map convert).map number = value.map passed ↔
      ∀ number ∈ value.map passed, number ∈ range := by
  cases value with
  | none => simp
  | some present => simp [kept]

/-! ## What an accepted number becomes -/

theorem streams_number {streams : UInt16} {value : Int32}
    (kept : streams.toUInt32.toInt32 = value) :
    (streams.toNat : Int) = value.toInt ∧ value.toInt ∈ unsignedRange 16 := by
  have small : (streams.toNat : Int) < 2 ^ 16 := by exact_mod_cast streams.toNat_lt
  have inside : ((streams.toUInt32.toBitVec.toNat : Nat) : Int) ∈ signedRange 32 := by
    have wide : streams.toUInt32.toBitVec.toNat = streams.toNat := UInt16.toNat_toUInt32 streams
    rw [wide, signedRange, Set.mem_ofPred_eq]
    omega
  have same : value.toInt = (streams.toNat : Int) := by
    subst kept
    exact ((toInt_eq_toNat_iff (by decide) streams.toUInt32.toBitVec).mpr inside).trans
      (congrArg Nat.cast (UInt16.toNat_toUInt32 streams))
  refine ⟨same.symm, ?_⟩
  rw [same, unsignedRange, Set.mem_ofPred_eq]
  omega

theorem incoming_number {value : Int32} {options changed : Native.DcSctpOptions}
    (accepted : DcSctpOptions.setAnnouncedMaximumIncomingStreams_ value options = .ok changed) :
    OptionName.announcedMaximumIncomingStreams.nativeNumber changed = some value.toInt ∧
      OptionName.announcedMaximumIncomingStreams.Fits value := by
  rcases DcSctpOptions.announced_ok accepted with ⟨streams, kept, rfl⟩
  have number := streams_number kept
  exact ⟨congrArg some number.1, present_fits number.2⟩

theorem outgoing_number {value : Int32} {options changed : Native.DcSctpOptions}
    (accepted : DcSctpOptions.setAnnouncedMaximumOutgoingStreams_ value options = .ok changed) :
    OptionName.announcedMaximumOutgoingStreams.nativeNumber changed = some value.toInt ∧
      OptionName.announcedMaximumOutgoingStreams.Fits value := by
  rcases DcSctpOptions.announced_ok accepted with ⟨streams, kept, rfl⟩
  have number := streams_number kept
  exact ⟨congrArg some number.1, present_fits number.2⟩

namespace OptionName

theorem set_number_iff {name : OptionName} {value : name.Value}
    {options changed : Native.DcSctpOptions} (accepted : name.set value options = .ok changed) :
    name.nativeNumber changed = name.javaNumber value ↔ name.Fits value := by
  cases name with
  | announcedMaximumIncomingStreams =>
      have number := incoming_number (DcSctpOptions.checked_ok accepted)
      exact iff_of_true number.1 number.2
  | announcedMaximumOutgoingStreams =>
      have number := outgoing_number (DcSctpOptions.checked_ok accepted)
      exact iff_of_true number.1 number.2
  | localPort | remotePort | maxBurst =>
      cases accepted
      exact present_kept_iff (iff_of_true rfl (int_fits value))
  | maxRetransmissions | maxInitRetransmits =>
      cases accepted
      exact iff_of_true rfl fun number passed => by
        rcases Option.mem_map.mp passed with ⟨present, -, equal⟩
        exact equal ▸ int_fits present
  | mtu | maxMessageSize | maxReceiverWindowBufferSize | maxSendBufferSize
  | perStreamSendQueueLimit | totalBufferedAmountLowThreshold | cwndMtusInitial
  | cwndMtusMin | avoidFragmentationCwndMtus =>
      cases accepted
      exact present_kept_iff (size_kept_iff value)
  | rttMax | rtoInitial | rtoMax | rtoMin | t1InitTimeout | t1CookieTimeout
  | t2ShutdownTimeout | heartbeatInterval | delayedAckMaxTimeout | minRttVariance =>
      cases accepted
      exact present_kept_iff (duration_kept_iff value)
  | maxTimerBackoffDuration =>
      cases accepted
      exact optional_kept_iff value duration_kept_iff
  | zeroChecksumAlternateErrorDetectionMethod =>
      cases accepted
      exact present_kept_iff (method_kept_iff value)
  | defaultStreamPriority | enablePartialReliability | enableMessageInterleaving
  | heartbeatIntervalIncludeRtt | disableChecksumVerification =>
      cases accepted
      exact iff_of_true rfl fun number passed => by cases passed

theorem set_unchecked {name : OptionName} (unchecked : name.checksRange = false)
    (value : name.Value) (options : Native.DcSctpOptions) :
    ∃ changed, name.set value options = .ok changed := by
  cases name with
  | announcedMaximumIncomingStreams | announcedMaximumOutgoingStreams => cases unchecked
  | _ => exact ⟨_, rfl⟩

theorem nativeNumber_congr {name : OptionName} {options others : Native.DcSctpOptions}
    (same : name.get options = name.get others) :
    name.nativeNumber options = name.nativeNumber others := by
  cases name with
  | localPort | remotePort | maxBurst =>
      exact congrArg (fun number : Int32 => some number.toInt) same
  | announcedMaximumIncomingStreams | announcedMaximumOutgoingStreams =>
      have streams := UInt16.toUInt32_inj.mp (congrArg Int32.toUInt32 same)
      exact congrArg (fun streams : UInt16 => some (streams.toNat : Int)) streams
  | mtu | maxMessageSize | maxReceiverWindowBufferSize | maxSendBufferSize
  | perStreamSendQueueLimit | totalBufferedAmountLowThreshold | cwndMtusInitial
  | cwndMtusMin | avoidFragmentationCwndMtus =>
      exact congrArg (fun number : Int64 => some (number.toUInt64.toNat : Int)) same
  | rttMax | rtoInitial | rtoMax | rtoMin | t1InitTimeout | t1CookieTimeout
  | t2ShutdownTimeout | heartbeatInterval | delayedAckMaxTimeout | minRttVariance =>
      exact congrArg some (duration_congr same)
  | maxTimerBackoffDuration =>
      have number := congrArg (Option.map Int64.toInt) same
      simpa only [nativeNumber, get, DcSctpOptions.getMaxTimerBackoffDuration, Option.map_map,
        Function.comp_def, Int32.toInt_toInt64] using number
  | maxRetransmissions | maxInitRetransmits =>
      exact congrArg (Option.map Int32.toInt) same
  | zeroChecksumAlternateErrorDetectionMethod =>
      exact congrArg (fun number : Int32 => some (number.toUInt32.toNat : Int)) same
  | defaultStreamPriority | enablePartialReliability | enableMessageInterleaving
  | heartbeatIntervalIncludeRtt | disableChecksumVerification => rfl

end OptionName

namespace Setter

variable {setter : Setter} {value : setter.name.Value} {options changed : Native.DcSctpOptions}

theorem run_number_iff (accepted : setter.run value options = .ok changed) :
    setter.name.nativeNumber changed = setter.name.javaNumber value ↔
      setter.name.Fits value := by
  cases setter with
  | checked name => exact OptionName.set_number_iff accepted
  | incomingStreams_ =>
      have number := incoming_number accepted
      exact iff_of_true number.1 number.2
  | outgoingStreams_ =>
      have number := outgoing_number accepted
      exact iff_of_true number.1 number.2

theorem fits_of_accepted (checks : setter.name.checksRange = true)
    (accepted : setter.run value options = .ok changed) : setter.name.Fits value := by
  cases setter with
  | checked name =>
      cases name with
      | announcedMaximumIncomingStreams =>
          exact (incoming_number (DcSctpOptions.checked_ok accepted)).2
      | announcedMaximumOutgoingStreams =>
          exact (outgoing_number (DcSctpOptions.checked_ok accepted)).2
      | _ => cases checks
  | incomingStreams_ => exact (incoming_number accepted).2
  | outgoingStreams_ => exact (outgoing_number accepted).2

theorem run_unchecked (unchecked : setter.name.checksRange = false) (value : setter.name.Value)
    (options : Native.DcSctpOptions) : ∃ changed, setter.run value options = .ok changed := by
  cases setter with
  | checked name => exact OptionName.set_unchecked unchecked value options
  | incomingStreams_ | outgoingStreams_ => cases unchecked

end Setter

end Dcsctp4j
