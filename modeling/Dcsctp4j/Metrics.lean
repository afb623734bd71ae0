import Dcsctp4j.ConfigurationNumbers

/-! # Metrics and their getters

`Metrics_class` of `mapped_objects.cpp`. A Java object holds a snapshot of
dcsctp's metrics, unsigned for the most part, and its getters return signed
numbers of three widths.
-/

namespace Dcsctp4j

open MachineNumbers Transition

namespace Native

inductive SctpImplementation
  | kUnknown
  | kDcsctp
  | kUsrSctp
  | kOther
deriving DecidableEq

structure Metrics where
  txPacketsCount : UInt64
  txMessagesCount : UInt64
  rtxPacketsCount : UInt64
  rtxBytesCount : UInt64
  cwndBytes : UInt64
  srttMs : Int32
  unackDataCount : UInt64
  rxPacketsCount : UInt64
  rxMessagesCount : UInt64
  peerRwndBytes : UInt32
  peerImplementation : SctpImplementation
  usesMessageInterleaving : Bool
  usesZeroChecksum : Bool
  negotiatedMaximumIncomingStreams : UInt16
  negotiatedMaximumOutgoingStreams : UInt16
deriving DecidableEq

end Native

namespace Java

inductive SctpImplementation
  | kUnknown
  | kDcsctp
  | kUsrSctp
  | kOther
deriving DecidableEq

end Java

def SctpImplementationMembers.map : Native.SctpImplementation → Java.SctpImplementation
  | .kUnknown => .kUnknown
  | .kDcsctp => .kDcsctp
  | .kUsrSctp => .kUsrSctp
  | .kOther => .kOther

/-! ## Native getters -/

namespace Metrics

open Native (Metrics)

def getTxPacketsCount (metrics : Metrics) : Int64 := metrics.txPacketsCount.toInt64

def getTxMessagesCount (metrics : Metrics) : Int64 := metrics.txMessagesCount.toInt64

def getRtxPacketsCount (metrics : Metrics) : Int64 := metrics.rtxPacketsCount.toInt64

def getRtxBytesCount (metrics : Metrics) : Int64 := metrics.rtxBytesCount.toInt64

def getCwndBytes (metrics : Metrics) : Int64 := metrics.cwndBytes.toInt64

def getSrttMs (metrics : Metrics) : Int32 := metrics.srttMs

def getUnackDataCount (metrics : Metrics) : Int64 := metrics.unackDataCount.toInt64

def getRxPacketsCount (metrics : Metrics) : Int64 := metrics.rxPacketsCount.toInt64

def getRxMessagesCount (metrics : Metrics) : Int64 := metrics.rxMessagesCount.toInt64

def getPeerRwndBytes (metrics : Metrics) : Int32 := metrics.peerRwndBytes.toInt32

def getPeerImplementation (metrics : Metrics) : Java.SctpImplementation :=
  SctpImplementationMembers.map metrics.peerImplementation

def usesMessageInterleaving (metrics : Metrics) : Bool := metrics.usesMessageInterleaving

def usesZeroChecksum (metrics : Metrics) : Bool := metrics.usesZeroChecksum

def getNegotiatedMaximumIncomingStreams (metrics : Metrics) : Int16 :=
  metrics.negotiatedMaximumIncomingStreams.toInt16

def getNegotiatedMaximumOutgoingStreams (metrics : Metrics) : Int16 :=
  metrics.negotiatedMaximumOutgoingStreams.toInt16

end Metrics

/-! ## All metrics by name -/

inductive MetricName
  | txPacketsCount
  | txMessagesCount
  | rtxPacketsCount
  | rtxBytesCount
  | cwndBytes
  | srttMs
  | unackDataCount
  | rxPacketsCount
  | rxMessagesCount
  | peerRwndBytes
  | peerImplementation
  | usesMessageInterleaving
  | usesZeroChecksum
  | negotiatedMaximumIncomingStreams
  | negotiatedMaximumOutgoingStreams
deriving DecidableEq

namespace MetricName

@[reducible] def Value : MetricName → Type
  | .txPacketsCount | .txMessagesCount | .rtxPacketsCount | .rtxBytesCount | .cwndBytes
  | .unackDataCount | .rxPacketsCount | .rxMessagesCount => Int64
  | .srttMs | .peerRwndBytes => Int32
  | .peerImplementation => Java.SctpImplementation
  | .usesMessageInterleaving | .usesZeroChecksum => Bool
  | .negotiatedMaximumIncomingStreams | .negotiatedMaximumOutgoingStreams => Int16

def get : (name : MetricName) → Native.Metrics → name.Value
  | .txPacketsCount => Metrics.getTxPacketsCount
  | .txMessagesCount => Metrics.getTxMessagesCount
  | .rtxPacketsCount => Metrics.getRtxPacketsCount
  | .rtxBytesCount => Metrics.getRtxBytesCount
  | .cwndBytes => Metrics.getCwndBytes
  | .srttMs => Metrics.getSrttMs
  | .unackDataCount => Metrics.getUnackDataCount
  | .rxPacketsCount => Metrics.getRxPacketsCount
  | .rxMessagesCount => Metrics.getRxMessagesCount
  | .peerRwndBytes => Metrics.getPeerRwndBytes
  | .peerImplementation => Metrics.getPeerImplementation
  | .usesMessageInterleaving => Metrics.usesMessageInterleaving
  | .usesZeroChecksum => Metrics.usesZeroChecksum
  | .negotiatedMaximumIncomingStreams => Metrics.getNegotiatedMaximumIncomingStreams
  | .negotiatedMaximumOutgoingStreams => Metrics.getNegotiatedMaximumOutgoingStreams

/-- The integer that a getter returns, if it returns one. -/
def javaNumber : (name : MetricName) → name.Value → Option Int
  | .txPacketsCount | .txMessagesCount | .rtxPacketsCount | .rtxBytesCount | .cwndBytes
  | .unackDataCount | .rxPacketsCount | .rxMessagesCount => fun value => some value.toInt
  | .srttMs | .peerRwndBytes => fun value => some value.toInt
  | .negotiatedMaximumIncomingStreams | .negotiatedMaximumOutgoingStreams => fun value =>
      some value.toInt
  | .peerImplementation | .usesMessageInterleaving | .usesZeroChecksum => fun _ => none

def nativeNumber : MetricName → Native.Metrics → Option Int
  | .txPacketsCount => fun metrics => some metrics.txPacketsCount.toNat
  | .txMessagesCount => fun metrics => some metrics.txMessagesCount.toNat
  | .rtxPacketsCount => fun metrics => some metrics.rtxPacketsCount.toNat
  | .rtxBytesCount => fun metrics => some metrics.rtxBytesCount.toNat
  | .cwndBytes => fun metrics => some metrics.cwndBytes.toNat
  | .srttMs => fun metrics => some metrics.srttMs.toInt
  | .unackDataCount => fun metrics => some metrics.unackDataCount.toNat
  | .rxPacketsCount => fun metrics => some metrics.rxPacketsCount.toNat
  | .rxMessagesCount => fun metrics => some metrics.rxMessagesCount.toNat
  | .peerRwndBytes => fun metrics => some metrics.peerRwndBytes.toNat
  | .negotiatedMaximumIncomingStreams => fun metrics =>
      some metrics.negotiatedMaximumIncomingStreams.toNat
  | .negotiatedMaximumOutgoingStreams => fun metrics =>
      some metrics.negotiatedMaximumOutgoingStreams.toNat
  | .peerImplementation | .usesMessageInterleaving | .usesZeroChecksum => fun _ => none

def javaRange : MetricName → Set Int
  | .txPacketsCount | .txMessagesCount | .rtxPacketsCount | .rtxBytesCount | .cwndBytes
  | .unackDataCount | .rxPacketsCount | .rxMessagesCount => signedRange 64
  | .srttMs | .peerRwndBytes => signedRange 32
  | .negotiatedMaximumIncomingStreams | .negotiatedMaximumOutgoingStreams => signedRange 16
  | .peerImplementation | .usesMessageInterleaving | .usesZeroChecksum => Set.univ

def isCounter : MetricName → Bool
  | .txPacketsCount | .txMessagesCount | .rtxPacketsCount | .rtxBytesCount | .cwndBytes
  | .unackDataCount | .rxPacketsCount | .rxMessagesCount => true
  | _ => false

end MetricName

/-! ## What the getters return -/

theorem counter_kept_iff (counter : UInt64) :
    counter.toInt64.toInt = counter.toNat ↔ (counter.toNat : Int) ∈ signedRange 64 :=
  toInt_eq_toNat_iff (by decide) counter.toBitVec

theorem window_kept_iff (window : UInt32) :
    window.toInt32.toInt = window.toNat ↔ (window.toNat : Int) ∈ signedRange 32 :=
  toInt_eq_toNat_iff (by decide) window.toBitVec

theorem negotiated_kept_iff (streams : UInt16) :
    streams.toInt16.toInt = streams.toNat ↔ (streams.toNat : Int) ∈ signedRange 16 :=
  toInt_eq_toNat_iff (by decide) streams.toBitVec

theorem MetricName.get_number_iff (name : MetricName) (metrics : Native.Metrics) :
    name.javaNumber (name.get metrics) = name.nativeNumber metrics ↔
      ∀ number ∈ name.nativeNumber metrics, number ∈ name.javaRange := by
  cases name with
  | txPacketsCount | txMessagesCount | rtxPacketsCount | rtxBytesCount | cwndBytes
  | unackDataCount | rxPacketsCount | rxMessagesCount =>
      exact present_kept_iff (counter_kept_iff _)
  | srttMs => exact present_kept_iff (iff_of_true rfl (int_fits _))
  | peerRwndBytes => exact present_kept_iff (window_kept_iff _)
  | negotiatedMaximumIncomingStreams | negotiatedMaximumOutgoingStreams =>
      exact present_kept_iff (negotiated_kept_iff _)
  | peerImplementation | usesMessageInterleaving | usesZeroChecksum =>
      exact iff_of_true rfl fun number held => by cases held

theorem mem_signedRange_iff {number width : Nat} :
    (number : Int) ∈ signedRange width ↔ number < 2 ^ (width - 1) := by
  rw [signedRange, Set.mem_ofPred_eq]
  have power := two_pow_positive (width - 1)
  constructor
  · intro inside
    exact_mod_cast inside.2
  · intro below
    have below : (number : Int) < 2 ^ (width - 1) := by exact_mod_cast below
    omega

def CountersFit (metrics : Native.Metrics) : Prop :=
  ∀ name : MetricName, name.isCounter = true → ∀ number ∈ name.nativeNumber metrics,
    number < 2 ^ 63

/-- The fields whose getters are too narrow hold small numbers. -/
def NarrowFit (metrics : Native.Metrics) : Prop :=
  metrics.peerRwndBytes.toNat < 2 ^ 31 ∧
    metrics.negotiatedMaximumIncomingStreams.toNat < 2 ^ 15 ∧
    metrics.negotiatedMaximumOutgoingStreams.toNat < 2 ^ 15

instance (metrics : Native.Metrics) : Decidable (NarrowFit metrics) :=
  inferInstanceAs (Decidable (_ ∧ _))

theorem get_numbers_iff {metrics : Native.Metrics} (counters : CountersFit metrics) :
    (∀ name : MetricName, name.javaNumber (name.get metrics) = name.nativeNumber metrics) ↔
      NarrowFit metrics := by
  simp only [MetricName.get_number_iff]
  constructor
  · intro fits
    exact ⟨mem_signedRange_iff.mp (fits .peerRwndBytes _ rfl),
      mem_signedRange_iff.mp (fits .negotiatedMaximumIncomingStreams _ rfl),
      mem_signedRange_iff.mp (fits .negotiatedMaximumOutgoingStreams _ rfl)⟩
  · intro narrow name number held
    cases name with
    | txPacketsCount | txMessagesCount | rtxPacketsCount | rtxBytesCount | cwndBytes
    | unackDataCount | rxPacketsCount | rxMessagesCount =>
        have below := counters _ rfl number held
        cases held
        exact mem_signedRange_iff.mpr (by exact_mod_cast below)
    | srttMs =>
        cases held
        exact int_fits _
    | peerRwndBytes =>
        cases held
        exact mem_signedRange_iff.mpr narrow.1
    | negotiatedMaximumIncomingStreams =>
        cases held
        exact mem_signedRange_iff.mpr narrow.2.1
    | negotiatedMaximumOutgoingStreams =>
        cases held
        exact mem_signedRange_iff.mpr narrow.2.2
    | peerImplementation | usesMessageInterleaving | usesZeroChecksum => cases held

/-! ## Metrics objects -/

abbrev MetricsHeap := OwnedCells Nat Native.Metrics

/-- `getMetrics` with what dcsctp answers at the time, nothing while there is no
connection, and with the identity and the address it creates. -/
inductive MetricsOperation
  | getMetrics (current : Option Native.Metrics) (object address : Nat)
  | get (object : Nat) (name : MetricName)
  | destruct (object : Nat)

inductive MetricsAnswer
  | null
  | object (object : Nat)
  | value (name : MetricName) (value : name.Value)
  | done

inductive MetricsStep : MetricsHeap → MetricsOperation × MetricsAnswer → MetricsHeap → Prop
  | unknown {heap : MetricsHeap} {object address : Nat} :
      MetricsStep heap (.getMetrics none object address, .null) heap
  | getMetrics {heap : MetricsHeap} {object address : Nat} {current : Native.Metrics}
      (unused : heap.address object = none) (fresh : heap.memory address = none) :
      MetricsStep heap (.getMetrics (some current) object address, .object object)
        (heap.allocate object address current fresh)
  | get {heap : MetricsHeap} {object address : Nat} {name : MetricName}
      {metrics : Native.Metrics} (held : heap.address object = some address)
      (stored : heap.memory address = some metrics) :
      MetricsStep heap (.get object name, .value name (name.get metrics)) heap
  | destruct {heap : MetricsHeap} {object address : Nat}
      (held : heap.address object = some address) :
      MetricsStep heap (.destruct object, .done) (heap.free object address held)

def metricsObjects : System MetricsHeap (MetricsOperation × MetricsAnswer) where
  initial heap := heap = .empty
  step := MetricsStep

def snapshotOf : List (MetricsOperation × MetricsAnswer) → Nat → Option Native.Metrics
  | [], _ => none
  | (.getMetrics (some current) object _, _) :: before, other =>
      if other = object then some current else snapshotOf before other
  | (.destruct object, _) :: before, other =>
      if other = object then none else snapshotOf before other
  | _ :: before, other => snapshotOf before other

theorem MetricsStep.read {heap after : MetricsHeap}
    {event : MetricsOperation × MetricsAnswer} (step : MetricsStep heap event after)
    {history : List (MetricsOperation × MetricsAnswer)}
    (before : ∀ object, heap.read object = snapshotOf history object) (object : Nat) :
    after.read object = snapshotOf (event :: history) object := by
  cases step with
  | unknown => exact before object
  | getMetrics unused fresh => rw [OwnedCells.read_allocate, before, snapshotOf]
  | get held stored => exact before object
  | destruct held => rw [OwnedCells.read_free, before, snapshotOf]

/-- Objects keep their snapshots, whatever dcsctp counts since. -/
theorem run_read {first last : MetricsHeap} {events : List (MetricsOperation × MetricsAnswer)}
    (initial : metricsObjects.initial first) (run : metricsObjects.Run first events last)
    (object : Nat) : last.read object = snapshotOf events.reverse object := by
  have start : ∀ other, first.read other = snapshotOf [] other := by
    intro other
    rw [initial]
    rfl
  have recorded := run.recorded
    (fun heap history => ∀ other, heap.read other = snapshotOf history other)
    (fun _ _ _ _ step before => MetricsStep.read step before) start object
  rwa [List.append_nil] at recorded

def GettersTrue (heap : MetricsHeap) (object : Nat) (metrics : Native.Metrics) : Prop :=
  ∀ (name : MetricName) (answer : MetricsAnswer) (after : MetricsHeap),
    MetricsStep heap (.get object name, answer) after →
      ∃ value, answer = .value name value ∧ name.javaNumber value = name.nativeNumber metrics

theorem gettersTrue_iff {heap : MetricsHeap} {object : Nat} {metrics : Native.Metrics}
    (present : heap.read object = some metrics) :
    GettersTrue heap object metrics ↔
      ∀ name : MetricName, name.javaNumber (name.get metrics) = name.nativeNumber metrics := by
  rcases Option.bind_eq_some_iff.mp present with ⟨address, held, stored⟩
  constructor
  · intro getters name
    rcases getters name _ _ (.get held stored) with ⟨value, answered, same⟩
    cases answered
    exact same
  · intro same name answer after step
    cases step with
    | get otherHeld otherStored =>
        cases held.symm.trans otherHeld
        cases stored.symm.trans otherStored
        exact ⟨_, rfl, same name⟩

/-! ## Negotiated stream counts -/

/-- What dcsctp does with the announced maxima of two connected endpoints. -/
structure Negotiated (own peer : Native.DcSctpOptions) (metrics : Native.Metrics) :
    Prop where
  incoming : metrics.negotiatedMaximumIncomingStreams.toNat =
    min own.announcedMaximumIncomingStreams.toNat
      peer.announcedMaximumOutgoingStreams.toNat
  outgoing : metrics.negotiatedMaximumOutgoingStreams.toNat =
    min own.announcedMaximumOutgoingStreams.toNat
      peer.announcedMaximumIncomingStreams.toNat

def configureStreams (incoming outgoing : Int32) (options : Native.DcSctpOptions) :
    Except Throwable Native.DcSctpOptions := do
  let options ← DcSctpOptions.setAnnouncedMaximumIncomingStreams incoming options
  DcSctpOptions.setAnnouncedMaximumOutgoingStreams outgoing options

/-- The metrics getters return the smaller of the maxima that the options
getters return. -/
structure NegotiatedAgree (own peer : Native.DcSctpOptions) (metrics : Native.Metrics) :
    Prop where
  incoming : (Metrics.getNegotiatedMaximumIncomingStreams metrics).toInt =
    min (DcSctpOptions.getAnnouncedMaximumIncomingStreams own).toInt
      (DcSctpOptions.getAnnouncedMaximumOutgoingStreams peer).toInt
  outgoing : (Metrics.getNegotiatedMaximumOutgoingStreams metrics).toInt =
    min (DcSctpOptions.getAnnouncedMaximumOutgoingStreams own).toInt
      (DcSctpOptions.getAnnouncedMaximumIncomingStreams peer).toInt

section Negotiation

variable {own peer : Native.DcSctpOptions} {metrics : Native.Metrics}

theorem announced_toInt (streams : UInt16) :
    streams.toUInt32.toInt32.toInt = streams.toNat := (streams_number rfl).1.symm

theorem smaller_kept_iff {negotiated first second : UInt16}
    (smaller : negotiated.toNat = min first.toNat second.toNat) :
    negotiated.toInt16.toInt =
        min first.toUInt32.toInt32.toInt second.toUInt32.toInt32.toInt ↔
      min first.toUInt32.toInt32.toInt second.toUInt32.toInt32.toInt < 2 ^ 15 := by
  have number : (negotiated.toNat : Int) =
      min first.toUInt32.toInt32.toInt second.toUInt32.toInt32.toInt := by
    rw [smaller, announced_toInt, announced_toInt]
    omega
  rw [← number, negotiated_kept_iff, mem_signedRange_iff]
  exact_mod_cast Iff.rfl

theorem negotiatedAgree_iff (negotiated : Negotiated own peer metrics) :
    NegotiatedAgree own peer metrics ↔
      min (DcSctpOptions.getAnnouncedMaximumIncomingStreams own).toInt
          (DcSctpOptions.getAnnouncedMaximumOutgoingStreams peer).toInt < 2 ^ 15 ∧
        min (DcSctpOptions.getAnnouncedMaximumOutgoingStreams own).toInt
          (DcSctpOptions.getAnnouncedMaximumIncomingStreams peer).toInt < 2 ^ 15 := by
  have incoming := smaller_kept_iff negotiated.incoming
  have outgoing := smaller_kept_iff negotiated.outgoing
  exact ⟨fun agree => ⟨incoming.mp agree.incoming, outgoing.mp agree.outgoing⟩,
    fun small => ⟨incoming.mpr small.1, outgoing.mpr small.2⟩⟩

end Negotiation

/-! ## Configured endpoints -/

theorem streams_within {value : Int32} (inside : value.toInt ∈ unsignedRange 16) :
    ¬(value < 0 ∨ 65535 < value) := by
  rw [Int32.lt_iff_toInt_lt, Int32.lt_iff_toInt_lt]
  intro outside
  rcases outside with negative | large
  · exact absurd negative (Int.not_lt.mpr inside.1)
  · exact absurd large (Int.not_lt.mpr (Int.le_of_lt_add_one inside.2))

theorem checked_accepted {value : Int32} (inside : value.toInt ∈ unsignedRange 16)
    (option : String) (store : UInt16 → Native.DcSctpOptions) :
    (do
      DcSctpOptions.checkedStreams option value
      let streams ← DcSctpOptions.announcedStreams option value
      return store streams) = Except.ok (store value.toUInt32.toUInt16) := by
  have within := streams_within inside
  rw [DcSctpOptions.checkedStreams, if_neg within, DcSctpOptions.announcedStreams,
    if_neg within]
  rfl

theorem incoming_accepted {value : Int32} (inside : value.toInt ∈ unsignedRange 16)
    (options : Native.DcSctpOptions) :
    ∃ changed, OptionName.announcedMaximumIncomingStreams.set value options = .ok changed :=
  ⟨_, checked_accepted inside _ _⟩

theorem outgoing_accepted {value : Int32} (inside : value.toInt ∈ unsignedRange 16)
    (options : Native.DcSctpOptions) :
    ∃ changed, OptionName.announcedMaximumOutgoingStreams.set value options = .ok changed :=
  ⟨_, checked_accepted inside _ _⟩

theorem configureStreams_ok {incoming outgoing : Int32}
    (incomingInside : incoming.toInt ∈ unsignedRange 16)
    (outgoingInside : outgoing.toInt ∈ unsignedRange 16) (options : Native.DcSctpOptions) :
    ∃ configured, configureStreams incoming outgoing options = .ok configured ∧
      DcSctpOptions.getAnnouncedMaximumIncomingStreams configured = incoming ∧
      DcSctpOptions.getAnnouncedMaximumOutgoingStreams configured = outgoing := by
  rcases incoming_accepted incomingInside options with ⟨middle, first⟩
  rcases outgoing_accepted outgoingInside middle with ⟨configured, second⟩
  have incomingChanges := Setter.checked_changes first
  have outgoingChanges := Setter.checked_changes second
  refine ⟨configured, ?_, ?_, outgoingChanges.same trivial⟩
  · have ran : DcSctpOptions.setAnnouncedMaximumIncomingStreams incoming options =
        .ok middle := first
    rw [configureStreams, ran]
    exact second
  · exact (outgoingChanges.other .announcedMaximumIncomingStreams (by decide)).trans
      (incomingChanges.same trivial)

/-! ## When metrics are true -/

/-- An object's getters are true exactly while the narrow fields of its snapshot
are in the lower half of their ranges; for the negotiated counts that depends on
what the endpoints were configured with. -/
theorem metrics_true_iff (metrics : Native.Metrics) :
    (∀ (first last : MetricsHeap) (events : List (MetricsOperation × MetricsAnswer)),
      metricsObjects.initial first → metricsObjects.Run first events last →
      ∀ object : Nat, snapshotOf events.reverse object = some metrics → CountersFit metrics →
        (GettersTrue last object metrics ↔ NarrowFit metrics)) ∧
    ∀ incoming outgoing peerIncoming peerOutgoing : Int32,
      incoming.toInt ∈ unsignedRange 16 → outgoing.toInt ∈ unsignedRange 16 →
      peerIncoming.toInt ∈ unsignedRange 16 → peerOutgoing.toInt ∈ unsignedRange 16 →
      ∀ options peerOptions : Native.DcSctpOptions, ∃ own peer,
        configureStreams incoming outgoing options = .ok own ∧
        configureStreams peerIncoming peerOutgoing peerOptions = .ok peer ∧
        (Negotiated own peer metrics →
          (NegotiatedAgree own peer metrics ↔
            min incoming.toInt peerOutgoing.toInt < 2 ^ 15 ∧
              min outgoing.toInt peerIncoming.toInt < 2 ^ 15)) := by
  constructor
  · intro first last events initial run object created counters
    have present := run_read initial run object
    rw [created] at present
    rw [gettersTrue_iff present]
    exact get_numbers_iff counters
  · intro incoming outgoing peerIncoming peerOutgoing incomingInside outgoingInside
      peerIncomingInside peerOutgoingInside options peerOptions
    rcases configureStreams_ok incomingInside outgoingInside options with
      ⟨own, configured, ownIncoming, ownOutgoing⟩
    rcases configureStreams_ok peerIncomingInside peerOutgoingInside peerOptions with
      ⟨peer, peerConfigured, peerIncomingRead, peerOutgoingRead⟩
    refine ⟨own, peer, configured, peerConfigured, ?_⟩
    intro negotiated
    rw [negotiatedAgree_iff negotiated, ownIncoming, ownOutgoing, peerIncomingRead,
      peerOutgoingRead]

def quietMetrics (window : UInt32) (incoming outgoing : UInt16) : Native.Metrics where
  txPacketsCount := 2
  txMessagesCount := 0
  rtxPacketsCount := 0
  rtxBytesCount := 0
  cwndBytes := 10600
  srttMs := 12
  unackDataCount := 0
  rxPacketsCount := 2
  rxMessagesCount := 0
  peerRwndBytes := window
  peerImplementation := .kDcsctp
  usesMessageInterleaving := false
  usesZeroChecksum := false
  negotiatedMaximumIncomingStreams := incoming
  negotiatedMaximumOutgoingStreams := outgoing

theorem quietMetrics_countersFit (window : UInt32) (incoming outgoing : UInt16) :
    CountersFit (quietMetrics window incoming outgoing) := by
  intro name counter number held
  cases name with
  | txPacketsCount | txMessagesCount | rtxPacketsCount | rtxBytesCount | cwndBytes
  | unackDataCount | rxPacketsCount | rxMessagesCount =>
      cases held
      simp only [quietMetrics]
      decide
  | _ => cases counter

def metricsHeap (metrics : Native.Metrics) : MetricsHeap :=
  OwnedCells.empty.allocate 0 16 metrics rfl

theorem metrics_true_iff_quiet :
    (GettersTrue (metricsHeap (quietMetrics 5242880 1024 16)) 0 (quietMetrics 5242880 1024 16) ↔
      NarrowFit (quietMetrics 5242880 1024 16)) ∧
    ∃ own peer, configureStreams 65535 16 sampleOptions = .ok own ∧
      configureStreams 16 1024 sampleOptions = .ok peer ∧
      Negotiated own peer (quietMetrics 5242880 1024 16) ∧
      NegotiatedAgree own peer (quietMetrics 5242880 1024 16) := by
  have created : metricsObjects.Run .empty
      [(.getMetrics (some (quietMetrics 5242880 1024 16)) 0 16, .object 0)]
      (metricsHeap (quietMetrics 5242880 1024 16)) := .cons (.getMetrics rfl rfl) (.nil _)
  rcases metrics_true_iff (quietMetrics 5242880 1024 16) with ⟨getters, negotiation⟩
  refine ⟨getters _ _ _ rfl created 0 rfl (quietMetrics_countersFit _ _ _), ?_⟩
  rcases negotiation 65535 16 16 1024 ⟨by decide, by decide⟩ ⟨by decide, by decide⟩
    ⟨by decide, by decide⟩ ⟨by decide, by decide⟩ sampleOptions sampleOptions with
      ⟨own, peer, configured, peerConfigured, agree⟩
  have negotiated : Negotiated own peer (quietMetrics 5242880 1024 16) := by
    cases configured
    cases peerConfigured
    exact ⟨by decide, by decide⟩
  exact ⟨own, peer, configured, peerConfigured, negotiated,
    (agree negotiated).mpr ⟨by decide, by decide⟩⟩

/-- The failing input: a window of 4 GiB, and two endpoints with the default
stream counts. -/
theorem metrics_upper_half :
    CountersFit (quietMetrics 4294967295 65535 65535) ∧
    Metrics.getPeerRwndBytes (quietMetrics 4294967295 65535 65535) = -1 ∧
    ¬GettersTrue (metricsHeap (quietMetrics 4294967295 65535 65535)) 0
      (quietMetrics 4294967295 65535 65535) ∧
    configureStreams 65535 65535 sampleOptions = .ok sampleOptions ∧
    Negotiated sampleOptions sampleOptions (quietMetrics 4294967295 65535 65535) ∧
    DcSctpOptions.getAnnouncedMaximumIncomingStreams sampleOptions = 65535 ∧
    Metrics.getNegotiatedMaximumIncomingStreams (quietMetrics 4294967295 65535 65535) = -1 ∧
    ¬NegotiatedAgree sampleOptions sampleOptions (quietMetrics 4294967295 65535 65535) := by
  have negotiated : Negotiated sampleOptions sampleOptions
      (quietMetrics 4294967295 65535 65535) := ⟨by decide, by decide⟩
  refine ⟨quietMetrics_countersFit _ _ _, by decide, ?_, rfl, negotiated, by decide, by decide,
    ?_⟩
  · intro getters
    have numbers := (gettersTrue_iff rfl).mp getters
    have narrow := (get_numbers_iff (quietMetrics_countersFit _ _ _)).mp numbers
    exact absurd narrow.1 (by decide)
  · intro agree
    exact absurd ((negotiatedAgree_iff negotiated).mp agree).1 (by decide)

end Dcsctp4j
