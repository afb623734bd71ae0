import Dcsctp4j.LogProxy
import Dcsctp4j.Foundation.MachineNumbers

/-! # Time across the bridge

The application's clock reaches dcsctp in microseconds, and the times of
dcsctp's log lines go back to Java as instants.
-/

namespace Dcsctp4j

open MachineNumbers
open WrappedSocketCallbacks (toTimestamp)
open Java (Instant)

/-! ## Exact time -/

namespace Java.Instant

/-- What `java.time` promises of every instant. -/
def Normal (instant : Instant) : Prop :=
  0 ≤ instant.nano.toInt ∧ instant.nano.toInt < 1000000000

def nanoseconds (instant : Instant) : Int :=
  instant.epochSecond.toInt * 1000000000 + instant.nano.toInt

def microseconds (instant : Instant) : Int := instant.nanoseconds / 1000

def wholeMicrosecond (instant : Instant) : Instant where
  epochSecond := instant.epochSecond
  nano := instant.nano / 1000 * 1000

theorem microseconds_eq (instant : Instant) :
    instant.microseconds =
      instant.epochSecond.toInt * 1000000 + instant.nano.toInt / 1000 := by
  rw [microseconds, nanoseconds]
  omega

theorem Normal.eq_of_nanoseconds {first second : Instant} (firstNormal : first.Normal)
    (secondNormal : second.Normal) (same : first.nanoseconds = second.nanoseconds) :
    first = second := by
  rcases first with ⟨firstSecond, firstNano⟩
  rcases second with ⟨secondSecond, secondNano⟩
  simp only [Normal, nanoseconds] at firstNormal secondNormal same
  have seconds : firstSecond.toInt = secondSecond.toInt := by omega
  have nanos : firstNano.toInt = secondNano.toInt := by omega
  rw [Int64.toInt_inj.mp seconds, Int32.toInt_inj.mp nanos]

theorem Normal.toInt_div {instant : Instant} (normal : instant.Normal) :
    (instant.nano / 1000).toInt = instant.nano.toInt / 1000 := by
  rw [Int32.toInt_div_of_ne_right _ _ (by decide)]
  exact Int.tdiv_eq_ediv_of_nonneg normal.1

theorem Normal.toInt_whole {instant : Instant} (normal : instant.Normal) :
    instant.wholeMicrosecond.nano.toInt = instant.nano.toInt / 1000 * 1000 := by
  rcases normal with ⟨nonnegative, bounded⟩
  have thousand : (1000 : Int32).toInt = 1000 := by decide
  rw [wholeMicrosecond, Int32.toInt_mul, Normal.toInt_div ⟨nonnegative, bounded⟩, thousand]
  exact Int.bmod_eq_of_le (by omega) (by omega)

theorem Normal.wholeMicrosecond {instant : Instant} (normal : instant.Normal) :
    instant.wholeMicrosecond.Normal ∧
      instant.wholeMicrosecond.nanoseconds = instant.microseconds * 1000 := by
  have whole := normal.toInt_whole
  rcases normal with ⟨nonnegative, bounded⟩
  refine ⟨⟨by omega, by omega⟩, ?_⟩
  rw [nanoseconds, whole, microseconds_eq]
  simp only [Instant.wholeMicrosecond]
  omega

end Java.Instant

/-! ## To dcsctp -/

/-- The native sum wraps at 64 bits, whatever wraps on the way. -/
theorem toInt_toTimestamp {instant : Instant} (normal : instant.Normal) :
    (toTimestamp instant).toInt = instant.microseconds.bmod (2 ^ 64) := by
  rw [toTimestamp, Int64.toInt_add, Int64.toInt_mul, Int32.toInt_toInt64, normal.toInt_div,
    Int.bmod_add_bmod, Instant.microseconds_eq]
  rfl

/-- dcsctp's clock shows the application's last whole microsecond exactly as long
as 64 bits hold it. -/
theorem toTimestamp_exact_iff {instant : Instant} (normal : instant.Normal) :
    (toTimestamp instant).toInt = instant.microseconds ↔
      instant.microseconds ∈ signedRange 64 := by
  rw [toInt_toTimestamp normal]
  exact bmod_eq_self_iff (by decide) _

-- the first microsecond past the range turns into the native minus infinity
example : toTimestamp ⟨9223372036854, 775808000⟩ = Int64.minValue := by decide

/-! ## Back to Java -/

theorem instant_exact {timestampUs : Int64} (finite : timestampUs ≠ Int64.minValue) :
    ∃ instant, Java.LogProxy.instant timestampUs = some instant ∧ instant.Normal ∧
      instant.nanoseconds = timestampUs.toInt * 1000 := by
  have lower := timestampUs.le_toInt
  have upper := timestampUs.toInt_lt
  have seconds : (Int64.ofInt (timestampUs.toInt.fdiv 1000000)).toInt =
      timestampUs.toInt / 1000000 := by
    rw [Int.fdiv_eq_ediv_of_nonneg _ (by decide)]
    exact Int64.toInt_ofInt_of_le (by omega) (by omega)
  have nanos : (Int32.ofInt (timestampUs.toInt.fmod 1000000 * 1000)).toInt =
      timestampUs.toInt % 1000000 * 1000 := by
    rw [Int.fmod_eq_emod_of_nonneg _ (by decide)]
    exact Int32.toInt_ofInt_of_le (by omega) (by omega)
  refine ⟨_, if_pos finite, ?_, ?_⟩
  · rw [Instant.Normal, nanos]
    omega
  · rw [Instant.nanoseconds, seconds, nanos]
    omega

theorem toTimestamp_instant {timestampUs : Int64} (finite : timestampUs ≠ Int64.minValue)
    {instant : Instant} (shown : Java.LogProxy.instant timestampUs = some instant) :
    toTimestamp instant = timestampUs := by
  rcases instant_exact finite with ⟨exact, exactShown, normal, nanoseconds⟩
  rw [shown] at exactShown
  cases exactShown
  have whole : instant.microseconds = timestampUs.toInt := by
    rw [Instant.microseconds, nanoseconds]
    omega
  have inRange : instant.microseconds ∈ signedRange 64 := by
    have lower := timestampUs.le_toInt
    have upper := timestampUs.toInt_lt
    rw [whole]
    exact ⟨by omega, by omega⟩
  apply Int64.toInt_inj.mp
  rw [(toTimestamp_exact_iff normal).mpr inRange, whole]

/-! ## A clock and the log -/

/-- What `webrtc::Timestamp` holds as a finite time. -/
def FiniteMicros (micros : Int) : Prop := -2 ^ 63 < micros ∧ micros < 2 ^ 63 - 1

theorem isFinite_iff (timestamp : Native.Timestamp) :
    timestamp.isFinite = true ↔ FiniteMicros timestamp.us.toInt := by
  have lower := timestamp.us.le_toInt
  have upper := timestamp.us.toInt_lt
  have least : Int64.minValue.toInt = -2 ^ 63 := by decide
  have greatest : Int64.maxValue.toInt = 2 ^ 63 - 1 := by decide
  rw [Native.Timestamp.isFinite, decide_eq_true_eq, ne_eq, ne_eq, ← Int64.toInt_inj,
    ← Int64.toInt_inj, least, greatest, FiniteMicros]
  omega

section Readings

variable {reading : Instant}

theorem toTimestamp_exact (normal : reading.Normal)
    (finite : FiniteMicros reading.microseconds) :
    (toTimestamp reading).toInt = reading.microseconds := by
  rcases finite with ⟨lower, upper⟩
  exact (toTimestamp_exact_iff normal).mpr ⟨by omega, by omega⟩

/-- A line that dcsctp stamps with its clock appears in the Java log at the time
the application's clock showed, less the nanoseconds. -/
theorem instant_toTimestamp (normal : reading.Normal)
    (finite : FiniteMicros reading.microseconds) :
    Java.LogProxy.instant (LogProxy.timestampUs ⟨toTimestamp reading⟩) =
      some reading.wholeMicrosecond := by
  have exact := toTimestamp_exact normal finite
  have isFinite : Native.Timestamp.isFinite ⟨toTimestamp reading⟩ = true := by
    rw [isFinite_iff, exact]
    exact finite
  rcases instant_exact (of_decide_eq_true isFinite).1 with
    ⟨shown, shownIs, shownNormal, nanoseconds⟩
  rcases normal.wholeMicrosecond with ⟨wholeNormal, whole⟩
  rw [LogProxy.timestampUs, if_pos isFinite, shownIs]
  apply congrArg some
  apply shownNormal.eq_of_nanoseconds wholeNormal
  rw [nanoseconds, whole, exact]

end Readings

/-- dcsctp's clock runs like the application's: in its order, exact to the
microsecond, and the same again in the log. -/
theorem clock_relayed (libraries : Libraries) (setting : JniSetting) (readings : List Instant)
    (normal : ∀ reading ∈ readings, reading.Normal)
    (finite : ∀ reading ∈ readings, FiniteMicros reading.microseconds)
    (ordered : readings.Pairwise fun earlier later =>
      earlier.nanoseconds ≤ later.nanoseconds) :
    (readings.map toTimestamp).Pairwise (· ≤ ·) ∧
      (readings.map fun reading => (toTimestamp reading).toInt) =
        readings.map Instant.microseconds ∧
      ∀ reading ∈ readings, ∀ (line : Native.LogLineRef) (env : JniEnv),
        line.timestamp = ⟨toTimestamp reading⟩ →
          ∃ record, ((LogProxy.onLogMessage libraries line).run setting env).2.received =
              env.received ++ [.log record] ∧
            record.instant = some reading.wholeMicrosecond := by
  refine ⟨?_, ?_, ?_⟩
  · rw [List.pairwise_map]
    refine ordered.imp_of_mem ?_
    intro earlier later earlierMember laterMember order
    rw [Int64.le_iff_toInt_le,
      toTimestamp_exact (normal _ earlierMember) (finite _ earlierMember),
      toTimestamp_exact (normal _ laterMember) (finite _ laterMember)]
    exact Int.ediv_le_ediv (by decide) order
  · apply List.map_congr_left
    intro reading member
    exact toTimestamp_exact (normal _ member) (finite _ member)
  · intro reading member line env stamped
    refine ⟨_, onLogMessage_received libraries line setting env, ?_⟩
    rw [LogProxy.record, stamped]
    exact instant_toTimestamp (normal _ member) (finite _ member)

def twoReadings : List Instant := [⟨-1, 999999999⟩, ⟨5, 2999⟩]

def stampedLine (reading : Instant) : Native.LogLineRef where
  message := some [104, 105]
  filename := none
  line := 0
  threadId := none
  timestamp := ⟨toTimestamp reading⟩
  severity := .lsInfo

theorem clock_relayed_twoReadings :
    (twoReadings.map toTimestamp).Pairwise (· ≤ ·) ∧
      (twoReadings.map fun reading => (toTimestamp reading).toInt) = [-1, 5000002] ∧
      ∃ record, ((LogProxy.onLogMessage asciiLibraries (stampedLine ⟨5, 2999⟩)).run
          compliantSetting emptyEnv).2.received = [] ++ [.log record] ∧
        record.instant = some ⟨5, 2000⟩ := by
  have relayed := clock_relayed asciiLibraries compliantSetting twoReadings ?_ ?_ ?_
  · rcases relayed with ⟨ordered, exact, logged⟩
    exact ⟨ordered, exact, logged ⟨5, 2999⟩ (by decide) (stampedLine ⟨5, 2999⟩) emptyEnv rfl⟩
  · intro reading member
    rcases List.mem_pair.mp member with equal | equal <;> subst equal <;> constructor <;> decide
  · intro reading member
    rcases List.mem_pair.mp member with equal | equal <;> subst equal <;> constructor <;> decide
  · exact List.pairwise_pair.mpr (by decide)

end Dcsctp4j
