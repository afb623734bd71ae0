import Dcsctp4j.LocalReferences
import Dcsctp4j.Foundation.Selection

/-! # Two log filters in a row

`LogProxy` asks WebRTC for the lines of some severity on, and its logger
publishes the records of some level on. The severity is chosen by trying which
levels the logger publishes.
-/

namespace Dcsctp4j

open NativeFrame NativeFrame.Program

/-! ## The Java side -/

namespace Java

/-- `Level.OFF.intValue()`. -/
def Level.off : Int32 := 2147483647

/-- `java.util.logging.Logger.isLoggable`, by the effective level of the logger. -/
def Logger.isLoggable (levelValue level : Int32) : Bool :=
  !(decide (level < levelValue) || levelValue == Level.off)

def Logger.published (levelValue : Int32) : ApplicationCall → Option LogRecord
  | .log record => if Logger.isLoggable levelValue record.level then some record else none
  | _ => none

def LoggingSeverity.values : List LoggingSeverity :=
  [.lsVerbose, .lsInfo, .lsWarning, .lsError, .lsNone]

def LogProxy.getEffectiveLoggingSeverity (logger : Int32) : LoggingSeverity :=
  Selection.chooseLeast (fun l => Logger.isLoggable logger l.level) LoggingSeverity.level
    .lsNone LoggingSeverity.values

end Java

/-! ## The native side -/

def LoggingSeverityMembers.mapToNative : Java.LoggingSeverity → Native.LoggingSeverity
  | .lsVerbose => .lsVerbose
  | .lsInfo => .lsInfo
  | .lsWarning => .lsWarning
  | .lsError => .lsError
  | .lsNone => .lsNone

def Native.LoggingSeverity.ordinal : Native.LoggingSeverity → Nat
  | .lsVerbose => 0
  | .lsInfo => 1
  | .lsWarning => 2
  | .lsError => 3
  | .lsNone => 4

/-- Both `instance`s, the native one by the minimum severity it was added to
WebRTC's streams with. -/
structure LogState where
  proxy : Bool
  sink : Option Native.LoggingSeverity
  env : JniEnv

namespace LogProxy

def registerNative (minSeverity : Java.LoggingSeverity) :
    Option Native.LoggingSeverity → Except Throwable (Option Native.LoggingSeverity)
  | none => .ok (some (LoggingSeverityMembers.mapToNative minSeverity))
  | some _ => .error ⟨"java.lang.Throwable", "LogProxy registered multiple times"⟩

/-- `LogProxy.register` with the constructor behind it. -/
def register (minSeverity : Java.LoggingSeverity) (state : LogState) :
    Except Throwable LogState :=
  if state.proxy then
    .ok state
  else do
    let sink ← registerNative minSeverity state.sink
    return { state with proxy := true, sink := sink }

/-- WebRTC gives a sink the lines from its minimum severity on. -/
def gets (sink : Option Native.LoggingSeverity) (line : Native.LogLineRef) : Bool :=
  match sink with
  | none => false
  | some minimum => minimum.ordinal ≤ line.severity.ordinal

end LogProxy

inductive LogEvent
  | register
  | logLine (line : Native.LogLineRef)

def LogEvent.run (libraries : Libraries) (setting : JniSetting)
    (minSeverity : Java.LoggingSeverity) (state : LogState) : LogEvent → LogState
  | register =>
      match LogProxy.register minSeverity state with
      | .ok registered => registered
      | .error _ => state
  | logLine line =>
      if LogProxy.gets state.sink line then
        { state with env := ((LogProxy.onLogMessage libraries line).run setting state.env).2 }
      else
        state

def runLog (libraries : Libraries) (setting : JniSetting)
    (minSeverity : Java.LoggingSeverity) (events : List LogEvent) (state : LogState) : LogState :=
  events.foldl (LogEvent.run libraries setting minSeverity) state

/-! ## What a process carries to the logger -/

def logLines : List LogEvent → List Native.LogLineRef
  | [] => []
  | .register :: rest => logLines rest
  | .logLine line :: rest => line :: logLines rest

/-- The lines after the first registration; the ones before it meet no sink. -/
def linesSince : List LogEvent → List Native.LogLineRef
  | [] => []
  | .register :: rest => logLines rest
  | .logLine _ :: rest => linesSince rest

section Runs

variable {libraries : Libraries} {setting : JniSetting} {minSeverity : Java.LoggingSeverity}
  {state : LogState}

theorem runLog_cons (event : LogEvent) (rest : List LogEvent) :
    runLog libraries setting minSeverity (event :: rest) state =
      runLog libraries setting minSeverity rest
        (event.run libraries setting minSeverity state) := rfl

theorem runLog_registered (events : List LogEvent) (proxy : state.proxy = true) :
    (runLog libraries setting minSeverity events state).env.received =
      state.env.received ++ ((logLines events).filter (LogProxy.gets state.sink)).map
        fun line => .log (LogProxy.record libraries line) := by
  induction events generalizing state with
  | nil => exact (List.append_nil _).symm
  | cons event rest induction =>
      rw [runLog_cons]
      cases event with
      | register =>
          have unchanged : LogEvent.run libraries setting minSeverity state .register =
              state := by
            rw [LogEvent.run, LogProxy.register, if_pos proxy]
          rw [unchanged, induction proxy, logLines]
      | logLine line =>
          rw [logLines, List.filter_cons, LogEvent.run]
          split
          · let after : LogState :=
              { state with
                env := ((LogProxy.onLogMessage libraries line).run setting state.env).2 }
            have received : after.env.received = _ :=
              onLogMessage_received libraries line setting state.env
            have later := @induction after proxy
            rw [received, List.append_assoc, List.singleton_append] at later
            exact later
          · exact induction proxy

theorem runLog_unregistered (events : List LogEvent) (proxy : state.proxy = false)
    (sink : state.sink = none) :
    (runLog libraries setting minSeverity events state).env.received =
      state.env.received ++ ((linesSince events).filter
        (LogProxy.gets (some (LoggingSeverityMembers.mapToNative minSeverity)))).map
          fun line => .log (LogProxy.record libraries line) := by
  induction events with
  | nil => exact (List.append_nil _).symm
  | cons event rest induction =>
      rw [runLog_cons]
      cases event with
      | register =>
          have registers : LogEvent.run libraries setting minSeverity state .register =
              { state with
                proxy := true
                sink := some (LoggingSeverityMembers.mapToNative minSeverity) } := by
            rw [LogEvent.run, LogProxy.register, if_neg (by simp [proxy]), sink]
            rfl
          rw [registers, runLog_registered rest rfl, linesSince]
      | logLine line =>
          have unseen : LogEvent.run libraries setting minSeverity state (.logLine line) =
              state := by
            rw [LogEvent.run, sink]
            rfl
          rw [unseen, induction, linesSince]

end Runs

/-! ## The two filters agree -/

def unregistered (env : JniEnv) : LogState where
  proxy := false
  sink := none
  env := env

def publishedBy (libraries : Libraries) (setting : JniSetting) (env : JniEnv)
    (levelValue : Int32) (minSeverity : Java.LoggingSeverity) (events : List LogEvent) :
    List Java.LogRecord :=
  (runLog libraries setting minSeverity events (unregistered env)).env.received.filterMap
    (Java.Logger.published levelValue)

theorem isLoggable_iff (levelValue level : Int32) :
    Java.Logger.isLoggable levelValue level = true ↔
      levelValue ≤ level ∧ levelValue ≠ Java.Level.off := by
  rw [Java.Logger.isLoggable, Bool.not_eq_true', Bool.or_eq_false_iff, decide_eq_false_iff_not,
    beq_eq_false_iff_ne, Int32.not_lt]

theorem isLoggable_upward (levelValue : Int32) (first second : Java.LoggingSeverity)
    (below : first.level ≤ second.level)
    (accepted : Java.Logger.isLoggable levelValue first.level = true) :
    Java.Logger.isLoggable levelValue second.level = true := by
  rw [isLoggable_iff] at accepted ⊢
  exact ⟨Int32.le_trans accepted.1 below, accepted.2⟩

/-- The levels are in the order of WebRTC's severities. -/
theorem gets_eq (severity : Java.LoggingSeverity) (line : Native.LogLineRef) :
    LogProxy.gets (some (LoggingSeverityMembers.mapToNative severity)) line =
      decide (severity.level ≤ (LoggingSeverityMembers.map line.severity).level) := by
  rw [LogProxy.gets]
  cases severity <;> cases line.severity <;> decide

theorem mem_values (severity : Java.LoggingSeverity) :
    severity ∈ Java.LoggingSeverity.values := by
  cases severity <;> decide

theorem map_eq_lsNone {severity : Native.LoggingSeverity}
    (above : Java.LoggingSeverity.lsNone.level ≤ (LoggingSeverityMembers.map severity).level) :
    severity = .lsNone := by
  cases severity with
  | lsNone => rfl
  | _ => exact absurd above (by decide)

section Agreement

variable {libraries : Libraries} {setting : JniSetting} {levelValue : Int32}

theorem published_records (lines : List Native.LogLineRef) :
    (lines.map fun line => ApplicationCall.log (LogProxy.record libraries line)).filterMap
        (Java.Logger.published levelValue) =
      (lines.filter fun line => Java.Logger.isLoggable levelValue
        (LoggingSeverityMembers.map line.severity).level).map (LogProxy.record libraries) := by
  induction lines with
  | nil => rfl
  | cons line rest induction =>
      have level : (LogProxy.record libraries line).level =
          (LoggingSeverityMembers.map line.severity).level := rfl
      rw [List.map_cons, List.filterMap_cons, List.filter_cons, Java.Logger.published, level]
      cases Java.Logger.isLoggable levelValue (LoggingSeverityMembers.map line.severity).level with
      | false => exact induction
      | true => exact congrArg (LogProxy.record libraries line :: ·) induction

theorem publishedBy_eq (env : JniEnv) (minSeverity : Java.LoggingSeverity)
    (events : List LogEvent) :
    publishedBy libraries setting env levelValue minSeverity events =
      env.received.filterMap (Java.Logger.published levelValue) ++
        (((linesSince events).filter (LogProxy.gets
          (some (LoggingSeverityMembers.mapToNative minSeverity)))).filter
            fun line => Java.Logger.isLoggable levelValue
              (LoggingSeverityMembers.map line.severity).level).map
                (LogProxy.record libraries) := by
  rw [publishedBy, runLog_unregistered events rfl rfl, List.filterMap_append, published_records]
  rfl

theorem runLog_sink {minSeverity : Java.LoggingSeverity} (events : List LogEvent)
    (state : LogState)
    (sink : state.sink = none ∨
      state.sink = some (LoggingSeverityMembers.mapToNative minSeverity)) :
    (runLog libraries setting minSeverity events state).sink = none ∨
      (runLog libraries setting minSeverity events state).sink =
        some (LoggingSeverityMembers.mapToNative minSeverity) := by
  induction events generalizing state with
  | nil => exact sink
  | cons event rest induction =>
      rw [runLog_cons]
      apply induction
      cases event with
      | register =>
          rw [LogEvent.run, LogProxy.register]
          cases state.proxy with
          | true => exact sink
          | false =>
              rcases sink with none | some
              · rw [none]
                exact .inr rfl
              · rw [some]
                exact .inr some
      | logLine line =>
          rw [LogEvent.run]
          split
          · exact sink
          · exact sink

theorem runLog_append (minSeverity : Java.LoggingSeverity) (events more : List LogEvent)
    (state : LogState) :
    runLog libraries setting minSeverity (events ++ more) state =
      runLog libraries setting minSeverity more
        (runLog libraries setting minSeverity events state) := List.foldl_append

theorem filter_chosen (levelValue : Int32) (lines : List Native.LogLineRef) :
    (lines.filter (LogProxy.gets (some (LoggingSeverityMembers.mapToNative
        (Java.LogProxy.getEffectiveLoggingSeverity levelValue))))).filter
        (fun line => Java.Logger.isLoggable levelValue
          (LoggingSeverityMembers.map line.severity).level) =
      lines.filter fun line => Java.Logger.isLoggable levelValue
        (LoggingSeverityMembers.map line.severity).level := by
  apply Selection.filter_choice (fun l => Java.Logger.isLoggable levelValue l.level)
    Java.LoggingSeverity.level .lsNone
    (fun line : Native.LogLineRef => LoggingSeverityMembers.map line.severity)
  · exact fun line _ => mem_values _
  · intro line notBelow
    rw [gets_eq]
    exact decide_eq_true notBelow

theorem filter_lsVerbose (lines : List Native.LogLineRef) :
    lines.filter (LogProxy.gets (some (LoggingSeverityMembers.mapToNative .lsVerbose))) =
      lines := by
  apply List.filter_eq_self.mpr
  intro line _
  exact decide_eq_true (Nat.zero_le line.severity.ordinal)

/-- What the chosen severity lets through is loggable, unless it is `lsNone`. -/
theorem isLoggable_of_chosen {line : Native.LogLineRef} (notNone : line.severity ≠ .lsNone)
    (passes : LogProxy.gets (some (LoggingSeverityMembers.mapToNative
      (Java.LogProxy.getEffectiveLoggingSeverity levelValue))) line = true) :
    Java.Logger.isLoggable levelValue (LoggingSeverityMembers.map line.severity).level =
      true := by
  rw [gets_eq, decide_eq_true_eq] at passes
  rcases Selection.accepts_of_choice_le (isLoggable_upward levelValue) passes with
    unchanged | accepted
  · rw [Java.LogProxy.getEffectiveLoggingSeverity, unchanged] at passes
    exact absurd (map_eq_lsNone passes) notNone
  · exact accepted

end Agreement

/-- What is published are the lines since the registration that the logger wants. The
native filter hides none of them, and lets no line through in vain. -/
theorem log_filter_exact (libraries : Libraries) (setting : JniSetting) (env : JniEnv)
    (levelValue : Int32) (events : List LogEvent) :
    let severity := Java.LogProxy.getEffectiveLoggingSeverity levelValue
    let published := publishedBy libraries setting env levelValue
    published severity events =
        env.received.filterMap (Java.Logger.published levelValue) ++
          ((linesSince events).filter fun line => Java.Logger.isLoggable levelValue
            (LoggingSeverityMembers.map line.severity).level).map (LogProxy.record libraries) ∧
      published severity events = published .lsVerbose events ∧
      ∀ line : Native.LogLineRef,
        LogProxy.gets (runLog libraries setting severity events (unregistered env)).sink line =
          true →
        line.severity ≠ .lsNone →
          published severity (events ++ [.logLine line]) =
            published severity events ++ [LogProxy.record libraries line] := by
  intro severity published
  refine ⟨?_, ?_, ?_⟩
  · change publishedBy _ _ _ _ _ _ = _
    rw [publishedBy_eq, filter_chosen]
  · change publishedBy _ _ _ _ _ _ = publishedBy _ _ _ _ _ _
    rw [publishedBy_eq, publishedBy_eq, filter_chosen, filter_lsVerbose]
  · intro line passes notNone
    let before := runLog libraries setting severity events (unregistered env)
    have sink : before.sink = some (LoggingSeverityMembers.mapToNative severity) := by
      rcases runLog_sink events (unregistered env) (.inl rfl) with none | some
      · rw [none] at passes
        cases passes
      · exact some
    have after : (runLog libraries setting severity (events ++ [.logLine line])
        (unregistered env)).env.received =
          before.env.received ++ [.log (LogProxy.record libraries line)] := by
      rw [runLog_append, runLog_cons, LogEvent.run, if_pos passes]
      exact onLogMessage_received libraries line setting before.env
    have loggable := isLoggable_of_chosen notNone (sink ▸ passes)
    change (runLog _ _ _ _ _).env.received.filterMap _ = _
    rw [after, List.filterMap_append]
    have record : Java.Logger.published levelValue (.log (LogProxy.record libraries line)) =
        some (LogProxy.record libraries line) := if_pos loggable
    rw [List.filterMap_cons, record]
    rfl

def errorLine : Native.LogLineRef := { threadLine with severity := .lsError }

theorem log_filter_exact_warning :
    let severity := Java.LogProxy.getEffectiveLoggingSeverity 900
    let events : List LogEvent := [.register, .logLine threadLine, .logLine errorLine]
    publishedBy asciiLibraries compliantSetting emptyEnv 900 severity events =
        [LogProxy.record asciiLibraries errorLine] ∧
      (runLog asciiLibraries compliantSetting severity events
          (unregistered emptyEnv)).env.received =
        [.log (LogProxy.record asciiLibraries errorLine)] :=
  ⟨(log_filter_exact asciiLibraries compliantSetting emptyEnv 900
    [.register, .logLine threadLine, .logLine errorLine]).1, rfl⟩

/-! ## Severities of levels -/

/-- The first severity whose level is not below the given one. -/
def Java.LoggingSeverity.fromLevel (level : Int32) : LoggingSeverity :=
  Selection.chooseLeast (fun l => decide (level ≤ l.level)) LoggingSeverity.level .lsNone
    LoggingSeverity.values

theorem level_le_off (level : Int32) : level ≤ Java.LoggingSeverity.lsNone.level :=
  Int32.le_maxValue level

/-- Trying out what the logger publishes finds the severity of its level, and that
severity stands for the level among all. -/
theorem fromLevel_effective (level : Int32) :
    Java.LogProxy.getEffectiveLoggingSeverity level = Java.LoggingSeverity.fromLevel level ∧
      ∀ severity : Java.LoggingSeverity,
        (Java.LoggingSeverity.fromLevel level).level ≤ severity.level ↔ level ≤ severity.level := by
  constructor
  · apply Selection.chooseLeast_congr
    intro severity below
    rw [Bool.eq_iff_iff, isLoggable_iff, decide_eq_true_eq, and_iff_left_iff_imp]
    intro reached off
    rw [off] at reached
    exact absurd below (Int32.not_lt.mpr reached)
  · intro severity
    rw [Java.LoggingSeverity.fromLevel, Selection.chooseLeast_le_iff _ _ (mem_values severity),
      decide_eq_true_eq]
    · intro first second below accepted
      rw [decide_eq_true_eq] at accepted ⊢
      exact Int32.le_trans accepted below
    · exact decide_eq_true (level_le_off level)

end Dcsctp4j
