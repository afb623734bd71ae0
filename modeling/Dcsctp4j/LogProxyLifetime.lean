import Dcsctp4j.LogProxyInvariant

/-! # Logging while a proxy registers

Whatever the threads, the garbage collector and the `Cleaner` do, native code calls no
deleted sink, and the sinks get the lines of the single-threaded log.
-/

namespace Dcsctp4j

open Transition

/-! ## What the sinks get -/

namespace LogProxyEvent

def logEvent : LogProxyEvent → Option LogEvent
  | .registered => some .register
  | .line written _ => some (.logLine written)
  | _ => none

def delivered : LogProxyEvent → List Native.LogLineRef
  | .line written receivers => receivers.map fun _ => written
  | _ => []

end LogProxyEvent

section Runs

variable {minSeverity : Java.LoggingSeverity} {first last : LogWorld}
  {events : List LogProxyEvent}

def linesFrom (world : LogWorld) (events : List LogEvent) : List Native.LogLineRef :=
  match world.streams with
  | [] => linesSince events
  | _ :: _ => logLines events

theorem LogWorld.Sound.receivers_lines {world : LogWorld}
    (sound : world.Sound (LoggingSeverityMembers.mapToNative minSeverity))
    (line : Native.LogLineRef) (rest : List LogEvent) :
    (linesFrom world (.logLine line :: rest)).filter
        (LogProxy.gets (some (LoggingSeverityMembers.mapToNative minSeverity))) =
      ((world.receivers line).map fun _ => line) ++ (linesFrom world rest).filter
        (LogProxy.gets (some (LoggingSeverityMembers.mapToNative minSeverity))) := by
  rcases sound.sink with ⟨-, -, streams⟩ | ⟨object, natives, -, streams | streams⟩
  · simp [linesFrom, linesSince, LogWorld.receivers, streams]
  · simp [linesFrom, linesSince, LogWorld.receivers, streams]
  · simp only [linesFrom, logLines, LogWorld.receivers, streams, natives, List.filter_cons,
      List.filter_nil, List.getElem?_cons_zero, Option.map_some]
    split <;> rfl

theorem LogProxyStep.delivered {event : LogProxyEvent}
    (step : LogProxyStep minSeverity first event last)
    (sound : first.Sound (LoggingSeverityMembers.mapToNative minSeverity))
    (rest : List LogEvent) :
    (linesFrom first (event.logEvent.toList ++ rest)).filter
        (LogProxy.gets (some (LoggingSeverityMembers.mapToNative minSeverity))) =
      event.delivered ++ (linesFrom last rest).filter
        (LogProxy.gets (some (LoggingSeverityMembers.mapToNative minSeverity))) := by
  cases step with
  | @addLogToStream thread object ptr others top =>
      have assigned : first.FrameSound (.constructor object (.assigned ptr)) :=
        sound.frames thread _ (top ▸ List.mem_cons_self)
      have before : linesFrom first (.register :: rest) = logLines rest := by
        simp only [linesFrom, assigned.2]
        rfl
      have after : linesFrom ((first.addLogToStream ptr).setStack thread
          (.constructor object (.native ptr) :: others)) rest = logLines rest := by
        simp only [linesFrom, LogWorld.setStack, LogWorld.addLogToStream, assigned.2]
        rfl
      exact congrArg _ (before.trans after.symm)
  | logLine => exact sound.receivers_lines _ rest
  | @destructReturns thread ptr others top =>
      have never : first.FrameSound (.destruct ptr) :=
        sound.frames thread _ (top ▸ List.mem_cons_self)
      exact False.elim never
  | _ => rfl

theorem delivered_run (run : (logProxies minSeverity).Run first events last)
    (sound : first.Sound (LoggingSeverityMembers.mapToNative minSeverity)) :
    events.flatMap LogProxyEvent.delivered =
      (linesFrom first (events.filterMap LogProxyEvent.logEvent)).filter
        (LogProxy.gets (some (LoggingSeverityMembers.mapToNative minSeverity))) := by
  induction run with
  | nil world =>
      rw [linesFrom]
      split <;> rfl
  | @cons first middle last event events step rest induction =>
      have split : (event :: events).filterMap LogProxyEvent.logEvent =
          event.logEvent.toList ++ events.filterMap LogProxyEvent.logEvent := by
        rw [List.filterMap_cons]
        cases event.logEvent <;> rfl
      rw [List.flatMap_cons, induction (LogProxyStep.sound step sound), split]
      exact (LogProxyStep.delivered step.1 sound _).symm

/-- As long as registrations do not overlap, the Java objects of all sinks stay reachable,
so the `Cleaner` deletes none; there is one sink at most, and `OnLogMessage` runs only on
one that is not deleted. -/
theorem logProxy_safe
    (initial : (logProxies minSeverity).initial first)
    (run : (logProxies minSeverity).Run first events last) :
    (∀ ptr, .destruct ptr ∉ events) ∧ last.natives.length ≤ 1 ∧ last.streams.length ≤ 1 ∧
      ∀ ptr, (ptr ∈ last.streams ∨
          ∃ thread line, .onLogMessage ptr line ∈ last.stack thread) →
        ∃ native, last.natives[ptr]? = some native ∧ native.deleted = false ∧
          last.Reachable native.logProxy := by
  have recorded := run.recorded
    (fun world history => world.Sound (LoggingSeverityMembers.mapToNative minSeverity) ∧
      ∀ ptr, .destruct ptr ∉ history)
    (fun _ _ _ _ step before => ⟨LogProxyStep.sound step before.1, fun ptr member => by
      rcases List.mem_cons.mp member with now | earlier
      · exact LogProxyStep.not_destruct step.1 before.1 ptr now.symm
      · exact before.2 ptr earlier⟩)
    ⟨LogWorld.Initial.sound initial _, fun _ => List.not_mem_nil⟩
  rcases recorded with ⟨sound, undeleted⟩
  have one : last.natives.length ≤ 1 ∧ last.streams.length ≤ 1 := by
    rcases sound.sink with ⟨natives, -, streams⟩ | ⟨_, natives, -, streams | streams⟩ <;>
      simp [natives, streams]
  refine ⟨fun ptr member => undeleted ptr (by simpa using member), one.1, one.2,
    fun ptr used => ?_⟩
  have inStreams : ptr ∈ last.streams := by
    rcases used with member | ⟨thread, line, running⟩
    · exact member
    · exact sound.frames thread _ running
  rcases sound.sink with ⟨-, -, streams⟩ | ⟨object, natives, -, streams | streams⟩
  · rw [streams] at inStreams
    cases inStreams
  · rw [streams] at inStreams
    cases inStreams
  · rw [streams, List.mem_singleton] at inStreams
    subst inStreams
    refine ⟨_, by rw [natives]; rfl, rfl, .inr (.inr ⟨_, ?_, rfl, rfl⟩)⟩
    rw [natives]
    exact List.mem_singleton_self _

/-- The atomic registration of the log filter tells the truth: whatever the threads do
in between, the same lines reach the logger in the same order. -/
theorem logProxy_delivers (libraries : Libraries) (setting : JniSetting) (env : JniEnv)
    (initial : (logProxies minSeverity).initial first)
    (run : (logProxies minSeverity).Run first events last) :
    (runLog libraries setting minSeverity (events.filterMap LogProxyEvent.logEvent)
        (unregistered env)).env.received =
      env.received ++ (events.flatMap LogProxyEvent.delivered).map
        fun line => .log (LogProxy.record libraries line) := by
  have start : ∀ rest, linesFrom first rest = linesSince rest := by
    intro rest
    rw [linesFrom, LogWorld.Initial.streams initial]
  rw [delivered_run run (LogWorld.Initial.sound initial _), start,
    runLog_unregistered _ rfl rfl]
  rfl

end Runs

/-! ## Threads that log and register -/

def noProxies : LogWorld where
  proxies := 0
  natives := []
  javaInstance := none
  nativeInstance := none
  streams := []
  stack _ := []
  cleaner := []

theorem noProxies_initial : noProxies.Initial := by
  constructor <;> intros <;> rfl

/-- One thread logs before and after the other has added the sink. -/
theorem logging_run : ∃ events last,
    (logProxies .lsInfo).Run noProxies events last ∧
      events = [.register, .other, .other, .line threadLine [], .registered,
        .line threadLine [0], .other, .other] :=
  ⟨_, _,
    .cons ⟨@LogProxyStep.new _ _ 0 rfl, fun _ _ => rfl⟩
    (.cons ⟨@LogProxyStep.check _ _ 0 0 [] rfl rfl, nofun⟩
    (.cons ⟨@LogProxyStep.assign _ _ 0 0 [] rfl, nofun⟩
    (.cons ⟨@LogProxyStep.logLine _ _ 1 threadLine, nofun⟩
    (.cons ⟨@LogProxyStep.addLogToStream _ _ 0 0 0 [] rfl, nofun⟩
    (.cons ⟨@LogProxyStep.logLine _ _ 1 threadLine, nofun⟩
    (.cons ⟨@LogProxyStep.registerCleaner _ _ 0 0 0 [] rfl, nofun⟩
    (.cons ⟨@LogProxyStep.store _ _ 0 0 [] rfl, nofun⟩
    (.nil _)))))))), rfl⟩

theorem logProxy_safe_logging : ∃ events last,
    (logProxies .lsInfo).Run noProxies events last ∧ .line threadLine [0] ∈ events ∧
      (∀ ptr, .destruct ptr ∉ events) ∧ last.natives.length ≤ 1 ∧ last.streams.length ≤ 1 ∧
        ∀ ptr, (ptr ∈ last.streams ∨
            ∃ thread line, .onLogMessage ptr line ∈ last.stack thread) →
          ∃ native, last.natives[ptr]? = some native ∧ native.deleted = false ∧
            last.Reachable native.logProxy := by
  rcases logging_run with ⟨events, last, run, same⟩
  exact ⟨events, last, run, by simp [same], logProxy_safe noProxies_initial run⟩

theorem logProxy_delivers_logging :
    (runLog asciiLibraries compliantSetting .lsInfo
        [.logLine threadLine, .register, .logLine threadLine]
        (unregistered emptyEnv)).env.received =
      [.log (LogProxy.record asciiLibraries threadLine)] := by
  rcases logging_run with ⟨events, last, run, same⟩
  have delivers := logProxy_delivers asciiLibraries compliantSetting emptyEnv noProxies_initial run
  rw [same] at delivers
  exact delivers

/-- Where registrations overlap, both pass the check and each line is delivered twice. -/
theorem overlapping_registrations : ∃ events last,
    (unlockedLogProxies .lsInfo).Run noProxies events last ∧ last.streams = [0, 1] ∧
      .line threadLine [0, 1] ∈ events := by
  refine ⟨_, _,
    .cons (@LogProxyStep.new _ _ 0 rfl)
    (.cons (@LogProxyStep.new _ _ 1 rfl)
    (.cons (@LogProxyStep.check _ _ 0 0 [] rfl rfl)
    (.cons (@LogProxyStep.check _ _ 1 1 [] rfl rfl)
    (.cons (@LogProxyStep.assign _ _ 0 0 [] rfl)
    (.cons (@LogProxyStep.assign _ _ 1 1 [] rfl)
    (.cons (@LogProxyStep.addLogToStream _ _ 0 0 0 [] rfl)
    (.cons (@LogProxyStep.addLogToStream _ _ 1 1 1 [] rfl)
    (.cons (@LogProxyStep.logLine _ _ 2 threadLine)
    (.nil _))))))))), rfl, ?_⟩
  exact List.mem_of_mem_getLast? rfl

end Dcsctp4j
