import Dcsctp4j.WrapperCalls

/-! # Exceptions and dcsctp's frames

Calls of the socket API nest: an API call enters dcsctp, dcsctp calls a
wrapper, the wrapper calls a Java method, and that method may call the API
again. A tree of calls fixes what dcsctp and the application do at every depth;
running it shows which exceptions cross a frame of dcsctp.
-/

namespace Dcsctp4j

open NativeFrame

/-! ## Trees of calls -/

mutual
/-- A call of the API. It may be refused before dcsctp is entered, by a check
in Java or in the native method. -/
inductive ApiCall where
  | refused (throwable : Throwable)
  | entered (dcsctp : DcsctpRun)

/-- What dcsctp does once entered. At each wrapper it calls, the weak
references resolve or not and the methods of the application have an answer
and a body. -/
inductive DcsctpRun where
  | returns
  | calls (wrapper : WrapperCall) (resolves : WeakTarget → Bool)
      (answers : (call : ApplicationCall) → call.Reply)
      (methods : ApplicationCall → JavaBody) (rest : DcsctpRun)

/-- Application code: it calls the API, sees what each call throws, and at
last returns or throws. -/
inductive JavaBody where
  | ends (thrown : Option Throwable)
  | makes (api : ApiCall) (next : Option Throwable → JavaBody)
end

/-! ## Running a tree -/

/-- The setting of a wrapper that dcsctp calls: a Java method that leaves an
exception pending raises it in the native code that called it. -/
def wrapperSetting (staleUse : StaleUse) (resolves : WeakTarget → Bool)
    (answers : (call : ApplicationCall) → call.Reply)
    (thrown : ApplicationCall → Option Throwable) : JniSetting where
  staleUse := staleUse
  resolves := resolves
  reply _ call :=
    match thrown call with
    | none => .ok (answers call)
    | some throwable => .error throwable

structure WrapperOutcome where
  escaped : Option (Fault Throwable)
  received : List ApplicationCall

def WrapperCall.execute (libraries : Libraries) (setting : JniSetting)
    (wrapper : WrapperCall) : WrapperOutcome :=
  match (wrapper.run libraries).run setting emptyEnv with
  | (.ok _, after) => { escaped := none, received := after.received }
  | (.error fault, after) => { escaped := some fault, received := after.received }

/-- `NATIVE_PROLOG` and `NATIVE_EPILOG` around the native method: the exception
that arrives there becomes the Java exception of the API call. -/
def nativeEpilog : Option (Fault Throwable) → Option Throwable
  | some (.managedException throwable) => some throwable
  | _ => none

inductive Observation
  | wrapper (escaped : Option (Fault Throwable))
  | apiCall (raised : List Throwable) (dcsctpReturned : Bool) (thrown : Option Throwable)

structure JavaOutcome where
  thrown : Option Throwable
  observed : List Observation

/-- `raised` collects the exceptions of the application's methods. -/
structure DcsctpOutcome where
  unwound : Option (Fault Throwable)
  raised : List Throwable
  observed : List Observation

mutual
def ApiCall.run (libraries : Libraries) (staleUse : StaleUse) : ApiCall → JavaOutcome
  | .refused throwable => { thrown := some throwable, observed := [] }
  | .entered dcsctp =>
      let outcome := dcsctp.run libraries staleUse
      { thrown := nativeEpilog outcome.unwound
        observed := outcome.observed ++
          [.apiCall outcome.raised outcome.unwound.isNone
            (nativeEpilog outcome.unwound)] }

/-- An exception that leaves a wrapper unwinds dcsctp: nothing in it catches. -/
def DcsctpRun.run (libraries : Libraries) (staleUse : StaleUse) :
    DcsctpRun → DcsctpOutcome
  | .returns => { unwound := none, raised := [], observed := [] }
  | .calls wrapper resolves answers methods rest =>
      let thrown call := ((methods call).run libraries staleUse).thrown
      let outcome := wrapper.execute libraries
        (wrapperSetting staleUse resolves answers thrown)
      let raised := outcome.received.filterMap thrown
      let observed := (outcome.received.flatMap fun call =>
        ((methods call).run libraries staleUse).observed) ++ [.wrapper outcome.escaped]
      match outcome.escaped with
      | some fault => { unwound := some fault, raised := raised, observed := observed }
      | none =>
          let following := rest.run libraries staleUse
          { unwound := following.unwound
            raised := raised ++ following.raised
            observed := observed ++ following.observed }

def JavaBody.run (libraries : Libraries) (staleUse : StaleUse) : JavaBody → JavaOutcome
  | .ends thrown => { thrown := thrown, observed := [] }
  | .makes api next =>
      let first := api.run libraries staleUse
      let following := (next first.thrown).run libraries staleUse
      { thrown := following.thrown, observed := first.observed ++ following.observed }
end

/-! ## Containment -/

/-- A wrapper returns to dcsctp, and an API call throws what the application's
methods raised only after dcsctp has returned. -/
def Observation.Contained : Observation → Prop
  | .wrapper escaped => escaped = none
  | .apiCall raised dcsctpReturned thrown =>
      dcsctpReturned = true ∧ ∀ throwable ∈ raised, thrown = some throwable

def ApiCall.Contained (libraries : Libraries) (staleUse : StaleUse) (api : ApiCall) : Prop :=
  ∀ observation ∈ (api.run libraries staleUse).observed, observation.Contained

def DcsctpRun.Contained (libraries : Libraries) (staleUse : StaleUse)
    (dcsctp : DcsctpRun) : Prop :=
  ∀ observation ∈ (dcsctp.run libraries staleUse).observed, observation.Contained

def JavaBody.Contained (libraries : Libraries) (staleUse : StaleUse)
    (body : JavaBody) : Prop :=
  ∀ observation ∈ (body.run libraries staleUse).observed, observation.Contained

/-! ## Calm trees

The exception of a refused call is the only one that a calm application sees, so
how its methods end depends on the tree alone. -/

def ApiCall.refusal : ApiCall → Option Throwable
  | .refused throwable => some throwable
  | .entered _ => none

def JavaBody.ending : JavaBody → Option Throwable
  | .ends thrown => thrown
  | .makes api next => (next api.refusal).ending

mutual
def ApiCall.Calm (libraries : Libraries) : ApiCall → Prop
  | .refused _ => True
  | .entered dcsctp => dcsctp.Calm libraries

/-- Every weak reference that a wrapper dereferences resolves and every Java
method that it calls returns normally, here and at every depth. -/
def DcsctpRun.Calm (libraries : Libraries) : DcsctpRun → Prop
  | .returns => True
  | .calls wrapper resolves _ methods rest =>
      (∀ weak ∈ wrapper.weaks, resolves weak = true) ∧
        (∀ call ∈ wrapper.applicationCalls libraries,
          (methods call).ending = none ∧ (methods call).Calm libraries) ∧
        rest.Calm libraries

def JavaBody.Calm (libraries : Libraries) : JavaBody → Prop
  | .ends _ => True
  | .makes api next => api.Calm libraries ∧ (next api.refusal).Calm libraries
end

/-! ## One wrapper -/

section Wrapper

variable {libraries : Libraries} {staleUse : StaleUse} {wrapper : WrapperCall}
  {resolves : WeakTarget → Bool} {answers : (call : ApplicationCall) → call.Reply}
  {thrown : ApplicationCall → Option Throwable}

theorem wrapperSetting_answers (calls : List ApplicationCall) :
    ∀ history, (wrapperSetting staleUse resolves answers thrown).Answers history calls ↔
      ∀ call ∈ calls, thrown call = none := by
  induction calls with
  | nil => intro history; simp [Setting.Answers]
  | cons call rest induction =>
      intro history
      rw [Setting.Answers, induction, List.forall_mem_cons]
      cases raised : thrown call <;> simp [wrapperSetting, raised]

theorem wrapperSetting_willing (weaks : List WeakTarget) (history calls : List ApplicationCall) :
    (wrapperSetting staleUse resolves answers thrown).Willing weaks history calls ↔
      (∀ weak ∈ weaks, resolves weak = true) ∧ ∀ call ∈ calls, thrown call = none := by
  constructor
  · exact fun willing => ⟨willing.resolves, (wrapperSetting_answers _ _).mp willing.answers⟩
  · exact fun both => ⟨both.1, (wrapperSetting_answers _ _).mpr both.2⟩

theorem execute_escaped :
    let outcome := wrapper.execute libraries
      (wrapperSetting staleUse resolves answers thrown)
    (outcome.escaped = none ↔
      (∀ weak ∈ wrapper.weaks, resolves weak = true) ∧
        ∀ call ∈ wrapper.applicationCalls libraries, thrown call = none) ∧
      (outcome.escaped = none → outcome.received = wrapper.applicationCalls libraries) := by
  have contract : Contract [] (wrapper.run libraries) wrapper.weaks
      (wrapper.applicationCalls libraries) := wrapper.run_contract libraries
  have meets := contract (wrapperSetting staleUse resolves answers thrown) emptyEnv (by simp)
  have willing := @wrapperSetting_willing staleUse resolves answers thrown wrapper.weaks []
    (wrapper.applicationCalls libraries)
  have succeeds := meets.succeeds
  have fails := meets.fails
  have fresh : emptyEnv.received = [] := rfl
  rcases ran : (wrapper.run libraries).run (wrapperSetting staleUse resolves answers thrown)
    emptyEnv with ⟨result, after⟩
  simp only [ran, fresh, List.nil_append, willing] at succeeds fails
  simp only [WrapperCall.execute, ran]
  cases result with
  | ok value =>
      by_cases quiet : (∀ weak ∈ wrapper.weaks, resolves weak = true) ∧
          ∀ call ∈ wrapper.applicationCalls libraries, thrown call = none
      · exact ⟨iff_of_true rfl quiet, fun _ => (succeeds quiet).2⟩
      · rcases fails quiet with ⟨throwable, contradictory⟩
        cases contradictory
  | error fault =>
      constructor
      · apply iff_of_false (by simp)
        intro quiet
        rcases (succeeds quiet).1 with ⟨value, contradictory⟩
        cases contradictory
      · intro returned
        cases returned

end Wrapper

/-! ## Calm trees throw what they refuse -/

section Trees

variable {libraries : Libraries} {staleUse : StaleUse}

mutual
theorem ApiCall.thrown_of_calm (api : ApiCall) (calm : api.Calm libraries) :
    (api.run libraries staleUse).thrown = api.refusal := by
  match api with
  | .refused throwable => rfl
  | .entered dcsctp =>
      have returned := dcsctp.returns_of_calm calm
      simp [ApiCall.run, ApiCall.refusal, returned.1, nativeEpilog]

theorem DcsctpRun.returns_of_calm (dcsctp : DcsctpRun) (calm : dcsctp.Calm libraries) :
    (dcsctp.run libraries staleUse).unwound = none ∧
      (dcsctp.run libraries staleUse).raised = [] := by
  match dcsctp with
  | .returns => exact ⟨rfl, rfl⟩
  | .calls wrapper resolves answers methods rest =>
      rcases calm with ⟨resolve, methodsCalm, restCalm⟩
      have quiet : ∀ call ∈ wrapper.applicationCalls libraries,
          ((methods call).run libraries staleUse).thrown = none := by
        intro call member
        rcases methodsCalm call member with ⟨ending, bodyCalm⟩
        rw [(methods call).thrown_of_calm bodyCalm, ending]
      have executed := @execute_escaped libraries staleUse wrapper resolves answers
        fun call => ((methods call).run libraries staleUse).thrown
      have returned := executed.1.mpr ⟨resolve, quiet⟩
      have nothingRaised : (wrapper.applicationCalls libraries).filterMap
          (fun call => ((methods call).run libraries staleUse).thrown) = [] :=
        List.filterMap_eq_nil_iff.mpr quiet
      rcases rest.returns_of_calm restCalm with ⟨restReturns, restQuiet⟩
      simp [DcsctpRun.run, returned, executed.2 returned, nothingRaised, restReturns,
        restQuiet]

theorem JavaBody.thrown_of_calm (body : JavaBody) (calm : body.Calm libraries) :
    (body.run libraries staleUse).thrown = body.ending := by
  match body with
  | .ends thrown => rfl
  | .makes api next =>
      rcases calm with ⟨apiCalm, nextCalm⟩
      rw [JavaBody.run, JavaBody.ending, api.thrown_of_calm apiCalm]
      exact (next api.refusal).thrown_of_calm nextCalm
end

/-! ## Containment is calmness -/

theorem DcsctpRun.contained_calls_iff (wrapper : WrapperCall) (resolves : WeakTarget → Bool)
    (answers : (call : ApplicationCall) → call.Reply) (methods : ApplicationCall → JavaBody)
    (rest : DcsctpRun) :
    (DcsctpRun.calls wrapper resolves answers methods rest).Contained libraries staleUse ↔
      (∀ weak ∈ wrapper.weaks, resolves weak = true) ∧
        (∀ call ∈ wrapper.applicationCalls libraries,
          ((methods call).run libraries staleUse).thrown = none ∧
            (methods call).Contained libraries staleUse) ∧
        rest.Contained libraries staleUse := by
  have executed := @execute_escaped libraries staleUse wrapper resolves answers
    fun call => ((methods call).run libraries staleUse).thrown
  rcases ran : wrapper.execute libraries (wrapperSetting staleUse resolves answers
    fun call => ((methods call).run libraries staleUse).thrown) with ⟨escaped, received⟩
  rw [ran] at executed
  cases escaped with
  | some fault =>
      apply iff_of_false
      · intro contained
        have escapes := contained (.wrapper (some fault)) (by simp [DcsctpRun.run, ran])
        cases escapes
      · intro required
        rcases required with ⟨resolve, methodsContained, -⟩
        have returned := executed.1.mpr
          ⟨resolve, fun call member => (methodsContained call member).1⟩
        cases returned
  | none =>
      rcases executed.1.mp rfl with ⟨resolve, quiet⟩
      have all : received = wrapper.applicationCalls libraries := executed.2 rfl
      simp only [DcsctpRun.Contained, DcsctpRun.run, ran, List.forall_mem_append,
        List.forall_mem_singleton, Observation.Contained, and_true, all,
        List.mem_flatMap]
      constructor
      · intro contained
        rcases contained with ⟨inner, restContained⟩
        exact ⟨resolve, fun call member => ⟨quiet call member, fun observation observed =>
          inner observation ⟨call, member, observed⟩⟩, restContained⟩
      · intro contained
        rcases contained with ⟨-, inner, restContained⟩
        apply And.intro _ restContained
        intro observation observed
        rcases observed with ⟨call, member, observed⟩
        exact (inner call member).2 observation observed

mutual
theorem ApiCall.contained_iff_calm (api : ApiCall) :
    api.Contained libraries staleUse ↔ api.Calm libraries := by
  match api with
  | .refused throwable => simp [ApiCall.Contained, ApiCall.run, ApiCall.Calm]
  | .entered dcsctp =>
      rw [ApiCall.Contained, ApiCall.run, List.forall_mem_append, ApiCall.Calm,
        ← dcsctp.contained_iff_calm]
      refine ⟨And.left, fun contained => ⟨contained, ?_⟩⟩
      have returned : (dcsctp.run libraries staleUse).unwound = none ∧
          (dcsctp.run libraries staleUse).raised = [] :=
        dcsctp.returns_of_calm (dcsctp.contained_iff_calm.mp contained)
      simp [Observation.Contained, returned]

theorem DcsctpRun.contained_iff_calm (dcsctp : DcsctpRun) :
    dcsctp.Contained libraries staleUse ↔ dcsctp.Calm libraries := by
  match dcsctp with
  | .returns => simp [DcsctpRun.Contained, DcsctpRun.run, DcsctpRun.Calm]
  | .calls wrapper resolves answers methods rest =>
      rw [DcsctpRun.contained_calls_iff, DcsctpRun.Calm, rest.contained_iff_calm]
      have bodies : ∀ call, (((methods call).run libraries staleUse).thrown = none ∧
          (methods call).Contained libraries staleUse) ↔
            (methods call).ending = none ∧ (methods call).Calm libraries := by
        intro call
        rw [(methods call).contained_iff_calm]
        exact and_congr_left fun calm => by rw [(methods call).thrown_of_calm calm]
      simp only [bodies]

theorem JavaBody.contained_iff_calm (body : JavaBody) :
    body.Contained libraries staleUse ↔ body.Calm libraries := by
  match body with
  | .ends thrown => simp [JavaBody.Contained, JavaBody.run, JavaBody.Calm]
  | .makes api next =>
      have apiContained := api.contained_iff_calm
      rw [ApiCall.Contained] at apiContained
      rw [JavaBody.Contained, JavaBody.run, List.forall_mem_append, apiContained,
        JavaBody.Calm]
      apply and_congr_right
      intro apiCalm
      rw [api.thrown_of_calm apiCalm]
      exact (next api.refusal).contained_iff_calm
end

end Trees

/-- The wrappers catch nothing, so exceptions stay out of dcsctp's frames
exactly in the trees where nothing fails below a wrapper. -/
theorem exceptions_contained_iff (libraries : Libraries) (staleUse : StaleUse)
    (body : JavaBody) :
    body.Contained libraries staleUse ↔ body.Calm libraries :=
  body.contained_iff_calm

def notHappy : Throwable := ⟨"java.lang.IllegalStateException", "I'm not happy!"⟩

/-- `testExceptionThroughJNI`: `create` makes dcsctp create a timeout, and the
callback throws. -/
def exceptionThroughJNI : JavaBody :=
  .makes
    (.entered (.calls (.createTimeout .kLow) (fun _ => true) compliantReply
      (fun _ => .ends (some notHappy)) .returns))
    .ends

/-- The exception reaches the caller, but through dcsctp's frames. -/
theorem exceptionThroughJNI_unwinds :
    (exceptionThroughJNI.run asciiLibraries .aborts).thrown = some notHappy ∧
      (exceptionThroughJNI.run asciiLibraries .aborts).observed =
        [.wrapper (some (.managedException notHappy)),
          .apiCall [notHappy] false (some notHappy)] ∧
      ¬exceptionThroughJNI.Contained asciiLibraries .aborts := by
  have observed : (exceptionThroughJNI.run asciiLibraries .aborts).observed =
      [.wrapper (some (.managedException notHappy)),
        .apiCall [notHappy] false (some notHappy)] := by rfl
  refine ⟨by rfl, observed, ?_⟩
  intro contained
  have escapes := contained (.wrapper (some (.managedException notHappy)))
    (by rw [observed]; exact List.mem_cons_self)
  cases escapes

end Dcsctp4j
