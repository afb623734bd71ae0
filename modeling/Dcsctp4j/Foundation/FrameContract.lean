import Dcsctp4j.Foundation.NativeFrame

/-! # Contracts of native programs

A contract says, of a program that may use the references in `held`, which weak
references it dereferences and which managed methods it calls when nothing
fails. It also says that the program leaves its frame as it found it, on every
path, and that it fails exactly when a weak reference is cleared or a method
raises an exception.
-/

namespace Dcsctp4j.NativeFrame

variable {Weak Call Throwable : Type} {Reply : Call → Type} {α β : Type}

/-! ## Settings that answer -/

/-- Every call of the list, made in order after `history`, returns normally. -/
def Setting.Answers (setting : Setting Weak Call Throwable Reply) :
    List Call → List Call → Prop
  | _, [] => True
  | history, method :: rest =>
      (∃ value, setting.reply history method = .ok value) ∧
        setting.Answers (history ++ [method]) rest

theorem Setting.answers_append (setting : Setting Weak Call Throwable Reply)
    (first second : List Call) : ∀ history : List Call,
    setting.Answers history (first ++ second) ↔
      setting.Answers history first ∧ setting.Answers (history ++ first) second := by
  induction first with
  | nil => intro history; simp [Setting.Answers]
  | cons method rest induction =>
      intro history
      simp [Setting.Answers, induction, and_assoc]

structure Setting.Willing (setting : Setting Weak Call Throwable Reply)
    (weaks : List Weak) (history calls : List Call) : Prop where
  resolves : ∀ weak ∈ weaks, setting.resolves weak = true
  answers : setting.Answers history calls

theorem Setting.willing_append (setting : Setting Weak Call Throwable Reply)
    (firstWeaks secondWeaks : List Weak) (history first second : List Call) :
    setting.Willing (firstWeaks ++ secondWeaks) history (first ++ second) ↔
      setting.Willing firstWeaks history first ∧
        setting.Willing secondWeaks (history ++ first) second := by
  constructor
  · intro both
    rcases both with ⟨resolves, answers⟩
    have parts := (setting.answers_append first second history).mp answers
    exact ⟨⟨fun weak member => resolves weak (List.mem_append_left _ member), parts.1⟩,
      ⟨fun weak member => resolves weak (List.mem_append_right _ member), parts.2⟩⟩
  · intro contracts
    rcases contracts with ⟨⟨firstResolves, firstAnswers⟩, ⟨secondResolves, secondAnswers⟩⟩
    refine ⟨fun weak member => ?_,
      (setting.answers_append first second history).mpr ⟨firstAnswers, secondAnswers⟩⟩
    rcases List.mem_append.mp member with member | member
    · exact firstResolves weak member
    · exact secondResolves weak member

theorem Setting.answers_of_forall (setting : Setting Weak Call Throwable Reply)
    (returns : ∀ history method, ∃ value, setting.reply history method = .ok value)
    (calls history : List Call) : setting.Answers history calls := by
  induction calls generalizing history with
  | nil => trivial
  | cons method rest induction => exact ⟨returns history method, induction _⟩

/-! ## Programs that compute a value -/

/-- With the references in `held` live, the program calls nothing, cannot fail
and leaves behind no reference of its own. -/
def Returns (held : List Nat) (program : Program Weak Call Throwable Reply α)
    (value : α) : Prop :=
  ∀ (setting : Setting Weak Call Throwable Reply) (env : Env Call),
    (∀ handle ∈ held, handle ∈ env.table.live) →
      ∃ table, table.live = env.table.live ∧
        program.run setting env = (.ok value, { env with table })

namespace Returns

variable {held : List Nat} {program : Program Weak Call Throwable Reply α} {value : α}

theorem pure (value : α) :
    Returns held (Pure.pure value : Program Weak Call Throwable Reply α) value :=
  fun _ env _ => ⟨env.table, rfl, rfl⟩

theorem bind {next : α → Program Weak Call Throwable Reply β} {result : β}
    (first : Returns held program value) (second : Returns held (next value) result) :
    Returns held (program >>= next) result := by
  intro setting env heldLive
  rcases first setting env heldLive with ⟨middle, middleLive, ran⟩
  rcases second setting { env with table := middle }
    (by simpa [middleLive] using heldLive) with ⟨table, live, nextRan⟩
  refine ⟨table, by rw [live]; exact middleLive, ?_⟩
  rw [Program.run_bind_ok ran next, nextRan]

theorem useRef {ref : LocalRef α} (owned : ref.handle ∈ held) :
    Returns held (Program.useRef ref : Program Weak Call Throwable Reply α) ref.object := by
  intro setting env heldLive
  exact ⟨env.table, rfl, by simp [Program.useRef, heldLive _ owned]⟩

theorem withLocal (object : β)
    {body : LocalRef β → Program Weak Call Throwable Reply α}
    (inner : ∀ handle, Returns (handle :: held) (body ⟨handle, object⟩) value) :
    Returns held (Program.withLocal object body) value := by
  intro setting env heldLive
  rcases inner env.table.next setting { env with table := env.table.acquire }
    (RefTable.acquire_holds heldLive) with ⟨table, live, ran⟩
  refine ⟨table.release env.table.next, by simp [live], ?_⟩
  change (Program.owning ⟨env.table.next, object⟩ (body ⟨env.table.next, object⟩)).run
    setting { env with table := env.table.acquire } = _
  simp only [Program.owning, ran]

theorem guarded {cleanup : Program Weak Call Throwable Reply Unit}
    (body : Returns held program value) (last : Returns held cleanup ()) :
    Returns held (Program.guarded program cleanup) value := by
  intro setting env heldLive
  rcases body setting env heldLive with ⟨middle, middleLive, ran⟩
  rcases last setting { env with table := middle }
    (by simpa [middleLive] using heldLive) with ⟨table, live, lastRan⟩
  refine ⟨table, by rw [live]; exact middleLive, ?_⟩
  simp only [Program.guarded, ran, lastRan]

end Returns

/-! ## The contract -/

/-- What an execution of `program` from `env` does to the frame, and when it
succeeds. -/
structure Meets (program : Program Weak Call Throwable Reply α)
    (weaks : List Weak) (calls : List Call)
    (setting : Setting Weak Call Throwable Reply) (env : Env Call) : Prop where
  live : (program.run setting env).2.table.live = env.table.live
  staleUses : (program.run setting env).2.staleUses = env.staleUses
  succeeds : setting.Willing weaks env.received calls →
    (∃ value, (program.run setting env).1 = .ok value) ∧
      (program.run setting env).2.received = env.received ++ calls
  fails : ¬setting.Willing weaks env.received calls →
    ∃ throwable, (program.run setting env).1 = .error (.managedException throwable)

def Contract (held : List Nat) (program : Program Weak Call Throwable Reply α)
    (weaks : List Weak) (calls : List Call) : Prop :=
  ∀ (setting : Setting Weak Call Throwable Reply) (env : Env Call),
    (∀ handle ∈ held, handle ∈ env.table.live) → Meets program weaks calls setting env

namespace Contract

variable {held : List Nat} {program : Program Weak Call Throwable Reply α}
  {weaks : List Weak} {calls : List Call}

theorem pure (value : α) :
    Contract held (Pure.pure value : Program Weak Call Throwable Reply α) [] [] := by
  intro setting env heldLive
  exact
    { live := rfl
      staleUses := rfl
      succeeds := fun _ => ⟨⟨value, rfl⟩, (List.append_nil _).symm⟩
      fails := fun unwilling => absurd ⟨by simp, trivial⟩ unwilling }

theorem bind {next : α → Program Weak Call Throwable Reply β}
    {nextWeaks : List Weak} {nextCalls : List Call}
    (first : Contract held program weaks calls)
    (second : ∀ value, Contract held (next value) nextWeaks nextCalls) :
    Contract held (program >>= next) (weaks ++ nextWeaks) (calls ++ nextCalls) := by
  intro setting env heldLive
  have firstMeets := first setting env heldLive
  have split := setting.willing_append weaks nextWeaks env.received calls nextCalls
  rcases ran : program.run setting env with ⟨result, middle⟩
  have middleLive : middle.table.live = env.table.live := by
    simpa [ran] using firstMeets.live
  have middleStale : middle.staleUses = env.staleUses := by
    simpa [ran] using firstMeets.staleUses
  cases result with
  | error fault =>
      have runs := Program.run_bind_error ran next
      have unwilling : ¬setting.Willing weaks env.received calls := by
        intro willing
        rcases (firstMeets.succeeds willing).1 with ⟨value, equal⟩
        simp [ran] at equal
      rcases firstMeets.fails unwilling with ⟨throwable, equal⟩
      exact
        { live := by rw [runs]; exact middleLive
          staleUses := by rw [runs]; exact middleStale
          succeeds := fun willing => absurd (split.mp willing).1 unwilling
          fails := fun _ => ⟨throwable, by rw [runs]; simpa [ran] using equal⟩ }
  | ok value =>
      have runs := Program.run_bind_ok ran next
      have nextMeets := second value setting middle (by simpa [middleLive] using heldLive)
      have willing : setting.Willing weaks env.received calls := by
        by_contra unwilling
        rcases firstMeets.fails unwilling with ⟨throwable, equal⟩
        simp [ran] at equal
      have middleReceived : middle.received = env.received ++ calls := by
        simpa [ran] using (firstMeets.succeeds willing).2
      refine
        { live := by rw [runs, nextMeets.live, middleLive]
          staleUses := by rw [runs, nextMeets.staleUses, middleStale]
          succeeds := fun both => ?_
          fails := fun unwilling => ?_ }
      · have nextWilling := (split.mp both).2
        rw [← middleReceived] at nextWilling
        rw [runs]
        rcases nextMeets.succeeds nextWilling with ⟨succeeds, received⟩
        exact ⟨succeeds, by rw [received, middleReceived, List.append_assoc]⟩
      · rw [runs]
        apply nextMeets.fails
        intro nextWilling
        rw [middleReceived] at nextWilling
        exact unwilling (split.mpr ⟨willing, nextWilling⟩)

/-- A first step that neither dereferences nor calls leaves the contract of the
rest as it is. -/
theorem afterSilent {next : α → Program Weak Call Throwable Reply β}
    (first : Contract held program [] [])
    (second : ∀ value, Contract held (next value) weaks calls) :
    Contract held (program >>= next) weaks calls :=
  bind first second

theorem map (contract : Contract held program weaks calls) (result : α → β) :
    Contract held (program >>= fun value => Pure.pure (result value)) weaks calls := by
  simpa using bind contract fun value => pure (result value)

theorem useRef {ref : LocalRef α} (owned : ref.handle ∈ held) :
    Contract held (Program.useRef ref : Program Weak Call Throwable Reply α) [] [] := by
  intro setting env heldLive
  have runs : (Program.useRef ref : Program Weak Call Throwable Reply α).run setting env =
      (.ok ref.object, env) := by
    simp [Program.useRef, heldLive _ owned]
  exact
    { live := by rw [runs]
      staleUses := by rw [runs]
      succeeds := fun _ => ⟨⟨ref.object, by rw [runs]⟩, by rw [runs]; simp⟩
      fails := fun unwilling => absurd ⟨by simp, trivial⟩ unwilling }

theorem call (method : Call) :
    Contract held (Program.call method : Program Weak Call Throwable Reply _)
      [] [method] := by
  intro setting env heldLive
  cases answer : setting.reply env.received method with
  | ok value =>
      have runs : (Program.call method).run setting env =
          (.ok value, { env with received := env.received ++ [method] }) := by
        simp [Program.call, answer]
      exact
        { live := by rw [runs]
          staleUses := by rw [runs]
          succeeds := fun _ => ⟨⟨value, by rw [runs]⟩, by rw [runs]⟩
          fails := fun unwilling =>
            absurd ⟨by simp, ⟨value, answer⟩, trivial⟩ unwilling }
  | error throwable =>
      have runs : (Program.call method).run setting env =
          (.error (.managedException throwable),
            { env with received := env.received ++ [method] }) := by
        simp [Program.call, answer]
      refine
        { live := by rw [runs]
          staleUses := by rw [runs]
          succeeds := fun willing => ?_
          fails := fun _ => ⟨throwable, by rw [runs]⟩ }
      rcases willing.answers.1 with ⟨value, equal⟩
      simp [answer] at equal

theorem withLocal (object : β)
    {body : LocalRef β → Program Weak Call Throwable Reply α}
    (inner : ∀ handle, Contract (handle :: held) (body ⟨handle, object⟩) weaks calls) :
    Contract held (Program.withLocal object body) weaks calls := by
  intro setting env heldLive
  let opened : Env Call := { env with table := env.table.acquire }
  have bodyMeets := inner env.table.next setting opened (RefTable.acquire_holds heldLive)
  have runs : (Program.withLocal object body).run setting env =
      (Program.owning ⟨env.table.next, object⟩ (body ⟨env.table.next, object⟩)).run
        setting opened := rfl
  rw [Program.owning_run] at runs
  exact
    { live := by rw [runs, RefTable.release_live, bodyMeets.live]; simp [opened]
      staleUses := by rw [runs]; exact bodyMeets.staleUses
      succeeds := fun willing => by rw [runs]; exact bodyMeets.succeeds willing
      fails := fun unwilling => by rw [runs]; exact bodyMeets.fails unwilling }

/-- A choice that depends on a weak reference: what `present` needs when it
resolves, an exception when it does not. -/
theorem ifResolves (weak : Weak) {present absent : Program Weak Call Throwable Reply α}
    (resolved : Contract held present weaks calls)
    (cleared : ∀ setting env, (∀ handle ∈ held, handle ∈ env.table.live) →
      (absent.run setting env).2.table.live = env.table.live ∧
        (absent.run setting env).2.staleUses = env.staleUses ∧
        ∃ throwable, (absent.run setting env).1 = .error (.managedException throwable)) :
    Contract held (do if ← Program.resolves weak then present else absent)
      (weak :: weaks) calls := by
  intro setting env heldLive
  cases resolves : setting.resolves weak with
  | true =>
      have runs : (do if ← Program.resolves weak then present else absent :
          Program Weak Call Throwable Reply α).run setting env =
            present.run setting env := by
        rw [Program.run_bind, Program.resolves_run, resolves]
        rfl
      have presentMeets := resolved setting env heldLive
      have willing : setting.Willing (weak :: weaks) env.received calls ↔
          setting.Willing weaks env.received calls := by
        constructor
        · exact fun both => ⟨fun other member =>
            both.resolves other (List.mem_cons_of_mem _ member), both.answers⟩
        · exact fun rest => ⟨by simpa [resolves] using rest.resolves, rest.answers⟩
      exact
        { live := by rw [runs]; exact presentMeets.live
          staleUses := by rw [runs]; exact presentMeets.staleUses
          succeeds := fun both => by rw [runs]; exact presentMeets.succeeds (willing.mp both)
          fails := fun neither => by
            rw [runs]
            exact presentMeets.fails fun rest => neither (willing.mpr rest) }
  | false =>
      have runs : (do if ← Program.resolves weak then present else absent :
          Program Weak Call Throwable Reply α).run setting env =
            absent.run setting env := by
        rw [Program.run_bind, Program.resolves_run, resolves]
        rfl
      rcases cleared setting env heldLive with ⟨live, staleUses, throwable, raised⟩
      refine
        { live := by rw [runs]; exact live
          staleUses := by rw [runs]; exact staleUses
          succeeds := fun both => ?_
          fails := fun _ => ⟨throwable, by rw [runs]; exact raised⟩ }
      have contradiction := both.resolves weak List.mem_cons_self
      simp [resolves] at contradiction

end Contract

/-! ## Calls made in any case -/

/-- With the references in `held` live, the program makes exactly these calls,
whether the last of them returns normally or not. -/
def Makes (held : List Nat) (program : Program Weak Call Throwable Reply α)
    (calls : List Call) : Prop :=
  ∀ (setting : Setting Weak Call Throwable Reply) (env : Env Call),
    (∀ handle ∈ held, handle ∈ env.table.live) →
      (program.run setting env).2.received = env.received ++ calls

namespace Makes

variable {held : List Nat} {program : Program Weak Call Throwable Reply α}
  {calls : List Call}

theorem call (method : Call) :
    Makes held (Program.call method : Program Weak Call Throwable Reply _) [method] := by
  intro setting env heldLive
  cases answer : setting.reply env.received method with
  | ok value => simp [Program.call, answer]
  | error throwable => simp [Program.call, answer]

theorem afterSilent {next : α → Program Weak Call Throwable Reply β}
    (first : Contract held program [] [])
    (second : ∀ value, Makes held (next value) calls) :
    Makes held (program >>= next) calls := by
  intro setting env heldLive
  have meets := first setting env heldLive
  rcases ran : program.run setting env with ⟨result, middle⟩
  rcases meets.succeeds ⟨by simp, trivial⟩ with ⟨⟨value, succeeds⟩, received⟩
  have live := meets.live
  simp only [ran] at succeeds received live
  rw [succeeds] at ran
  rw [Program.run_bind_ok ran, second value setting middle (by rwa [live]), received,
    List.append_nil]

theorem acquire (object : β) {next : LocalRef β → Program Weak Call Throwable Reply α}
    (rest : ∀ handle, Makes (handle :: held) (next ⟨handle, object⟩) calls) :
    Makes held (Program.acquire object >>= next) calls := by
  intro setting env heldLive
  exact rest env.table.next setting { env with table := env.table.acquire }
    (RefTable.acquire_holds heldLive)

theorem withLocal (object : β) {body : LocalRef β → Program Weak Call Throwable Reply α}
    (inner : ∀ handle, Makes (handle :: held) (body ⟨handle, object⟩) calls) :
    Makes held (Program.withLocal object body) calls := by
  apply acquire
  intro handle setting env heldLive
  rw [Program.owning_run]
  exact inner handle setting env heldLive

end Makes

end Dcsctp4j.NativeFrame
