import Dcsctp4j.Foundation.Dialogue
import Dcsctp4j.Foundation.FrameContract

/-! # Programs that play dialogues

A native program plays a dialogue when it calls the managed methods that the
dialogue asks for and goes on with their answers as the dialogue does. All else
it does is to look after its local references.
-/

namespace Dcsctp4j.NativeFrame

variable {Weak Call Throwable : Type} {Reply : Call → Type} {α β : Type}

/-- Managed code that never throws and of which nothing has been collected. -/
structure Setting.Serves (setting : Setting Weak Call Throwable Reply)
    (answer : List Call → (call : Call) → Reply call) : Prop where
  resolves : ∀ weak, setting.resolves weak = true
  replies : ∀ history call, setting.reply history call = .ok (answer history call)

/-- With the references in `held` live, the program holds the dialogue with the
managed code. It may leave references behind for its frame to drop. -/
def Plays (held : List Nat) (program : Program Weak Call Throwable Reply α)
    (dialogue : Dialogue Call Reply α) : Prop :=
  ∀ (setting : Setting Weak Call Throwable Reply)
    (answer : List Call → (call : Call) → Reply call) (env : Env Call),
    setting.Serves answer → (∀ handle ∈ held, handle ∈ env.table.live) →
      ∃ table, (∀ handle ∈ env.table.live, handle ∈ table.live) ∧
        program.run setting env = (.ok (dialogue.converse answer env.received).1,
          { env with table, received := (dialogue.converse answer env.received).2 })

namespace Plays

variable {held : List Nat} {program : Program Weak Call Throwable Reply α}
  {dialogue : Dialogue Call Reply α}

theorem ofReturns {value : α} (returns : Returns held program value) :
    Plays held program (.reply value) := by
  intro setting answer env serves heldLive
  rcases returns setting env heldLive with ⟨table, live, ran⟩
  exact ⟨table, fun handle member => by rwa [live], ran⟩

theorem pure (value : α) :
    Plays held (Pure.pure value : Program Weak Call Throwable Reply α) (.reply value) :=
  ofReturns (Returns.pure value)

theorem call (method : Call) :
    Plays held (Program.call method : Program Weak Call Throwable Reply _)
      (.ask method .reply) := by
  intro setting answer env serves heldLive
  refine ⟨env.table, fun _ member => member, ?_⟩
  simp only [Program.call, serves.replies]
  rfl

theorem bind {next : α → Program Weak Call Throwable Reply β}
    {rest : α → Dialogue Call Reply β} (first : Plays held program dialogue)
    (second : ∀ value, Plays held (next value) (rest value)) :
    Plays held (program >>= next) (dialogue >>= rest) := by
  intro setting answer env serves heldLive
  rcases first setting answer env serves heldLive with ⟨middle, kept, ran⟩
  let after : Env Call :=
    { env with table := middle, received := (dialogue.converse answer env.received).2 }
  have stillLive : ∀ handle ∈ held, handle ∈ after.table.live :=
    fun handle member => kept handle (heldLive handle member)
  rcases second (dialogue.converse answer env.received).1 setting answer after serves
      stillLive with ⟨table, keeps, nextRan⟩
  refine ⟨table, fun handle member => keeps handle (kept handle member), ?_⟩
  rw [Program.run_bind_ok ran next, nextRan, Dialogue.converse_bind]

theorem afterSilent {value : α} {next : α → Program Weak Call Throwable Reply β}
    {rest : Dialogue Call Reply β} (first : Returns held program value)
    (second : Plays held (next value) rest) : Plays held (program >>= next) rest := by
  intro setting answer env serves heldLive
  rcases first setting env heldLive with ⟨middle, live, ran⟩
  rcases second setting answer { env with table := middle } serves
      (by simpa [live] using heldLive) with ⟨table, keeps, nextRan⟩
  refine ⟨table, fun handle member => keeps handle (by simpa [live] using member), ?_⟩
  rw [Program.run_bind_ok ran next, nextRan]

theorem acquire (object : β) {next : LocalRef β → Program Weak Call Throwable Reply α}
    (rest : ∀ handle, Plays (handle :: held) (next ⟨handle, object⟩) dialogue) :
    Plays held (Program.acquire object >>= next) dialogue := by
  intro setting answer env serves heldLive
  rcases rest env.table.next setting answer { env with table := env.table.acquire } serves
      (RefTable.acquire_holds heldLive) with ⟨table, keeps, ran⟩
  exact ⟨table, fun handle member => keeps handle (List.mem_cons_of_mem _ member), ran⟩

/-- The reference deleted at the end is none of those there were before. -/
theorem withLocal (object : β) {body : LocalRef β → Program Weak Call Throwable Reply α}
    (inner : ∀ handle, Plays (handle :: held) (body ⟨handle, object⟩) dialogue) :
    Plays held (Program.withLocal object body) dialogue := by
  intro setting answer env serves heldLive
  rcases inner env.table.next setting answer { env with table := env.table.acquire } serves
      (RefTable.acquire_holds heldLive) with ⟨table, keeps, ran⟩
  refine ⟨table.release env.table.next, fun handle member => ?_, ?_⟩
  · have other : handle ≠ env.table.next := by
      intro equal
      rw [equal] at member
      exact env.table.next_not_mem member
    exact (List.mem_erase_of_ne other).mpr (keeps handle (List.mem_cons_of_mem _ member))
  · change (Program.owning ⟨env.table.next, object⟩ (body ⟨env.table.next, object⟩)).run
      setting { env with table := env.table.acquire } = _
    rw [Program.owning_run, ran]

theorem guarded {cleanup : Program Weak Call Throwable Reply Unit}
    (body : Plays held program dialogue) (last : Returns held cleanup ()) :
    Plays held (Program.guarded program cleanup) dialogue := by
  intro setting answer env serves heldLive
  rcases body setting answer env serves heldLive with ⟨middle, kept, ran⟩
  have stillLive : ∀ handle ∈ held, handle ∈ middle.live :=
    fun handle member => kept handle (heldLive handle member)
  rcases last setting { env with
      table := middle, received := (dialogue.converse answer env.received).2 } stillLive with
    ⟨table, live, lastRan⟩
  refine ⟨table, fun handle member => by rw [live]; exact kept handle member, ?_⟩
  simp only [Program.guarded, ran, lastRan]

theorem ifResolves (weak : Weak) {absent : Program Weak Call Throwable Reply α}
    (present : Plays held program dialogue) :
    Plays held (do if ← Program.resolves weak then program else absent) dialogue := by
  intro setting answer env serves heldLive
  rcases present setting answer env serves heldLive with ⟨table, keeps, ran⟩
  refine ⟨table, keeps, ?_⟩
  rw [Program.run_bind, Program.resolves_run, serves.resolves]
  exact ran

theorem run {Query : Type} {Answer : Query → Type}
    {ask : (query : Query) → Program Weak Call Throwable Reply (Answer query)}
    {asks : (query : Query) → Dialogue Call Reply (Answer query)}
    (plays : ∀ query held, Plays held (ask query) (asks query))
    (dialogue : Dialogue Query Answer α) : Plays held (dialogue.run ask) (dialogue.run asks) := by
  induction dialogue with
  | reply value => exact pure value
  | ask query next induction => exact bind (plays query held) induction

theorem serve {State Query : Type} {Answer : Query → Type}
    {ask : (query : Query) → Program Weak Call Throwable Reply (Answer query)}
    {asks : (query : Query) → Dialogue Call Reply (Answer query)}
    (plays : ∀ query held, Plays held (ask query) (asks query))
    (requests : Dialogue (Request State Query) (Request.Reply Answer) α) (state : State) :
    Plays held
      ((requests.run (Request.serve get set fun query => StateT.lift (ask query))).run state)
      ((requests.run (Request.serve get set fun query => StateT.lift (asks query))).run
        state) := by
  induction requests generalizing state with
  | reply value => exact pure (value, state)
  | ask request next induction =>
      cases request with
      | load => exact induction state state
      | store after => exact induction () after
      | ask query =>
          apply bind
          · apply bind (plays query held)
            intro value
            exact pure (value, state)
          · intro served
            exact induction served.1 served.2

end Plays

/-! ## Programs without a trace -/

/-- The program holds the dialogue and leaves its frame as it was. -/
def PlaysExactly (program : Program Weak Call Throwable Reply α)
    (dialogue : Dialogue Call Reply α) : Prop :=
  ∀ (setting : Setting Weak Call Throwable Reply)
    (answer : List Call → (call : Call) → Reply call) (env : Env Call),
    setting.Serves answer →
      program.run setting env = (.ok (dialogue.converse answer env.received).1,
        { env with received := (dialogue.converse answer env.received).2 })

namespace PlaysExactly

variable {program : Program Weak Call Throwable Reply α} {dialogue : Dialogue Call Reply α}

theorem inFrame (plays : Plays [] program dialogue) :
    PlaysExactly (Program.inFrame program) dialogue := by
  intro setting answer env serves
  rcases plays setting answer env serves (by simp) with ⟨table, keeps, ran⟩
  rw [Program.inFrame_run, ran]

theorem silent {value : α}
    (ran : ∀ (setting : Setting Weak Call Throwable Reply) (env : Env Call),
      program.run setting env = (.ok value, env)) : PlaysExactly program (.reply value) :=
  fun setting _ env _ => ran setting env

theorem afterSilent {value : α} {next : α → Program Weak Call Throwable Reply β}
    {rest : Dialogue Call Reply β}
    (ran : ∀ (setting : Setting Weak Call Throwable Reply) (env : Env Call),
      program.run setting env = (.ok value, env)) (second : PlaysExactly (next value) rest) :
    PlaysExactly (program >>= next) rest := by
  intro setting answer env serves
  rw [Program.run_bind_ok (ran setting env), second setting answer env serves]

/-- The first program reads what its dialogue came to, and the second only has to
deal with such readings. -/
theorem bindRead {γ : Type} {read : γ → α} {before : Dialogue Call Reply γ}
    {next : α → Program Weak Call Throwable Reply β} {rest : γ → Dialogue Call Reply β}
    (first : PlaysExactly program (before >>= fun value => .reply (read value)))
    (second : ∀ value, PlaysExactly (next (read value)) (rest value)) :
    PlaysExactly (program >>= next) (before >>= rest) := by
  intro setting answer env serves
  have ran := first setting answer env serves
  rw [Dialogue.converse_bind, Dialogue.converse] at ran
  rw [Program.run_bind_ok ran next, second _ setting answer _ serves, Dialogue.converse_bind]

theorem bind {next : α → Program Weak Call Throwable Reply β}
    {rest : α → Dialogue Call Reply β} (first : PlaysExactly program dialogue)
    (second : ∀ value, PlaysExactly (next value) (rest value)) :
    PlaysExactly (program >>= next) (dialogue >>= rest) := by
  have asRead : PlaysExactly program (dialogue >>= fun value => .reply (id value)) := by
    change PlaysExactly program (dialogue.bind .reply)
    rwa [Dialogue.bind_reply]
  exact bindRead asRead second

end PlaysExactly

end Dcsctp4j.NativeFrame
