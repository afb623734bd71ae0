import Mathlib.Data.List.Basic

/-! # Native code running in one frame of a managed runtime

A native function that a managed runtime calls runs in a frame: a table of the
local references it may use, a way to call managed methods back, and C++
exceptions that run destructors as they unwind. The library fixes no program;
`Call` names the managed methods, `Reply` their results and `Weak` the weak
references the native side holds.
-/

namespace Dcsctp4j.NativeFrame

/-! ## Tables of local references -/

/-- Handles of the live local references of a frame. `bounded` makes `next`
fresh, so a deleted handle never comes back to life. -/
structure RefTable where
  live : List Nat
  next : Nat
  bounded : ∀ handle ∈ live, handle < next

namespace RefTable

def empty : RefTable where
  live := []
  next := 0
  bounded := by simp

def acquire (table : RefTable) : RefTable where
  live := table.next :: table.live
  next := table.next + 1
  bounded := by
    intro handle member
    rcases List.mem_cons.mp member with equal | member
    · omega
    · exact Nat.lt_succ_of_lt (table.bounded handle member)

def release (table : RefTable) (handle : Nat) : RefTable where
  live := table.live.erase handle
  next := table.next
  bounded := fun other member => table.bounded other (List.mem_of_mem_erase member)

@[simp] theorem acquire_live (table : RefTable) :
    table.acquire.live = table.next :: table.live := rfl

@[simp] theorem acquire_next (table : RefTable) :
    table.acquire.next = table.next + 1 := rfl

@[simp] theorem release_live (table : RefTable) (handle : Nat) :
    (table.release handle).live = table.live.erase handle := rfl

theorem acquire_holds {table : RefTable} {held : List Nat}
    (heldLive : ∀ handle ∈ held, handle ∈ table.live) :
    ∀ handle ∈ table.next :: held, handle ∈ table.acquire.live := by
  intro handle member
  rcases List.mem_cons.mp member with equal | member
  · simp [equal]
  · simp [heldLive handle member]

theorem next_not_mem (table : RefTable) : table.next ∉ table.live :=
  fun member => Nat.lt_irrefl _ (table.bounded _ member)

end RefTable

structure LocalRef (α : Type) where
  handle : Nat
  object : α

/-! ## Programs -/

/-- What the runtime does with a local reference that is no longer live. The
interface leaves it open: these are a runtime that checks references and one that
is lucky. -/
inductive StaleUse
  | aborts
  | reads
deriving DecidableEq

/-- The surroundings of a native frame: the runtime's treatment of stale
references, which weak references still resolve, and what each managed method
answers after the calls made before it. -/
structure Setting (Weak Call Throwable : Type) (Reply : Call → Type) where
  staleUse : StaleUse
  resolves : Weak → Bool
  reply : List Call → (call : Call) → Except Throwable (Reply call)

/-- The state a program changes: its references, the handles it used after
their deletion, and the managed methods called so far, oldest first. -/
structure Env (Call : Type) where
  table : RefTable
  staleUses : List Nat
  received : List Call

inductive Fault (Throwable : Type)
  | managedException (throwable : Throwable)
  | vmAborted
deriving DecidableEq

structure Program (Weak Call Throwable : Type) (Reply : Call → Type)
    (α : Type) where
  run : Setting Weak Call Throwable Reply → Env Call →
    Except (Fault Throwable) α × Env Call

variable {Weak Call Throwable : Type} {Reply : Call → Type} {α β : Type}

namespace Program

def bind (first : Program Weak Call Throwable Reply α)
    (next : α → Program Weak Call Throwable Reply β) :
    Program Weak Call Throwable Reply β where
  run setting env :=
    match first.run setting env with
    | (.ok value, middle) => (next value).run setting middle
    | (.error fault, middle) => (.error fault, middle)

instance : Monad (Program Weak Call Throwable Reply) where
  pure value := { run := fun _ env => (.ok value, env) }
  bind := bind

@[simp] theorem run_pure (value : α) (setting : Setting Weak Call Throwable Reply)
    (env : Env Call) :
    (pure value : Program Weak Call Throwable Reply α).run setting env =
      (.ok value, env) := rfl

theorem run_bind (first : Program Weak Call Throwable Reply α)
    (next : α → Program Weak Call Throwable Reply β)
    (setting : Setting Weak Call Throwable Reply) (env : Env Call) :
    (first >>= next).run setting env =
      match first.run setting env with
      | (.ok value, middle) => (next value).run setting middle
      | (.error fault, middle) => (.error fault, middle) := rfl

theorem run_bind_ok {first : Program Weak Call Throwable Reply α}
    {setting : Setting Weak Call Throwable Reply} {env middle : Env Call} {value : α}
    (ran : first.run setting env = (.ok value, middle))
    (next : α → Program Weak Call Throwable Reply β) :
    (first >>= next).run setting env = (next value).run setting middle := by
  rw [run_bind, ran]

theorem run_bind_error {first : Program Weak Call Throwable Reply α}
    {setting : Setting Weak Call Throwable Reply} {env middle : Env Call}
    {fault : Fault Throwable}
    (ran : first.run setting env = (.error fault, middle))
    (next : α → Program Weak Call Throwable Reply β) :
    (first >>= next).run setting env = (.error fault, middle) := by
  rw [run_bind, ran]

/-! ## Operations -/

def acquire (object : α) : Program Weak Call Throwable Reply (LocalRef α) where
  run _ env :=
    (.ok ⟨env.table.next, object⟩, { env with table := env.table.acquire })

/-- Pass a reference to the runtime. A dead one is recorded; what the runtime
then does with it is the setting's choice. -/
def useRef (ref : LocalRef α) : Program Weak Call Throwable Reply α where
  run setting env :=
    if ref.handle ∈ env.table.live then (.ok ref.object, env)
    else
      let used := { env with staleUses := ref.handle :: env.staleUses }
      match setting.staleUse with
      | .aborts => (.error .vmAborted, used)
      | .reads => (.ok ref.object, used)

/-- Run `body` and delete `ref` when the scope ends, normally or not. -/
def owning (ref : LocalRef α) (body : Program Weak Call Throwable Reply β) :
    Program Weak Call Throwable Reply β where
  run setting env :=
    let (result, after) := body.run setting env
    (result, { after with table := after.table.release ref.handle })

/-- Run `body` and then `cleanup`, whether `body` ended normally or not. -/
def guarded (body : Program Weak Call Throwable Reply α)
    (cleanup : Program Weak Call Throwable Reply Unit) :
    Program Weak Call Throwable Reply α where
  run setting env :=
    let (result, middle) := body.run setting env
    match cleanup.run setting middle with
    | (.ok _, after) => (result, after)
    | (.error fault, after) => (.error fault, after)

/-- Run `body` in a frame of its own, which the runtime drops on return with
every reference created there. -/
def inFrame (body : Program Weak Call Throwable Reply α) :
    Program Weak Call Throwable Reply α where
  run setting env :=
    let (result, after) := body.run setting env
    (result, { after with table := env.table })

def withLocal (object : α)
    (body : LocalRef α → Program Weak Call Throwable Reply β) :
    Program Weak Call Throwable Reply β := do
  let ref ← acquire object
  owning ref (body ref)

/-- The pointer of a reference whose owner dies at the end of the expression:
it is dead by the time it can be used. -/
def borrowTemporary (object : α) :
    Program Weak Call Throwable Reply (LocalRef α) :=
  withLocal object fun ref => pure ref

/-- Call a managed method. An exception it raises continues as a C++ one. -/
def call (method : Call) : Program Weak Call Throwable Reply (Reply method) where
  run setting env :=
    let called := { env with received := env.received ++ [method] }
    match setting.reply env.received method with
    | .ok value => (.ok value, called)
    | .error throwable => (.error (.managedException throwable), called)

def throwException (throwable : Throwable) :
    Program Weak Call Throwable Reply α where
  run _ env := (.error (.managedException throwable), env)

def resolves (weak : Weak) : Program Weak Call Throwable Reply Bool where
  run setting env := (.ok (setting.resolves weak), env)

theorem owning_run (ref : LocalRef α) (body : Program Weak Call Throwable Reply β)
    (setting : Setting Weak Call Throwable Reply) (env : Env Call) :
    (owning ref body).run setting env =
      ((body.run setting env).1,
        { (body.run setting env).2 with
          table := (body.run setting env).2.table.release ref.handle }) := rfl

theorem inFrame_run (body : Program Weak Call Throwable Reply α)
    (setting : Setting Weak Call Throwable Reply) (env : Env Call) :
    (inFrame body).run setting env =
      ((body.run setting env).1, { (body.run setting env).2 with table := env.table }) := rfl

theorem resolves_run (weak : Weak) (setting : Setting Weak Call Throwable Reply)
    (env : Env Call) :
    (resolves weak : Program Weak Call Throwable Reply Bool).run setting env =
      (.ok (setting.resolves weak), env) := rfl

/-! ## Order of steps -/

theorem ext {first second : Program Weak Call Throwable Reply α}
    (same : ∀ setting env, first.run setting env = second.run setting env) : first = second := by
  rcases first with ⟨firstRun⟩
  rcases second with ⟨secondRun⟩
  exact congrArg mk (funext fun setting => funext fun env => same setting env)

theorem useRef_table (ref : LocalRef α) (setting : Setting Weak Call Throwable Reply)
    (env : Env Call) : ((useRef ref).run setting env).2.table = env.table := by
  rw [useRef]
  dsimp only
  split_ifs
  · rfl
  · cases setting.staleUse <;> rfl

theorem useRef_live {ref : LocalRef α} {env : Env Call} (live : ref.handle ∈ env.table.live)
    (setting : Setting Weak Call Throwable Reply) :
    (useRef ref).run setting env = (.ok ref.object, env) := if_pos live

theorem guarded_run_ok {body : Program Weak Call Throwable Reply α}
    {cleanup : Program Weak Call Throwable Reply Unit}
    {setting : Setting Weak Call Throwable Reply} {env middle after : Env Call}
    {outcome : Except (Fault Throwable) α} (ran : body.run setting env = (outcome, middle))
    (ended : cleanup.run setting middle = (.ok (), after)) :
    (guarded body cleanup).run setting env = (outcome, after) := by
  simp only [guarded, ran, ended]

theorem guarded_run_error {body : Program Weak Call Throwable Reply α}
    {cleanup : Program Weak Call Throwable Reply Unit}
    {setting : Setting Weak Call Throwable Reply} {env middle after : Env Call}
    {outcome : Except (Fault Throwable) α} {fault : Fault Throwable}
    (ran : body.run setting env = (outcome, middle))
    (ended : cleanup.run setting middle = (.error fault, after)) :
    (guarded body cleanup).run setting env = (.error fault, after) := by
  simp only [guarded, ran, ended]

/-- What only looks at the references may come before a cleanup that keeps them, or
after it. -/
theorem guarded_bind {body : Program Weak Call Throwable Reply α}
    {cleanup : Program Weak Call Throwable Reply Unit}
    {next : α → Program Weak Call Throwable Reply β}
    (looks : ∀ setting env value middle, body.run setting env = (.ok value, middle) →
      ∃ result, ∀ after : Env Call, after.table = middle.table →
        (next value).run setting after = (.ok result, after))
    (keeps : ∀ setting env, (cleanup.run setting env).2.table = env.table) :
    guarded (body >>= next) cleanup = guarded body cleanup >>= next := by
  apply ext
  intro setting env
  rcases ran : body.run setting env with ⟨outcome, middle⟩
  rcases ended : cleanup.run setting middle with ⟨ending, after⟩
  have sameTable : after.table = middle.table := by
    have kept := keeps setting middle
    rwa [ended] at kept
  cases outcome with
  | error fault =>
      have ranOn := run_bind_error ran next
      cases ending with
      | error other =>
          rw [guarded_run_error ranOn ended, run_bind_error (guarded_run_error ran ended)]
      | ok =>
          rw [guarded_run_ok ranOn ended, run_bind_error (guarded_run_ok ran ended)]
  | ok value =>
      rcases looks setting env value middle ran with ⟨result, looked⟩
      have ranOn := (run_bind_ok ran next).trans (looked middle rfl)
      cases ending with
      | error other =>
          rw [guarded_run_error ranOn ended, run_bind_error (guarded_run_error ran ended)]
      | ok =>
          rw [guarded_run_ok ranOn ended, run_bind_ok (guarded_run_ok ran ended),
            looked after sameTable]

theorem bind_assoc {γ : Type} (first : Program Weak Call Throwable Reply α)
    (second : α → Program Weak Call Throwable Reply β)
    (third : β → Program Weak Call Throwable Reply γ) :
    first >>= second >>= third = first >>= fun value => second value >>= third := by
  apply ext
  intro setting env
  rcases ran : first.run setting env with ⟨outcome, middle⟩
  cases outcome with
  | error fault =>
      rw [run_bind_error ran, run_bind_error (run_bind_error ran second)]
  | ok value =>
      rw [run_bind_ok ran, run_bind, run_bind_ok ran second, run_bind]

theorem run_bind_inv {first : Program Weak Call Throwable Reply α}
    {next : α → Program Weak Call Throwable Reply β}
    {setting : Setting Weak Call Throwable Reply} {env after : Env Call} {result : β}
    (ran : (first >>= next).run setting env = (.ok result, after)) :
    ∃ value middle, first.run setting env = (.ok value, middle) ∧
      (next value).run setting middle = (.ok result, after) := by
  rcases firstRan : first.run setting env with ⟨outcome, middle⟩
  cases outcome with
  | error fault =>
      rw [run_bind_error firstRan] at ran
      cases ran
  | ok value =>
      rw [run_bind_ok firstRan] at ran
      exact ⟨value, middle, rfl, ran⟩

end Program

end Dcsctp4j.NativeFrame
