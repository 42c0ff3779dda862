import Mathlib.Data.Nat.Notation

set_option autoImplicit false

/-!
# A cooperative event loop over a shared store

Programs of `async` functions, cut at their awaits. Between two awaits a program
runs alone; an awaited call takes effect once, at a moment the scheduler picks,
and its answer is delivered at a later one. Any number of programs are in flight.
-/
namespace EventLoop

/-- What a program still has to do. `σ` is everything that can be read or written,
    `ι` names what an observer sees, `ρ` is the result the outermost caller gets. -/
inductive Task (σ ι ρ : Type) where
  | done (r : ρ)
  | stop
  | seg (f : σ → σ) (k : σ → Task σ ι ρ)
  | note (l : ι) (k : Task σ ι ρ)
  | call (l : ι) (f : σ → σ) (k : σ → Task σ ι ρ) (lost : Task σ ι ρ)
  | fork (p q : Task σ ι ρ)

/-- An `async` function body: it hands its value to one continuation and what it
    throws to the other. -/
def Async (σ ι ε ρ α : Type) : Type := (α → Task σ ι ρ) → (ε → Task σ ι ρ) → Task σ ι ρ

variable {σ ι ε ρ α β : Type}

namespace Async

instance : Monad (Async σ ι ε ρ) where
  pure a := fun k _ => k a
  bind m f := fun k h => m (fun a => f a k h) h

instance : MonadExceptOf ε (Async σ ι ε ρ) where
  throw e := fun _ h => h e
  tryCatch m c := fun k h => m k (fun e => c e k h)

def seg (f : σ → σ × α) : Async σ ι ε ρ α :=
  fun k _ => .seg (fun s => (f s).1) (fun s => k (f s).2)

def look (g : σ → α) : Async σ ι ε ρ α := seg fun s => (s, g s)

def change (f : σ → σ) : Async σ ι ε ρ Unit := seg fun s => (f s, ())

def note (l : ι) : Async σ ι ε ρ Unit := fun k _ => .note l (k ())

/-- An awaited call. It may answer with an exception of its own, and it may be
    lost: then nothing happened and the program gets `lost`. -/
def call (l : ι) (f : σ → σ × Except ε α) (lost : ε) : Async σ ι ε ρ α := fun k h =>
  .call l (fun s => (f s).1) (fun s => match (f s).2 with | .ok a => k a | .error e => h e)
    (h lost)

def spawn (m : Async σ ι ε ρ Unit) : Async σ ι ε ρ Unit := fun k _ =>
  .fork (m (fun _ => .stop) fun _ => .stop) (k ())

def task (m : Async σ ι ε ρ Unit) : Task σ ι ρ := m (fun _ => .stop) fun _ => .stop

def result (m : Async σ ι ε ρ ρ) : Task σ ι ρ := m .done fun _ => .stop

variable (k : α → Task σ ι ρ) (h : ε → Task σ ι ρ)

@[simp] theorem pure_run (a : α) : (pure a : Async σ ι ε ρ α) k h = k a := rfl

@[simp] theorem bind_run (m : Async σ ι ε ρ β) (f : β → Async σ ι ε ρ α) :
    (m >>= f) k h = m (fun b => f b k h) h := rfl

@[simp] theorem map_run (m : Async σ ι ε ρ β) (f : β → α) :
    (f <$> m) k h = m (fun b => k (f b)) h := rfl

@[simp] theorem throw_run (e : ε) : (throw e : Async σ ι ε ρ α) k h = h e := rfl

@[simp] theorem tryCatch_run (m : Async σ ι ε ρ α) (c : ε → Async σ ι ε ρ α) :
    (tryCatch m c : Async σ ι ε ρ α) k h = m k fun e => c e k h := rfl

@[simp] theorem seg_run (f : σ → σ × α) :
    (seg f : Async σ ι ε ρ α) k h = .seg (fun s => (f s).1) fun s => k (f s).2 := rfl

@[simp] theorem look_run (g : σ → α) :
    (look g : Async σ ι ε ρ α) k h = .seg id fun s => k (g s) := rfl

@[simp] theorem call_run (l : ι) (f : σ → σ × Except ε α) (lost : ε) :
    call l f lost k h = .call l (fun s => (f s).1)
      (fun s => match (f s).2 with | .ok a => k a | .error e => h e) (h lost) := rfl

variable (u : Unit → Task σ ι ρ)

@[simp] theorem change_run (f : σ → σ) :
    (change f : Async σ ι ε ρ Unit) u h = .seg f fun _ => u () := rfl

@[simp] theorem note_run (l : ι) : (note l : Async σ ι ε ρ Unit) u h = .note l (u ()) := rfl

@[simp] theorem spawn_run (m : Async σ ι ε ρ Unit) :
    spawn m u h = .fork m.task (u ()) := rfl

end Async

namespace Task

def settle : Task σ ι ρ → σ → σ × List (Task σ ι ρ)
  | .done _, s => (s, [])
  | .stop, s => (s, [])
  | .seg f k, s => (k s).settle (f s)
  | .note _ k, s => k.settle s
  | .call l f k lost, s => (s, [.call l f k lost])
  | .fork p q, s =>
    let a := p.settle s
    let b := q.settle a.1
    (b.1, a.2 ++ b.2)

/-- Runs alone to the end, each program nobody waits for before its starter goes on.
    `ok l` says whether a call seen as `l` goes through. -/
def alone (ok : ι → Bool) : Task σ ι ρ → σ → Option ρ × σ
  | .done r, s => (some r, s)
  | .stop, s => (none, s)
  | .seg f k, s => (k s).alone ok (f s)
  | .note _ k, s => k.alone ok s
  | .call l f k lost, s => if ok l then (k s).alone ok (f s) else lost.alone ok s
  | .fork p q, s => q.alone ok (p.alone ok s).2

end Task

/-- A program in flight: its call still awaited, or answered and not yet resumed. -/
inductive Slot (σ ι ρ : Type) where
  | asked (t : Task σ ι ρ)
  | answered (t : Task σ ι ρ)

structure Pool (σ ι ρ : Type) where
  state : σ
  slots : List (Slot σ ι ρ)

/-- What the scheduler may do next; `η` are the events that start a program. -/
inductive Move (η : Type) where
  | start (e : η)
  | serve (i : ℕ)
  | lose (i : ℕ)
  | resume (i : ℕ)
  deriving DecidableEq

variable {η : Type}

def Pool.launch (w : Pool σ ι ρ) (rest : List (Slot σ ι ρ)) (t : Task σ ι ρ) : Pool σ ι ρ :=
  ⟨(t.settle w.state).1, rest ++ (t.settle w.state).2.map .asked⟩

def step (handler : η → Task σ ι ρ) (w : Pool σ ι ρ) : Move η → Option (Pool σ ι ρ)
  | .start e => some (w.launch w.slots (handler e))
  | .serve i =>
    match w.slots[i]? with
    | some (.asked (.call _ f k _)) => some ⟨f w.state, w.slots.set i (.answered (k w.state))⟩
    | _ => none
  | .lose i =>
    match w.slots[i]? with
    | some (.asked (.call _ _ _ lost)) => some ⟨w.state, w.slots.set i (.answered lost)⟩
    | _ => none
  | .resume i =>
    match w.slots[i]? with
    | some (.answered t) => some (w.launch (w.slots.eraseIdx i) t)
    | _ => none

def exec (handler : η → Task σ ι ρ) (w : Pool σ ι ρ) : List (Move η) → Option (Pool σ ι ρ)
  | [] => some w
  | m :: ms => (step handler w m).bind fun v => exec handler v ms

end EventLoop
