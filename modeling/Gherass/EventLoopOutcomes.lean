import Gherass.EventLoop

set_option autoImplicit false

/-!
# A program run alone, call by call

Whether a call goes through is told for each call in turn, so that two calls that look alike may
fare differently.
-/
namespace EventLoop

variable {σ ι ε ρ α β : Type}

/-- Runs alone to the end. The outcomes say of one call after another whether it goes through,
    and all later ones do; what is left of them comes with the state. -/
def Task.told : Task σ ι ρ → List Bool → σ → σ × List Bool
  | .done _, o, s => (s, o)
  | .stop, o, s => (s, o)
  | .seg f k, o, s => (k s).told o (f s)
  | .note _ k, o, s => k.told o s
  | .call _ f k lost, o, s =>
    if o.headD true then (k s).told o.tail (f s) else lost.told o.tail s
  | .fork p q, o, s =>
    let first := p.told o s
    q.told first.2 first.1

namespace Async

/-- Run alone from `s` with the outcomes `o`, `m` hands on `r` and leaves `t` and `o'`. -/
def Leads (m : Async σ ι ε ρ α) (o : List Bool) (s : σ) (r : Except ε α) (o' : List Bool)
    (t : σ) : Prop :=
  ∀ k h, (m k h).told o s = (match r with | .ok a => k a | .error e => h e).told o' t

variable {o o' o'' : List Bool} {s t u : σ}

theorem Leads.task {m : Async σ ι ε ρ Unit} {r : Except ε Unit} (h : Leads m o s r o' t) :
    m.task.told o s = (t, o') := by
  refine (h _ _).trans ?_
  cases r with
  | ok | error => rfl

theorem Leads.pure (a : α) : Leads (Pure.pure a : Async σ ι ε ρ α) o s (.ok a) o s :=
  fun _ _ => rfl

theorem Leads.throw (e : ε) : Leads (throw e : Async σ ι ε ρ α) o s (.error e) o s :=
  fun _ _ => rfl

theorem Leads.bind {m : Async σ ι ε ρ β} {f : β → Async σ ι ε ρ α} {b : β} {r : Except ε α}
    (hm : Leads m o s (.ok b) o' t) (hf : Leads (f b) o' t r o'' u) :
    Leads (m >>= f) o s r o'' u := fun k h => (hm _ _).trans (hf k h)

theorem Leads.bind_error {m : Async σ ι ε ρ β} {f : β → Async σ ι ε ρ α} {e : ε}
    (hm : Leads m o s (.error e) o' t) : Leads (m >>= f) o s (.error e) o' t :=
  fun _ h => hm _ h

theorem Leads.tryCatch {m : Async σ ι ε ρ α} {c : ε → Async σ ι ε ρ α} {a : α}
    (hm : Leads m o s (.ok a) o' t) :
    Leads (MonadExcept.tryCatch m c : Async σ ι ε ρ α) o s (.ok a) o' t := fun k _ => hm k _

theorem Leads.caught {m : Async σ ι ε ρ α} {c : ε → Async σ ι ε ρ α} {e : ε} {r : Except ε α}
    (hm : Leads m o s (.error e) o' t) (hc : Leads (c e) o' t r o'' u) :
    Leads (MonadExcept.tryCatch m c : Async σ ι ε ρ α) o s r o'' u :=
  fun k h => (hm _ _).trans (hc k h)

theorem Leads.look (f : σ → α) : Leads (look f : Async σ ι ε ρ α) o s (.ok (f s)) o s :=
  fun _ _ => rfl

theorem Leads.change (f : σ → σ) :
    Leads (change f : Async σ ι ε ρ Unit) o s (.ok ()) o (f s) := fun _ _ => rfl

theorem Leads.note (l : ι) : Leads (note l : Async σ ι ε ρ Unit) o s (.ok ()) o s :=
  fun _ _ => rfl

theorem Leads.call (l : ι) (f : σ → σ × Except ε α) (lost : ε) (ho : o.headD true = true) :
    Leads (call l f lost : Async σ ι ε ρ α) o s (f s).2 o.tail (f s).1 := by
  intro k h
  cases hr : (f s).2 with
  | ok | error => simp only [call_run, Task.told, ho, if_true, hr]

theorem Leads.call_lost (l : ι) (f : σ → σ × Except ε α) (lost : ε) (ho : o.headD true = false) :
    Leads (Async.call l f lost : Async σ ι ε ρ α) o s (.error lost) o.tail s := by
  intro k h
  simp only [call_run, Task.told, ho, if_false, Bool.false_eq_true]

end Async

end EventLoop
