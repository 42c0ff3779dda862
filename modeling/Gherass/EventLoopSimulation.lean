import Gherass.EventLoopOutcomes
import Mathlib.Data.List.Forall2

set_option autoImplicit false

/-!
# Programs in step

Two programs over different stores that do the same call by call. Related stores stay related
under any schedule, whatever else runs in step beside them.
-/
namespace EventLoop

variable {σ τ ι κ ε ρ α β γ δ η : Type} {R : σ → τ → Prop}

/-- From related states the two tasks do the same, and leave related states. What an observer
    sees of them need not agree. -/
inductive Task.InStep (R : σ → τ → Prop) : Task σ ι ρ → Task τ κ ρ → Prop where
  | done (r : ρ) : InStep R (.done r) (.done r)
  | stop : InStep R .stop .stop
  | seg {f : σ → σ} {g : τ → τ} {k : σ → Task σ ι ρ} {k' : τ → Task τ κ ρ}
      (hf : ∀ s t, R s t → R (f s) (g t)) (hk : ∀ s t, R s t → InStep R (k s) (k' t)) :
      InStep R (.seg f k) (.seg g k')
  | note {l : ι} {l' : κ} {x : Task σ ι ρ} {y : Task τ κ ρ} (h : InStep R x y) :
      InStep R (.note l x) (.note l' y)
  | call {l : ι} {l' : κ} {f : σ → σ} {g : τ → τ} {k : σ → Task σ ι ρ} {k' : τ → Task τ κ ρ}
      {lost : Task σ ι ρ} {lost' : Task τ κ ρ} (hf : ∀ s t, R s t → R (f s) (g t))
      (hk : ∀ s t, R s t → InStep R (k s) (k' t)) (hlost : InStep R lost lost') :
      InStep R (.call l f k lost) (.call l' g k' lost')
  | fork {x x' : Task σ ι ρ} {y y' : Task τ κ ρ} (h : InStep R x y) (h' : InStep R x' y') :
      InStep R (.fork x x') (.fork y y')

theorem Task.InStep.settle {x : Task σ ι ρ} {y : Task τ κ ρ} (h : x.InStep R y) {s : σ} {t : τ}
    (hst : R s t) : R (x.settle s).1 (y.settle t).1 ∧
      List.Forall₂ (Task.InStep R) (x.settle s).2 (y.settle t).2 := by
  induction h generalizing s t with
  | done r => exact ⟨hst, .nil⟩
  | stop => exact ⟨hst, .nil⟩
  | seg hf hk ih => exact ih s t hst (hf s t hst)
  | note h ih => exact ih hst
  | call hf hk hlost => exact ⟨hst, .cons (.call hf hk hlost) .nil⟩
  | fork h h' ih ih' =>
    obtain ⟨hfirst, hcalls⟩ := ih hst
    obtain ⟨hrest, hcalls'⟩ := ih' hfirst
    exact ⟨hrest, List.rel_append hcalls hcalls'⟩

theorem Task.InStep.told {x : Task σ ι ρ} {y : Task τ κ ρ} (h : x.InStep R y) (o : List Bool)
    {s : σ} {t : τ} (hst : R s t) : R (x.told o s).1 (y.told o t).1 ∧
      (x.told o s).2 = (y.told o t).2 := by
  induction h generalizing o s t with
  | done r => exact ⟨hst, rfl⟩
  | stop => exact ⟨hst, rfl⟩
  | seg hf hk ih => exact ih s t hst o (hf s t hst)
  | note h ih => exact ih o hst
  | call hf hk hlost ih ihlost =>
    unfold Task.told
    split
    case isTrue => exact ih s t hst _ (hf s t hst)
    case isFalse => exact ihlost _ hst
  | fork h h' ih ih' =>
    obtain ⟨hfirst, hrest⟩ := ih o hst
    unfold Task.told
    dsimp only
    rw [hrest]
    exact ih' _ hfirst

theorem Task.InStep.swap {x : Task σ ι ρ} {y : Task τ κ ρ} (h : x.InStep R y) :
    y.InStep (flip R) x := by
  induction h with
  | done r => exact .done r
  | stop => exact .stop
  | seg hf hk ih => exact .seg (fun t s h => hf s t h) fun t s h => ih s t h
  | note h ih => exact .note ih
  | call hf hk hlost ih ihlost => exact .call (fun t s h => hf s t h) (fun t s h => ih s t h) ihlost
  | fork h h' ih ih' => exact .fork ih ih'

inductive Slot.InStep (R : σ → τ → Prop) : Slot σ ι ρ → Slot τ κ ρ → Prop where
  | asked {x : Task σ ι ρ} {y : Task τ κ ρ} (h : x.InStep R y) : InStep R (.asked x) (.asked y)
  | answered {x : Task σ ι ρ} {y : Task τ κ ρ} (h : x.InStep R y) :
      InStep R (.answered x) (.answered y)

/-- Related states, and the same programs in flight at the same points. -/
structure Pool.InStep (R : σ → τ → Prop) (w : Pool σ ι ρ) (v : Pool τ κ ρ) : Prop where
  state : R w.state v.state
  slots : List.Forall₂ (Slot.InStep R) w.slots v.slots

theorem forall₂_at {S : γ → δ → Prop} {xs : List γ} {ys : List δ} (h : List.Forall₂ S xs ys)
    {i : ℕ} {x : γ} (hx : xs[i]? = some x) : ∃ y, ys[i]? = some y ∧ S x y ∧
      List.Forall₂ S (xs.eraseIdx i) (ys.eraseIdx i) ∧
      ∀ x' y', S x' y' → List.Forall₂ S (xs.set i x') (ys.set i y') := by
  induction h generalizing i with
  | nil => cases hx
  | @cons a b as bs head tail ih =>
    cases i with
    | zero =>
      obtain rfl : a = x := Option.some_inj.1 hx
      exact ⟨b, rfl, head, tail, fun _ _ h => .cons h tail⟩
    | succ i =>
      obtain ⟨y, hy, hr, herase, hset⟩ := ih hx
      exact ⟨y, hy, hr, .cons head herase, fun x' y' h => .cons head (hset x' y' h)⟩

variable {w u : Pool σ ι ρ} {v : Pool τ κ ρ} {handler : η → Task σ ι ρ}
  {handler' : η → Task τ κ ρ}

theorem Pool.InStep.launch (hst : R w.state v.state) {xs : List (Slot σ ι ρ)}
    {ys : List (Slot τ κ ρ)} (hslots : List.Forall₂ (Slot.InStep R) xs ys) {x : Task σ ι ρ}
    {y : Task τ κ ρ} (h : x.InStep R y) : (w.launch xs x).InStep R (v.launch ys y) := by
  obtain ⟨hstate, hcalls⟩ := h.settle hst
  refine ⟨hstate, List.rel_append hslots ?_⟩
  rw [List.forall₂_map_left_iff, List.forall₂_map_right_iff]
  exact hcalls.imp fun _ _ => .asked

theorem Pool.InStep.step (hh : ∀ e, (handler e).InStep R (handler' e)) (h : w.InStep R v)
    {m : Move η} (hs : EventLoop.step handler w m = some u) :
    ∃ u', EventLoop.step handler' v m = some u' ∧ u.InStep R u' := by
  cases m with
  | start e =>
    cases hs
    exact ⟨_, rfl, .launch h.state h.slots (hh e)⟩
  | serve i =>
    simp only [EventLoop.step] at hs
    split at hs
    case h_2 => cases hs
    rename_i l f k lost hx
    cases hs
    obtain ⟨y, hy, hslot, -, hset⟩ := forall₂_at h.slots hx
    obtain @⟨_, y, hcall⟩ | _ := hslot
    cases hcall with
    | call hf hk hlost =>
      refine ⟨⟨_, _⟩, ?_, hf _ _ h.state, hset _ _ (.answered (hk _ _ h.state))⟩
      simp only [EventLoop.step, hy]
  | lose i =>
    simp only [EventLoop.step] at hs
    split at hs
    case h_2 => cases hs
    rename_i l f k lost hx
    cases hs
    obtain ⟨y, hy, hslot, -, hset⟩ := forall₂_at h.slots hx
    obtain @⟨_, y, hcall⟩ | _ := hslot
    cases hcall with
    | call hf hk hlost =>
      rename_i l' g k' lost'
      refine ⟨⟨v.state, v.slots.set i (.answered lost')⟩, ?_, h.state, hset _ _ (.answered hlost)⟩
      simp only [EventLoop.step, hy]
  | resume i =>
    simp only [EventLoop.step] at hs
    split at hs
    case h_2 => cases hs
    rename_i x hx
    cases hs
    obtain ⟨y, hy, hslot, herase, -⟩ := forall₂_at h.slots hx
    obtain _ | @⟨_, y, hanswer⟩ := hslot
    refine ⟨v.launch (v.slots.eraseIdx i) y, ?_, .launch h.state herase hanswer⟩
    simp only [EventLoop.step, hy]

theorem Slot.InStep.swap {x : Slot σ ι ρ} {y : Slot τ κ ρ} (h : x.InStep R y) :
    y.InStep (flip R) x := by
  cases h with
  | asked h => exact .asked h.swap
  | answered h => exact .answered h.swap

theorem Pool.InStep.swap (h : w.InStep R v) : v.InStep (flip R) w :=
  ⟨h.state, h.slots.flip.imp fun _ _ => Slot.InStep.swap⟩

theorem Pool.InStep.follow (hh : ∀ e, (handler e).InStep R (handler' e)) (h : w.InStep R v)
    {ms : List (Move η)} (hx : EventLoop.exec handler w ms = some u) :
    ∃ u', EventLoop.exec handler' v ms = some u' ∧ u.InStep R u' := by
  induction ms generalizing w v with
  | nil =>
    cases hx
    exact ⟨v, rfl, h⟩
  | cons m ms ih =>
    obtain ⟨w', hw', hx⟩ := Option.bind_eq_some_iff.1 hx
    obtain ⟨v', hv', h'⟩ := h.step hh hw'
    obtain ⟨u', hu', hu⟩ := ih h' hx
    exact ⟨u', Option.bind_eq_some_iff.2 ⟨v', hv', hu'⟩, hu⟩

/-- The run rule: the same moves are possible, and lead to pools in step. -/
theorem Pool.InStep.exec (hh : ∀ e, (handler e).InStep R (handler' e)) (h : w.InStep R v)
    (ms : List (Move η)) :
    Option.Rel (Pool.InStep R) (EventLoop.exec handler w ms) (EventLoop.exec handler' v ms) := by
  cases hw : EventLoop.exec handler w ms with
  | some u =>
    obtain ⟨u', hu', hu⟩ := h.follow hh hw
    rw [hu']
    exact .some hu
  | none =>
    cases hv : EventLoop.exec handler' v ms with
    | none => exact .none
    | some u' =>
      obtain ⟨u, hu, -⟩ := h.swap.follow (fun e => (hh e).swap) hv
      rw [hw] at hu
      cases hu

namespace Async

inductive Answers (V : α → β → Prop) : Except ε α → Except ε β → Prop where
  | ok {a : α} {b : β} (h : V a b) : Answers V (.ok a) (.ok b)
  | error (e : ε) : Answers V (.error e) (.error e)

def InStep (R : σ → τ → Prop) (V : α → β → Prop) (m : Async σ ι ε ρ α) (m' : Async τ κ ε ρ β) :
    Prop :=
  ∀ k h k' h', (∀ a b, V a b → (k a).InStep R (k' b)) → (∀ e, (h e).InStep R (h' e)) →
    (m k h).InStep R (m' k' h')

variable {V : α → β → Prop} {U : γ → δ → Prop} {m : Async σ ι ε ρ α} {m' : Async τ κ ε ρ β}

theorem InStep.task {m : Async σ ι ε ρ Unit} {m' : Async τ κ ε ρ Unit}
    (h : InStep R (fun _ _ => True) m m') : m.task.InStep R m'.task :=
  h _ _ _ _ (fun _ _ _ => .stop) fun _ => .stop

theorem InStep.pure {a : α} {b : β} (h : V a b) :
    InStep R V (pure a : Async σ ι ε ρ α) (pure b : Async τ κ ε ρ β) := fun _ _ _ _ hk _ =>
  hk a b h

theorem InStep.throw (e : ε) :
    InStep R V (throw e : Async σ ι ε ρ α) (throw e : Async τ κ ε ρ β) := fun _ _ _ _ _ hh => hh e

theorem InStep.bind {f : α → Async σ ι ε ρ γ} {f' : β → Async τ κ ε ρ δ} (hm : InStep R V m m')
    (hf : ∀ a b, V a b → InStep R U (f a) (f' b)) : InStep R U (m >>= f) (m' >>= f') :=
  fun _ _ _ _ hk hh => hm _ _ _ _ (fun a b hab => hf a b hab _ _ _ _ hk hh) hh

theorem InStep.tryCatch {c : ε → Async σ ι ε ρ α} {c' : ε → Async τ κ ε ρ β}
    (hm : InStep R V m m') (hc : ∀ e, InStep R V (c e) (c' e)) :
    InStep R V (tryCatch m c) (tryCatch m' c') :=
  fun _ _ _ _ hk hh => hm _ _ _ _ hk fun e => hc e _ _ _ _ hk hh

theorem InStep.call {l : ι} {l' : κ} {f : σ → σ × Except ε α} {g : τ → τ × Except ε β} {lost : ε}
    (h : ∀ s t, R s t → R (f s).1 (g t).1 ∧ Answers V (f s).2 (g t).2) :
    InStep R V (call l f lost : Async σ ι ε ρ α) (call l' g lost : Async τ κ ε ρ β) := by
  intro k c k' c' hk hc
  refine .call (fun s t hst => (h s t hst).1) (fun s t hst => ?_) (hc lost)
  obtain ⟨-, hanswers⟩ := h s t hst
  generalize (f s).2 = r, (g t).2 = r' at hanswers ⊢
  cases hanswers with
  | ok hab => exact hk _ _ hab
  | error e => exact hc e

end Async

end EventLoop
