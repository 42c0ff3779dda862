import Gherass.EventLoopLogic

set_option autoImplicit false

/-!
# Rules for the pieces of a program

`Spec` reads a program as its `async` functions compose it; `Yields` is the same for
a program that runs alone.
-/
namespace EventLoop

variable {σ ι ε ρ η α β : Type}

namespace Async

/-- From a state with `P`, `m` keeps the contract and hands on a value with `Q`, or
    an exception with `E`; whatever follows may rely on that. -/
def Spec (C : Contract σ ι) (g : Guard σ ι η) (P : σ → Prop) (m : Async σ ι ε ρ α)
    (Q : α → σ → Prop) (E : ε → σ → Prop) : Prop :=
  ∀ k h s, C.inv s → P s →
    (∀ a t, C.inv t → C.rel s t → Q a t → (k a).Safe C g t) →
    (∀ e t, C.inv t → C.rel s t → E e t → (h e).Safe C g t) → (m k h).Safe C g s

/-- Every effect of `m` keeps the contract, whatever state it meets. -/
def Quiet (C : Contract σ ι) (m : Async σ ι ε ρ α) : Prop :=
  ∀ k h, (m k h).Keeping C fun t => (∃ a, t = k a) ∨ ∃ e, t = h e

section Spec

variable {C : Contract σ ι} {g : Guard σ ι η} {P P' : σ → Prop} {E : ε → σ → Prop}
  {Q : α → σ → Prop} {R : β → σ → Prop}

theorem Spec.safe {m : Async σ ι ε ρ Unit} {F : Unit → σ → Prop} (h : Spec C g P m F E) {s : σ}
    (hs : C.inv s) (hp : P s) : m.task.Safe C g s :=
  h _ _ s hs hp (fun _ _ _ _ _ => trivial) fun _ _ _ _ _ => trivial

theorem Spec.weaken {m : Async σ ι ε ρ α} {Q' : α → σ → Prop} {E' : ε → σ → Prop}
    (h : Spec C g P m Q E) (hp : ∀ s, P' s → P s) (hq : ∀ a s, Q a s → Q' a s)
    (he : ∀ e s, E e s → E' e s) : Spec C g P' m Q' E' := fun k h' s hs hp' hk hh =>
  h k h' s hs (hp s hp') (fun a t ht hr hqa => hk a t ht hr (hq a t hqa))
    fun e t ht hr hee => hh e t ht hr (he e t hee)

theorem Spec.given {φ : Prop} {m : Async σ ι ε ρ α} (h : φ → Spec C g P m Q E) :
    Spec C g (fun s => φ ∧ P s) m Q E := fun k h' s hs hp => h hp.1 k h' s hs hp.2

theorem Spec.keeping {m : Async σ ι ε ρ α} {K : σ → Prop} (h : Spec C g P m Q E)
    (hK : ∀ s, P s → K s) (stable : ∀ s t, C.rel s t → K s → K t) :
    Spec C g P m (fun a s => Q a s ∧ K s) E := fun k h' s hs hp hk hh =>
  h k h' s hs hp (fun a t ht hr hq => hk a t ht hr ⟨hq, stable s t hr (hK s hp)⟩) hh

theorem Spec.pure {a : α} (h : ∀ s, P s → Q a s) :
    Spec C g P (Pure.pure a : Async σ ι ε ρ α) Q E := fun _ _ s hs hp hk _ =>
  hk a s hs (C.refl s) (h s hp)

theorem Spec.throw {e : ε} (h : ∀ s, P s → E e s) :
    Spec C g P (throw e : Async σ ι ε ρ α) Q E := fun _ _ s hs hp _ hh =>
  hh e s hs (C.refl s) (h s hp)

theorem Spec.bind {m : Async σ ι ε ρ β} {f : β → Async σ ι ε ρ α} (hm : Spec C g P m R E)
    (hf : ∀ b, Spec C g (R b) (f b) Q E) : Spec C g P (m >>= f) Q E := by
  intro k h s hs hp hk hh
  refine hm _ _ s hs hp (fun b t ht hr hb => ?_) hh
  exact hf b k h t ht hb (fun a u hu hr' => hk a u hu (C.trans hr hr'))
    fun e u hu hr' => hh e u hu (C.trans hr hr')

theorem Spec.tryCatch {m : Async σ ι ε ρ α} {c : ε → Async σ ι ε ρ α} {F : ε → σ → Prop}
    (hm : Spec C g P m Q F) (hc : ∀ e, Spec C g (F e) (c e) Q E) :
    Spec C g P (MonadExcept.tryCatch m c : Async σ ι ε ρ α) Q E := by
  intro k h s hs hp hk hh
  refine hm _ _ s hs hp hk fun e t ht hr he => ?_
  exact hc e k h t ht he (fun a u hu hr' => hk a u hu (C.trans hr hr'))
    fun e' u hu hr' => hh e' u hu (C.trans hr hr')

theorem Spec.seg {f : σ → σ × α} (h : ∀ s, C.inv s → P s →
      C.inv (f s).1 ∧ C.rel s (f s).1 ∧ Q (f s).2 (f s).1) :
    Spec C g P (seg f : Async σ ι ε ρ α) Q E := by
  intro k _ s hs hp hk _
  obtain ⟨hi, hr, hq⟩ := h s hs hp
  exact ⟨hi, hr, hk _ _ hi hr hq⟩

theorem Spec.look {f : σ → α} (h : ∀ s, C.inv s → P s → Q (f s) s) :
    Spec C g P (look f : Async σ ι ε ρ α) Q E :=
  Spec.seg fun s hs hp => ⟨hs, C.refl s, h s hs hp⟩

theorem Spec.change {f : σ → σ} {F : Unit → σ → Prop} (h : ∀ s, C.inv s → P s →
      C.inv (f s) ∧ C.rel s (f s) ∧ F () (f s)) :
    Spec C g P (change f : Async σ ι ε ρ Unit) F E :=
  Spec.seg h

theorem Spec.note {l : ι} {F : Unit → σ → Prop}
    (h : ∀ s, C.inv s → P s → g.access l s → C.shows l s ∧ F () s) :
    Spec C g P (note l : Async σ ι ε ρ Unit) F E := by
  intro k _ s hs hp hk _ hl
  obtain ⟨hsh, hf⟩ := h s hs hp hl
  exact ⟨hsh, hk () s hs (C.refl s) hf⟩

theorem Spec.call {l : ι} {f : σ → σ × Except ε α} {lost : ε}
    (h : ∀ s t, C.inv s → P s → C.inv t → C.rel s t → g.access l t →
      C.shows l t ∧ C.inv (f t).1 ∧ C.rel t (f t).1 ∧ ∀ u, C.inv u → C.rel (f t).1 u →
        match (f t).2 with | .ok a => Q a u | .error e => E e u)
    (hlost : ∀ s t u, C.inv s → P s → C.inv t → C.rel s t → g.lost l t → C.inv u →
      C.rel t u → E lost u) :
    Spec C g P (call l f lost : Async σ ι ε ρ α) Q E := by
  intro k h' s hs hp hk hh t ht hr
  refine ⟨fun hl => ?_, fun hl u hu hr' =>
    hh lost u hu (C.trans hr hr') (hlost s t u hs hp ht hr hl hu hr')⟩
  obtain ⟨hsh, hi, hrf, hans⟩ := h s t hs hp ht hr hl
  refine ⟨hsh, hi, hrf, fun u hu hr' => ?_⟩
  have later : C.rel s u := C.trans (C.trans hr hrf) hr'
  have ans := hans u hu hr'
  cases hf : (f t).2 with
  | ok a =>
    simp only [hf] at ans ⊢
    exact hk a u hu later ans
  | error e =>
    simp only [hf] at ans ⊢
    exact hh e u hu later ans

theorem Spec.spawn {m : Async σ ι ε ρ Unit} {F : Unit → σ → Prop}
    (hm : ∀ s, C.inv s → P s → m.task.Safe C g s)
    (h : ∀ s t, P s → C.inv t → C.rel s t → F () t) :
    Spec C g P (spawn m : Async σ ι ε ρ Unit) F E := fun _ _ s hs hp hk _ =>
  ⟨hm s hs hp, fun ht hr => hk () _ ht hr (h s _ hp ht hr)⟩

end Spec

section Quiet

variable {C : Contract σ ι}

theorem Quiet.spec {m : Async σ ι ε ρ α} (h : Quiet C m) {g : Guard σ ι η} {P : σ → Prop} :
    Spec C g P m (fun _ _ => True) fun _ _ => True := by
  intro k h' s hs _ hk hh
  refine (h k h').safe hs fun u v hu hv hr => ?_
  rcases hu with ⟨a, rfl⟩ | ⟨e, rfl⟩
  · exact hk a v hv hr trivial
  · exact hh e v hv hr trivial

theorem Quiet.safe {m : Async σ ι ε ρ Unit} (h : Quiet C m) {g : Guard σ ι η} {s : σ}
    (hs : C.inv s) : m.task.Safe C g s := Spec.safe (P := fun _ => True) h.spec hs trivial

theorem Quiet.alone {m : Async σ ι ε ρ Unit} (h : Quiet C m) {ok : ι → Bool} {s : σ}
    (hs : C.inv s) : C.inv (m.task.alone ok s).2 ∧ C.rel s (m.task.alone ok s).2 := by
  refine (h _ _).alone (fun u hu => ?_) hs
  rcases hu with ⟨_, rfl⟩ | ⟨_, rfl⟩
  · rfl
  · rfl

theorem Quiet.pure (a : α) : Quiet C (Pure.pure a : Async σ ι ε ρ α) := fun _ _ =>
  .leaf (.inl ⟨a, rfl⟩)

theorem Quiet.throw (e : ε) : Quiet C (MonadExcept.throw e : Async σ ι ε ρ α) := fun _ _ =>
  .leaf (.inr ⟨e, rfl⟩)

theorem Quiet.bind {m : Async σ ι ε ρ β} {f : β → Async σ ι ε ρ α} (hm : Quiet C m)
    (hf : ∀ b, Quiet C (f b)) : Quiet C (m >>= f) := by
  intro k h
  refine (hm _ h).trans fun u hu => ?_
  rcases hu with ⟨b, rfl⟩ | hu
  · exact hf b k h
  · exact .leaf (.inr hu)

theorem Quiet.tryCatch {m : Async σ ι ε ρ α} {c : ε → Async σ ι ε ρ α} (hm : Quiet C m)
    (hc : ∀ e, Quiet C (c e)) :
    Quiet C (MonadExcept.tryCatch m c : Async σ ι ε ρ α) := by
  intro k h
  refine (hm k _).trans fun u hu => ?_
  rcases hu with hu | ⟨e, rfl⟩
  · exact .leaf (.inl hu)
  · exact hc e k h

theorem Quiet.seg {f : σ → σ × α} (h : C.Keeps fun s => (f s).1) :
    Quiet C (seg f : Async σ ι ε ρ α) := fun _ _ =>
  .seg h fun s => .leaf (.inl ⟨(f s).2, rfl⟩)

theorem Quiet.look (f : σ → α) : Quiet C (look f : Async σ ι ε ρ α) := Quiet.seg C.keeps_id

theorem Quiet.change {f : σ → σ} (h : C.Keeps f) :
    Quiet C (change f : Async σ ι ε ρ Unit) := Quiet.seg h

theorem Quiet.note {l : ι} (h : ∀ s, C.inv s → C.shows l s) :
    Quiet C (note l : Async σ ι ε ρ Unit) := fun _ _ => .note h (.leaf (.inl ⟨(), rfl⟩))

theorem Quiet.call {l : ι} {f : σ → σ × Except ε α} {lost : ε} (h : C.Keeps fun s => (f s).1)
    (hl : ∀ s, C.inv s → C.shows l s) : Quiet C (call l f lost : Async σ ι ε ρ α) := by
  refine fun k h' => .call h hl (fun s => ?_) (.leaf (.inr ⟨lost, rfl⟩))
  cases (f s).2 with
  | ok a => exact .leaf (.inl ⟨a, rfl⟩)
  | error e => exact .leaf (.inr ⟨e, rfl⟩)

theorem Quiet.spawn {m : Async σ ι ε ρ Unit} (h : Quiet C m) :
    Quiet C (spawn m : Async σ ι ε ρ Unit) := by
  refine fun k h' => .fork ((h _ _).trans fun u hu => ?_) (.leaf (.inl ⟨(), rfl⟩))
  rcases hu with ⟨_, rfl⟩ | ⟨_, rfl⟩
  · exact .leaf rfl
  · exact .leaf rfl

end Quiet

/-- Run alone from `s`, `m` hands on `r` and leaves the state `t`. -/
def Yields (ok : ι → Bool) (m : Async σ ι ε ρ α) (s : σ) (r : Except ε α) (t : σ) : Prop :=
  ∀ k h, (m k h).alone ok s = (match r with | .ok a => k a | .error e => h e).alone ok t

section Yields

variable {ok : ι → Bool} {s t u : σ}

theorem Yields.task {m : Async σ ι ε ρ Unit} {r : Except ε Unit} (h : Yields ok m s r t) :
    (m.task.alone ok s).2 = t := by
  refine (congrArg Prod.snd (h _ _)).trans ?_
  cases r with
  | ok | error => rfl

theorem Yields.result {m : Async σ ι ε ρ ρ} {r : ρ} (h : Yields ok m s (.ok r) t) :
    m.result.alone ok s = (some r, t) := h _ _

theorem Yields.task_bind {m : Async σ ι ε ρ β} {f : β → Async σ ι ε ρ Unit} {b : β}
    (h : Yields ok m s (.ok b) t) : (m >>= f).task.alone ok s = (f b).task.alone ok t := h _ _

theorem Yields.task_try {m : Async σ ι ε ρ β} {f : β → Async σ ι ε ρ Unit} {b : β}
    (h : Yields ok m s (.ok b) t) :
    (MonadExcept.tryCatch (m >>= f) fun _ : ε => Pure.pure ()).task.alone ok s =
      (f b).task.alone ok t := h _ _

theorem Yields.pure (a : α) : Yields ok (Pure.pure a : Async σ ι ε ρ α) s (.ok a) s :=
  fun _ _ => rfl

theorem Yields.throw (e : ε) : Yields ok (throw e : Async σ ι ε ρ α) s (.error e) s :=
  fun _ _ => rfl

theorem Yields.bind {m : Async σ ι ε ρ β} {f : β → Async σ ι ε ρ α} {b : β}
    {r : Except ε α} (hm : Yields ok m s (.ok b) t) (hf : Yields ok (f b) t r u) :
    Yields ok (m >>= f) s r u := fun k h => (hm _ _).trans (hf k h)

theorem Yields.bind_error {m : Async σ ι ε ρ β} {f : β → Async σ ι ε ρ α} {e : ε}
    (hm : Yields ok m s (.error e) t) : Yields ok (m >>= f) s (.error e) t :=
  fun _ h => hm _ h

theorem Yields.tryCatch {m : Async σ ι ε ρ α} {c : ε → Async σ ι ε ρ α} {a : α}
    (hm : Yields ok m s (.ok a) t) :
    Yields ok (MonadExcept.tryCatch m c : Async σ ι ε ρ α) s (.ok a) t :=
  fun k _ => hm k _

theorem Yields.caught {m : Async σ ι ε ρ α} {c : ε → Async σ ι ε ρ α} {e : ε}
    {r : Except ε α} (hm : Yields ok m s (.error e) t) (hc : Yields ok (c e) t r u) :
    Yields ok (MonadExcept.tryCatch m c : Async σ ι ε ρ α) s r u :=
  fun k h => (hm _ _).trans (hc k h)

theorem Yields.look (f : σ → α) : Yields ok (look f : Async σ ι ε ρ α) s (.ok (f s)) s :=
  fun _ _ => rfl

theorem Yields.change (f : σ → σ) :
    Yields ok (change f : Async σ ι ε ρ Unit) s (.ok ()) (f s) := fun _ _ => rfl

theorem Yields.note (l : ι) : Yields ok (note l : Async σ ι ε ρ Unit) s (.ok ()) s :=
  fun _ _ => rfl

theorem Yields.call {l : ι} (hl : ok l = true) (f : σ → σ × Except ε α) (lost : ε) :
    Yields ok (call l f lost : Async σ ι ε ρ α) s (f s).2 (f s).1 := by
  intro k h
  cases hr : (f s).2 with
  | ok | error => simp only [call_run, Task.alone, hl, if_true, hr]

theorem Yields.call_answer {l : ι} (hl : ok l = true) {f : σ → σ × Except ε α} {lost : ε}
    {r : Except ε α} (hr : (f s).2 = r) : Yields ok (Async.call l f lost : Async σ ι ε ρ α) s r
      (f s).1 :=
  hr ▸ .call hl f lost

theorem Yields.call_eq {l : ι} (hl : ok l = true) {f : σ → σ × Except ε α} {lost : ε}
    {r : Except ε α} (hf : f s = (t, r)) :
    Yields ok (Async.call l f lost : Async σ ι ε ρ α) s r t := by
  have := Yields.call (ρ := ρ) (s := s) hl f lost
  rwa [hf] at this

theorem Yields.call_lost {l : ι} (hl : ok l = false) (f : σ → σ × Except ε α) (lost : ε) :
    Yields ok (Async.call l f lost : Async σ ι ε ρ α) s (.error lost) s := by
  intro k h
  simp only [call_run, Task.alone, hl, if_false, Bool.false_eq_true]

theorem Yields.spawn (m : Async σ ι ε ρ Unit) :
    Yields ok (spawn m : Async σ ι ε ρ Unit) s (.ok ()) (m.task.alone ok s).2 :=
  fun _ _ => rfl

theorem Yields.spawned {m : Async σ ι ε ρ Unit} {r : Except ε Unit} (h : Yields ok m s r t) :
    Yields ok (Async.spawn m : Async σ ι ε ρ Unit) s (.ok ()) t := h.task ▸ .spawn m

end Yields

end Async

end EventLoop
