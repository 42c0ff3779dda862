import Gherass.EventLoopPrograms

set_option autoImplicit false

/-!
# What a program that runs alone ends with

A program that may stop at any of its pieces is followed piece by piece; each rule takes what holds
at the end from what holds at the end of the rest.
-/
namespace EventLoop.Async

variable {σ ι ε ρ α β : Type} {ok : ι → Bool} {s t : σ} {Q : Except ε α → σ → Prop}

/-- Run alone from `s`, `m` hands on a result and leaves a state with `Q`. -/
def Ends (ok : ι → Bool) (m : Async σ ι ε ρ α) (s : σ) (Q : Except ε α → σ → Prop) : Prop :=
  ∃ r t, Yields ok m s r t ∧ Q r t

theorem Ends.of_yields {m : Async σ ι ε ρ α} {r : Except ε α} (hm : Yields ok m s r t)
    (hq : Q r t) : Ends ok m s Q := ⟨r, t, hm, hq⟩

theorem Ends.mono {m : Async σ ι ε ρ α} {Q' : Except ε α → σ → Prop} (h : Ends ok m s Q)
    (hq : ∀ r t, Q r t → Q' r t) : Ends ok m s Q' := by
  obtain ⟨r, t, hm, hr⟩ := h
  exact ⟨r, t, hm, hq r t hr⟩

theorem Ends.after {m : Async σ ι ε ρ β} {f : β → Async σ ι ε ρ α} {b : β}
    (hm : Yields ok m s (.ok b) t) (h : Ends ok (f b) t Q) : Ends ok (m >>= f) s Q := by
  obtain ⟨r, u, hf, hr⟩ := h
  exact ⟨r, u, hm.bind hf, hr⟩

theorem Ends.thrown {m : Async σ ι ε ρ β} {f : β → Async σ ι ε ρ α} {e : ε}
    (hm : Yields ok m s (.error e) t) (hq : Q (.error e) t) : Ends ok (m >>= f) s Q :=
  ⟨.error e, t, hm.bind_error, hq⟩

theorem Ends.change {f : σ → σ} {g : Unit → Async σ ι ε ρ α} (h : Ends ok (g ()) (f s) Q) :
    Ends ok (Async.change f >>= g) s Q := .after (.change f) h

theorem Ends.seq {m : Async σ ι ε ρ β} {f : β → Async σ ι ε ρ α} {P : σ → Prop}
    (hm : Ends ok m s fun _ t => P t) (hf : ∀ b t, P t → Ends ok (f b) t fun _ t => P t) :
    Ends ok (m >>= f) s fun _ t => P t := by
  obtain ⟨r, t, hm, ht⟩ := hm
  cases r with
  | ok b => exact .after hm (hf b t ht)
  | error e => exact .thrown hm ht

theorem Ends.tryCatch {m : Async σ ι ε ρ Unit} {P : σ → Prop}
    (h : Ends ok m s fun _ t => P t) :
    Ends ok (MonadExcept.tryCatch m fun _ => Pure.pure ()) s fun _ t => P t := by
  obtain ⟨r, t, hm, ht⟩ := h
  cases r with
  | ok => exact ⟨.ok (), t, hm.tryCatch, ht⟩
  | error e => exact ⟨.ok (), t, hm.caught (.pure ()), ht⟩

theorem Ends.handled {m : Async σ ι ε ρ α} {c : ε → Async σ ι ε ρ α} {P : σ → Prop}
    (h : Ends ok m s fun _ t => P t) (hc : ∀ e t, P t → Ends ok (c e) t fun _ t => P t) :
    Ends ok (MonadExcept.tryCatch m c) s fun _ t => P t := by
  obtain ⟨r, t, hm, ht⟩ := h
  cases r with
  | ok a => exact ⟨.ok a, t, hm.tryCatch, ht⟩
  | error e =>
    obtain ⟨r, u, hu, hp⟩ := hc e t ht
    exact ⟨r, u, hm.caught hu, hp⟩

theorem Ends.call {l : ι} {f : σ → σ × Except ε α} {lost : ε} {P : σ → Prop} (hl : ok l = true)
    (h : P (f s).1) :
    Ends ok (Async.call l f lost : Async σ ι ε ρ α) s fun _ t => P t :=
  .of_yields (.call hl f lost) h

theorem Ends.spawn {m : Async σ ι ε ρ Unit} {P : σ → Prop} (h : Ends ok m s fun _ t => P t) :
    Ends ok (Async.spawn m : Async σ ι ε ρ Unit) s fun _ t => P t := by
  obtain ⟨r, t, hm, ht⟩ := h
  exact .of_yields (.spawned hm) ht

theorem Ends.task {m : Async σ ι ε ρ Unit} {P : σ → Prop} (h : Ends ok m s fun _ t => P t) :
    P (m.task.alone ok s).2 := by
  obtain ⟨r, t, hm, ht⟩ := h
  rwa [hm.task]

end EventLoop.Async
