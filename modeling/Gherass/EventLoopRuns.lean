import Gherass.EventLoop

set_option autoImplicit false

namespace EventLoop

variable {σ ι ρ η : Type}

/-- A condition on the moves of a run: on the event and the state when a program
    starts, on the label and the state when a call takes effect or a note is passed,
    and when a call is lost. -/
structure Guard (σ ι η : Type) where
  start : η → σ → Prop
  access : ι → σ → Prop
  lost : ι → σ → Prop

namespace Guard

def free : Guard σ ι η := ⟨fun _ _ => True, fun _ _ => True, fun _ _ => True⟩

/-- Calls take effect and notes are passed only where `p` allows it. -/
def landing (p : ι → σ → Bool) : Guard σ ι η :=
  ⟨fun _ _ => True, fun l s => p l s = true, fun _ _ => True⟩

/-- The same, and no call is lost. -/
def lossless (p : ι → σ → Bool) : Guard σ ι η :=
  ⟨fun _ _ => True, fun l s => p l s = true, fun _ _ => False⟩

/-- Calls take effect and notes are passed only where `p` allows it, and only events that
    `e` allows start. -/
def starting (e : η → Bool) (p : ι → σ → Bool) : Guard σ ι η :=
  ⟨fun x _ => e x = true, fun l s => p l s = true, fun _ _ => True⟩

/-- The conditions on all three kinds of moves, as they are computed. -/
def computed (e : η → σ → Bool) (a l : ι → σ → Bool) : Guard σ ι η :=
  ⟨fun x s => e x s = true, fun x s => a x s = true, fun x s => l x s = true⟩

class Checks (g : Guard σ ι η) where
  start : ∀ e s, Decidable (g.start e s)
  access : ∀ l s, Decidable (g.access l s)
  lost : ∀ l s, Decidable (g.lost l s)

instance (p : ι → σ → Bool) : Checks (landing p : Guard σ ι η) where
  start _ _ := .isTrue trivial
  access l s := inferInstanceAs (Decidable (p l s = true))
  lost _ _ := .isTrue trivial

instance (e : η → Bool) (p : ι → σ → Bool) : Checks (starting e p : Guard σ ι η) where
  start x _ := inferInstanceAs (Decidable (e x = true))
  access l s := inferInstanceAs (Decidable (p l s = true))
  lost _ _ := .isTrue trivial

instance (p : ι → σ → Bool) : Checks (lossless p : Guard σ ι η) where
  start _ _ := .isTrue trivial
  access l s := inferInstanceAs (Decidable (p l s = true))
  lost _ _ := .isFalse id

instance (e : η → σ → Bool) (a l : ι → σ → Bool) : Checks (computed e a l : Guard σ ι η) where
  start x s := inferInstanceAs (Decidable (e x s = true))
  access x s := inferInstanceAs (Decidable (a x s = true))
  lost x s := inferInstanceAs (Decidable (l x s = true))

end Guard

/-- The notes that `t` passes before its next await meet `p`. -/
def Task.Notes (p : ι → σ → Prop) : Task σ ι ρ → σ → Prop
  | .done _, _ => True
  | .stop, _ => True
  | .seg f k, s => (k s).Notes p (f s)
  | .note l k, s => p l s ∧ k.Notes p s
  | .call _ _ _ _, _ => True
  | .fork t u, s => t.Notes p s ∧ u.Notes p (t.settle s).1

/-- The call that is awaited, if it is one, meets `p`. -/
def Slot.CallMeets (p : ι → σ → Prop) (s : σ) : Option (Slot σ ι ρ) → Prop
  | some (.asked (.call l _ _ _)) => p l s
  | _ => True

def Slot.AnswerMeets (p : ι → σ → Prop) (s : σ) : Option (Slot σ ι ρ) → Prop
  | some (.answered t) => t.Notes p s
  | _ => True

def Meets (handler : η → Task σ ι ρ) (g : Guard σ ι η) (w : Pool σ ι ρ) : Move η → Prop
  | .start e => g.start e w.state ∧ (handler e).Notes g.access w.state
  | .serve i => Slot.CallMeets g.access w.state w.slots[i]?
  | .lose i => Slot.CallMeets g.lost w.state w.slots[i]?
  | .resume i => Slot.AnswerMeets g.access w.state w.slots[i]?

def Meeting (handler : η → Task σ ι ρ) (g : Guard σ ι η) : Pool σ ι ρ → List (Move η) → Prop
  | _, [] => True
  | w, m :: ms => Meets handler g w m ∧
    match step handler w m with
    | some v => Meeting handler g v ms
    | none => True

section Decidable

variable {p : ι → σ → Prop} (hp : ∀ l s, Decidable (p l s))

def Task.decidableNotes :
    (t : Task σ ι ρ) → (s : σ) → Decidable (t.Notes p s)
  | .done _, _ => .isTrue trivial
  | .stop, _ => .isTrue trivial
  | .seg f k, s => decidableNotes (k s) (f s)
  | .note l k, s => @instDecidableAnd _ _ (hp l s) (decidableNotes k s)
  | .call _ _ _ _, _ => .isTrue trivial
  | .fork t u, s => @instDecidableAnd _ _ (decidableNotes t s) (decidableNotes u _)

def Slot.decidableCallMeets (s : σ) :
    (x : Option (Slot σ ι ρ)) → Decidable (Slot.CallMeets p s x)
  | some (.asked (.call l _ _ _)) => hp l s
  | some (.asked (.done _)) => .isTrue trivial
  | some (.asked .stop) => .isTrue trivial
  | some (.asked (.seg _ _)) => .isTrue trivial
  | some (.asked (.note _ _)) => .isTrue trivial
  | some (.asked (.fork _ _)) => .isTrue trivial
  | some (.answered _) => .isTrue trivial
  | none => .isTrue trivial

def Slot.decidableAnswerMeets (s : σ) :
    (x : Option (Slot σ ι ρ)) → Decidable (Slot.AnswerMeets p s x)
  | some (.answered t) => t.decidableNotes hp s
  | some (.asked _) => .isTrue trivial
  | none => .isTrue trivial

instance (handler : η → Task σ ι ρ) (g : Guard σ ι η) [g.Checks] (w : Pool σ ι ρ) :
    (m : Move η) → Decidable (Meets handler g w m)
  | .start e => @instDecidableAnd _ _ (Guard.Checks.start e w.state)
      ((handler e).decidableNotes Guard.Checks.access w.state)
  | .serve _ => Slot.decidableCallMeets Guard.Checks.access _ _
  | .lose _ => Slot.decidableCallMeets Guard.Checks.lost _ _
  | .resume _ => Slot.decidableAnswerMeets Guard.Checks.access _ _

def decidableMeeting (handler : η → Task σ ι ρ) (g : Guard σ ι η) [g.Checks] :
    (w : Pool σ ι ρ) → (ms : List (Move η)) → Decidable (Meeting handler g w ms)
  | _, [] => .isTrue trivial
  | w, m :: ms =>
    have : Decidable (match step handler w m with
        | some v => Meeting handler g v ms
        | none => True) :=
      match step handler w m with
      | some v => decidableMeeting handler g v ms
      | none => .isTrue trivial
    inferInstanceAs (Decidable (_ ∧ _))

instance (handler : η → Task σ ι ρ) (g : Guard σ ι η) [g.Checks] (w : Pool σ ι ρ)
    (ms : List (Move η)) : Decidable (Meeting handler g w ms) := decidableMeeting handler g w ms

end Decidable

/-- The runs all of whose moves meet the guard. -/
inductive Run (handler : η → Task σ ι ρ) (g : Guard σ ι η) : Pool σ ι ρ → Pool σ ι ρ → Prop where
  | refl (w : Pool σ ι ρ) : Run handler g w w
  | next {u v w : Pool σ ι ρ} (m : Move η) (head : Run handler g u v)
      (meets : Meets handler g v m) (move : step handler v m = some w) : Run handler g u w

variable {handler : η → Task σ ι ρ} {g : Guard σ ι η} {u v w : Pool σ ι ρ}

theorem Run.trans (h : Run handler g u v) (h' : Run handler g v w) : Run handler g u w := by
  induction h' with
  | refl => exact h
  | next m _ hm hs ih => exact .next m ih hm hs

theorem Task.notes_mono {p q : ι → σ → Prop} (hpq : ∀ l s, p l s → q l s) (t : Task σ ι ρ)
    (s : σ) (h : t.Notes p s) : t.Notes q s := by
  induction t generalizing s with
  | done | stop | call => trivial
  | seg f k ih => exact ih s (f s) h
  | note l k ih => exact ⟨hpq l s h.1, ih s h.2⟩
  | fork t u iht ihu => exact ⟨iht s h.1, ihu _ h.2⟩

theorem Slot.callMeets_mono {p q : ι → σ → Prop} (hpq : ∀ l s, p l s → q l s) (s : σ)
    (x : Option (Slot σ ι ρ)) (h : Slot.CallMeets p s x) : Slot.CallMeets q s x := by
  unfold Slot.CallMeets at h ⊢
  split
  · exact hpq _ s h
  · trivial

theorem Slot.answerMeets_mono {p q : ι → σ → Prop} (hpq : ∀ l s, p l s → q l s) (s : σ)
    (x : Option (Slot σ ι ρ)) (h : Slot.AnswerMeets p s x) : Slot.AnswerMeets q s x := by
  unfold Slot.AnswerMeets at h ⊢
  split
  · exact Task.notes_mono hpq _ s h
  · trivial

theorem Meets.mono {g' : Guard σ ι η} (hs : ∀ e s, g.start e s → g'.start e s)
    (ha : ∀ l s, g.access l s → g'.access l s) (hl : ∀ l s, g.lost l s → g'.lost l s)
    {m : Move η} (h : Meets handler g w m) : Meets handler g' w m := by
  cases m with
  | start e => exact ⟨hs _ _ h.1, Task.notes_mono ha _ _ h.2⟩
  | serve i => exact Slot.callMeets_mono ha _ _ h
  | lose i => exact Slot.callMeets_mono hl _ _ h
  | resume i => exact Slot.answerMeets_mono ha _ _ h

theorem Run.mono {g' : Guard σ ι η} (hs : ∀ e s, g.start e s → g'.start e s)
    (ha : ∀ l s, g.access l s → g'.access l s) (hl : ∀ l s, g.lost l s → g'.lost l s)
    (h : Run handler g u w) : Run handler g' u w := by
  induction h with
  | refl => exact .refl _
  | next m _ hm hstep ih => exact .next m ih (hm.mono hs ha hl) hstep

theorem Run.of_exec {ms : List (Move η)} (hm : Meeting handler g u ms)
    (hx : exec handler u ms = some w) : Run handler g u w := by
  induction ms generalizing u with
  | nil =>
    cases hx
    exact .refl _
  | cons m ms ih =>
    obtain ⟨v, hv, hx⟩ := Option.bind_eq_some_iff.1 hx
    simp only [Meeting, hv] at hm
    exact Run.trans (.next m (.refl u) hm.1 hv) (ih hm.2 hx)

theorem Task.notes_true (t : Task σ ι ρ) (s : σ) : t.Notes (fun _ _ => True) s := by
  induction t generalizing s with
  | done | stop | call => trivial
  | seg f k ih => exact ih s (f s)
  | note l k ih => exact ⟨trivial, ih s⟩
  | fork t u iht ihu => exact ⟨iht s, ihu _⟩

theorem Slot.callMeets_true (s : σ) (x : Option (Slot σ ι ρ)) :
    Slot.CallMeets (fun _ _ => True) s x := by
  unfold Slot.CallMeets
  split
  · trivial
  · trivial

theorem Slot.answerMeets_true (s : σ) (x : Option (Slot σ ι ρ)) :
    Slot.AnswerMeets (fun _ _ => True) s x := by
  unfold Slot.AnswerMeets
  split
  · exact Task.notes_true _ s
  · trivial

theorem meets_free (m : Move η) : Meets handler .free w m := by
  cases m with
  | start e => exact ⟨trivial, Task.notes_true _ _⟩
  | serve i => exact Slot.callMeets_true w.state _
  | lose i => exact Slot.callMeets_true w.state _
  | resume i => exact Slot.answerMeets_true w.state _

theorem Run.of_exec_free {ms : List (Move η)} (hx : exec handler u ms = some w) :
    Run handler .free u w := by
  induction ms generalizing u with
  | nil =>
    cases hx
    exact .refl _
  | cons m ms ih =>
    obtain ⟨v, hv, hx⟩ := Option.bind_eq_some_iff.1 hx
    exact Run.trans (.next m (.refl u) (meets_free m) hv) (ih hx)

def Pool.after (handler : η → Task σ ι ρ) (w : Pool σ ι ρ) (ms : List (Move η)) : Pool σ ι ρ :=
  (exec handler w ms).getD w

theorem exec_after {ms : List (Move η)} (h : (exec handler w ms).isSome) :
    exec handler w ms = some (w.after handler ms) := by
  obtain ⟨v, hv⟩ := Option.isSome_iff_exists.1 h
  rw [Pool.after, hv, Option.getD_some]

theorem Run.after {ms : List (Move η)} (hm : Meeting handler g w ms)
    (h : (exec handler w ms).isSome) : Run handler g w (w.after handler ms) :=
  .of_exec hm (exec_after h)

theorem Run.after_free {ms : List (Move η)} (h : (exec handler w ms).isSome) :
    Run handler .free w (w.after handler ms) := .of_exec_free (exec_after h)

end EventLoop
