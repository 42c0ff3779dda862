import Gherass.EventLoopPrograms
import Mathlib.Algebra.Order.Group.Int
import Mathlib.Algebra.Order.Group.Unbundled.Basic
import Mathlib.Algebra.Order.Monoid.Defs
import Mathlib.Algebra.Order.Pi
import Mathlib.Tactic.Abel

set_option autoImplicit false

/-!
# What the programs in flight still owe

A ledger gives every event a charge. Each program is checked alone: it may lower what it
owes only as far as it has paid. The run rule adds up what all of them owe.
-/
namespace EventLoop

variable {σ ι ε ρ η α β M : Type} [AddCommGroup M] [PartialOrder M]

/-- `inv s paid` is what the state is like when `paid` has been paid; `rel` relates it to
    the later states. `limit` holds of all that has been charged, so that what is paid and
    what a program still owes are within it: where nothing is charged, a program that takes
    on a debt knows that no more has been paid back than was taken on. -/
structure Ledger (σ η M : Type) [AddCommGroup M] [PartialOrder M] where
  charge : η → M
  inv : σ → M → Prop
  rel : σ → σ → Prop
  limit : M → Prop := fun _ => True
  refl : ∀ s, rel s s
  trans : ∀ {s t u}, rel s t → rel t u → rel s u
  limit_le : ∀ {m n}, n ≤ m → limit m → limit n := by intros; trivial
  limit_charge : ∀ {m} e, limit m → limit (m + charge e) := by intros; trivial

variable (L : Ledger σ η M) (g : Guard σ ι η)

def Ledger.charged : List (Move η) → M
  | [] => 0
  | .start e :: ms => L.charge e + charged ms
  | _ :: ms => charged ms

theorem Ledger.charged_cons (m : Move η) (ms : List (Move η)) :
    L.charged (m :: ms) = L.charged [m] + L.charged ms := by
  cases m with
  | start e => simp only [charged, add_zero]
  | serve | lose | resume => simp only [charged, zero_add]

theorem Ledger.charged_zero (h : ∀ e, L.charge e = 0) (ms : List (Move η)) :
    L.charged ms = 0 := by
  induction ms with
  | nil => rfl
  | cons m ms ih =>
    rw [charged_cons, ih, add_zero]
    cases m with
    | start e => simp only [charged, h, add_zero]
    | serve | lose | resume => rfl

/-- Run from `s` when `p` is paid, the task pays what it owes before it ends. -/
def Task.Pays : Task σ ι ρ → σ → M → M → Prop
  | .done _, _, _, a => a = 0
  | .stop, _, _, a => a = 0
  | .seg f k, s, p, a => ∃ b, 0 ≤ b ∧ L.inv (f s) (p + a - b) ∧ L.rel s (f s) ∧
      (k s).Pays (f s) (p + a - b) b
  | .note l k, s, p, a => g.access l s → k.Pays s p a
  | .fork x y, s, p, a => ∃ b c, 0 ≤ b ∧ 0 ≤ c ∧ a = b + c ∧ x.Pays s p b ∧
      ∀ q, L.inv (x.settle s).1 q → L.limit (q + c) → L.rel s (x.settle s).1 →
        y.Pays (x.settle s).1 q c
  | .call l f k lost, s, _, a => ∀ t q, L.inv t q → L.limit (q + a) → L.rel s t →
      (g.access l t → ∃ b, 0 ≤ b ∧ L.inv (f t) (q + a - b) ∧ L.rel t (f t) ∧
        ∀ u r, L.inv u r → L.limit (r + b) → L.rel (f t) u → (k t).Pays u r b) ∧
      (g.lost l t → ∃ b, 0 ≤ b ∧ L.inv t (q + a - b) ∧
        ∀ u r, L.inv u r → L.limit (r + b) → L.rel t u → lost.Pays u r b)

/-- A program in flight owes `a`, whatever the state when it goes on. -/
def Slot.Owes : Slot σ ι ρ → σ → M → Prop
  | .asked t, s, a => 0 ≤ a ∧ ∀ u q, L.inv u q → L.limit (q + a) → L.rel s u → t.Pays L g u q a
  | .answered t, s, a =>
    0 ≤ a ∧ ∀ u q, L.inv u q → L.limit (q + a) → L.rel s u → t.Pays L g u q a

namespace Ledger

inductive Owed (s : σ) : List (Slot σ ι ρ) → M → Prop where
  | nil : Owed s [] 0
  | cons {x : Slot σ ι ρ} {xs : List (Slot σ ι ρ)} {a m : M} (head : x.Owes L g s a)
      (tail : Owed s xs m) : Owed s (x :: xs) (a + m)

/-- The pool owes part of `due`, the rest of which is paid. -/
def Holds (w : Pool σ ι ρ) (due : M) : Prop :=
  L.limit due ∧ ∃ m, L.Owed g w.state w.slots m ∧ L.inv w.state (due - m)

def Balances (handler : η → Task σ ι ρ) : Prop :=
  ∀ e s p, L.inv s p → L.limit (p + L.charge e) → g.start e s →
    (handler e).Pays L g s p (L.charge e)

variable {L g} {handler : η → Task σ ι ρ} {w v : Pool σ ι ρ} {s t : σ} {p a : M}

theorem owes_later {x : Slot σ ι ρ} (h : x.Owes L g s a) (hst : L.rel s t) : x.Owes L g t a := by
  cases x with
  | asked y | answered y => exact ⟨h.1, fun u q hu hl hr => h.2 u q hu hl (L.trans hst hr)⟩

theorem Owed.later {xs : List (Slot σ ι ρ)} (h : L.Owed g s xs a) (hst : L.rel s t) :
    L.Owed g t xs a := by
  induction h with
  | nil => exact .nil
  | cons head _ ih => exact .cons (owes_later head hst) ih

theorem Owed.append {xs ys : List (Slot σ ι ρ)} {b : M} (h : L.Owed g s xs a)
    (h' : L.Owed g s ys b) : L.Owed g s (xs ++ ys) (a + b) := by
  induction h with
  | nil =>
    rw [zero_add]
    exact h'
  | cons head _ ih =>
    rw [add_assoc]
    exact .cons head ih

theorem Owed.nonneg [IsOrderedAddMonoid M] {xs : List (Slot σ ι ρ)} (h : L.Owed g s xs a) :
    0 ≤ a := by
  induction h with
  | nil => exact le_rfl
  | @cons x xs b m head tail ih =>
    have hb : 0 ≤ b := by
      cases x with
      | asked y | answered y => exact head.1
    exact add_nonneg hb ih

theorem Owed.at {xs : List (Slot σ ι ρ)} {m : M} (h : L.Owed g s xs m) {i : ℕ} {x : Slot σ ι ρ}
    (hx : xs[i]? = some x) : ∃ b rest, x.Owes L g s b ∧ m = b + rest ∧
      L.Owed g s (xs.eraseIdx i) rest ∧ ∀ t y c, L.rel s t → y.Owes L g t c →
        L.Owed g t (xs.set i y) (c + rest) := by
  induction h generalizing i with
  | nil => cases hx
  | @cons z xs b m head tail ih =>
    cases i with
    | zero =>
      cases hx
      exact ⟨b, m, head, rfl, tail, fun t y c hr hy => .cons hy (tail.later hr)⟩
    | succ i =>
      obtain ⟨c, rest, hc, rfl, herase, hset⟩ := ih hx
      refine ⟨c, b + rest, hc, add_left_comm .., .cons head herase, fun t y d hr hy => ?_⟩
      rw [add_left_comm]
      exact .cons (owes_later head hr) (hset t y d hr hy)

section Ordered

variable [IsOrderedAddMonoid M]

theorem pays_settle {x : Task σ ι ρ} (h : x.Pays L g s p a) (hp : L.inv s p)
    (hl : L.limit (p + a)) (ha : 0 ≤ a) (hn : x.Notes g.access s) :
    ∃ left, L.inv (x.settle s).1 (p + a - left) ∧ L.rel s (x.settle s).1 ∧
      L.Owed g (x.settle s).1 ((x.settle s).2.map .asked) left := by
  induction x generalizing s p a with
  | done | stop =>
    obtain rfl : a = 0 := h
    refine ⟨0, ?_, L.refl s, .nil⟩
    rw [add_zero, sub_zero]
    exact hp
  | seg f k ih =>
    obtain ⟨b, hb, hi, hr, hk⟩ := h
    obtain ⟨left, ti, tr, town⟩ := ih s hk hi (by rwa [sub_add_cancel]) hb hn
    refine ⟨left, ?_, L.trans hr tr, town⟩
    rwa [sub_add_cancel] at ti
  | note l k ih => exact ih (h hn.1) hp hl ha hn.2
  | fork x y ihx ihy =>
    obtain ⟨b, c, hb, hc, rfl, hx, hy⟩ := h
    have head : L.limit (p + b) := L.limit_le (by
      rw [← add_assoc]
      exact le_add_of_nonneg_right hc) hl
    obtain ⟨left, xi, xr, xown⟩ := ihx hx hp head hb hn.1
    have tail : L.limit (p + b - left + c) := by
      have : p + b - left + c = p + (b + c) - left := by abel
      rw [this]
      exact L.limit_le (sub_le_self _ xown.nonneg) hl
    obtain ⟨left', yi, yr, yown⟩ := ihy (hy _ xi tail xr) xi tail hc hn.2
    refine ⟨left + left', ?_, L.trans xr yr, ?_⟩
    · have : p + b - left + c - left' = p + (b + c) - (left + left') := by abel
      exact this ▸ yi
    · rw [Task.settle, List.map_append]
      exact (xown.later yr).append yown
  | call l f k lost =>
    refine ⟨a + 0, ?_, L.refl s, .cons ⟨ha, fun u q hu _ hr => ?_⟩ .nil⟩
    · rw [add_zero, add_sub_cancel_right]
      exact hp
    · exact fun t r ht hl' hr' => h t r ht hl' (L.trans hr hr')

theorem Holds.launch {xs : List (Slot σ ι ρ)} {rest due : M} {x : Task σ ι ρ}
    (hdue : L.limit due) (hxs : L.Owed g w.state xs rest)
    (hp : L.inv w.state (due - (a + rest))) (ha : 0 ≤ a)
    (hx : L.limit (due - (a + rest) + a) → x.Pays L g w.state (due - (a + rest)) a)
    (hn : x.Notes g.access w.state) : L.Holds g (w.launch xs x) due := by
  have within : L.limit (due - (a + rest) + a) := by
    have : due - (a + rest) + a = due - rest := by abel
    rw [this]
    exact L.limit_le (sub_le_self _ hxs.nonneg) hdue
  obtain ⟨left, hi, hr, hown⟩ := pays_settle (hx within) hp within ha hn
  refine ⟨hdue, rest + left, (hxs.later hr).append hown, ?_⟩
  have : due - (a + rest) + a - left = due - (rest + left) := by abel
  exact this ▸ hi

theorem Holds.step {m : Move η} {due : M} (hL : L.Balances g handler)
    (hcharge : ∀ e, 0 ≤ L.charge e) (h : L.Holds g w due)
    (hm : Meets handler g w m) (hs : step handler w m = some v) :
    L.Holds g v (due + L.charged [m]) := by
  obtain ⟨hdue, owed, hslots, hinv⟩ := h
  cases m with
  | start e =>
    cases hs
    have hsame : due + L.charge e - (L.charge e + owed) = due - owed := by abel
    simp only [charged, add_zero]
    refine .launch (L.limit_charge e hdue) hslots (a := L.charge e) ?_ (hcharge e) ?_ hm.2
    · exact hsame ▸ hinv
    · exact fun hl => hL e _ _ (hsame ▸ hinv) hl hm.1
  | serve i =>
    simp only [EventLoop.step] at hs
    split at hs
    case h_2 => cases hs
    rename_i l f k lost hx
    simp only [Meets, hx] at hm
    cases hs
    obtain ⟨a, rest, ha, rfl, hrest, hset⟩ := hslots.at hx
    have within : L.limit (due - (a + rest) + a) := by
      have : due - (a + rest) + a = due - rest := by abel
      rw [this]
      exact L.limit_le (sub_le_self _ hrest.nonneg) hdue
    obtain ⟨b, hb, hi, hr, hk⟩ :=
      (ha.2 _ _ hinv within (L.refl _) _ _ hinv within (L.refl _)).1 hm
    simp only [charged, add_zero]
    refine ⟨hdue, b + rest, hset _ _ b hr ⟨hb, hk⟩, ?_⟩
    have : due - (a + rest) + a - b = due - (b + rest) := by abel
    exact this ▸ hi
  | lose i =>
    simp only [EventLoop.step] at hs
    split at hs
    case h_2 => cases hs
    rename_i l f k lost hx
    simp only [Meets, hx] at hm
    cases hs
    obtain ⟨a, rest, ha, rfl, hrest, hset⟩ := hslots.at hx
    have within : L.limit (due - (a + rest) + a) := by
      have : due - (a + rest) + a = due - rest := by abel
      rw [this]
      exact L.limit_le (sub_le_self _ hrest.nonneg) hdue
    obtain ⟨b, hb, hi, hk⟩ :=
      (ha.2 _ _ hinv within (L.refl _) _ _ hinv within (L.refl _)).2 hm
    simp only [charged, add_zero]
    refine ⟨hdue, b + rest, hset _ _ b (L.refl _) ⟨hb, hk⟩, ?_⟩
    have : due - (a + rest) + a - b = due - (b + rest) := by abel
    exact this ▸ hi
  | resume i =>
    simp only [EventLoop.step] at hs
    split at hs
    case h_2 => cases hs
    rename_i x hx
    simp only [Meets, hx] at hm
    cases hs
    obtain ⟨a, rest, ha, rfl, herase, -⟩ := hslots.at hx
    simp only [charged, add_zero]
    exact .launch hdue herase hinv ha.1 (fun hl => ha.2 _ _ hinv hl (L.refl _)) hm

theorem Holds.run {ms : List (Move η)} {due : M} (hL : L.Balances g handler)
    (hcharge : ∀ e, 0 ≤ L.charge e) (h : L.Holds g w due) (hm : Meeting handler g w ms)
    (hx : exec handler w ms = some v) : L.Holds g v (due + L.charged ms) := by
  induction ms generalizing w due with
  | nil =>
    cases hx
    simpa only [charged, add_zero] using h
  | cons m ms ih =>
    obtain ⟨u, hu, hx⟩ := Option.bind_eq_some_iff.1 hx
    simp only [Meeting, hu] at hm
    rw [charged_cons, ← add_assoc]
    exact ih (h.step hL hcharge hm.1 hu) hm.2 hx

end Ordered

theorem Holds.uncharged [IsOrderedAddMonoid M] {due : M} (hL : L.Balances g handler)
    (hcharge : ∀ e, L.charge e = 0) (h : L.Holds g w due) (hrun : Run handler g w v) :
    L.Holds g v due := by
  induction hrun with
  | refl => exact h
  | next m _ hm hs ih =>
    have next := ih.step hL (fun e => (hcharge e).ge) hm hs
    rwa [L.charged_zero hcharge, add_zero] at next

theorem Holds.idle {paid : M} (hw : w.slots = []) (hl : L.limit paid)
    (hinv : L.inv w.state paid) : L.Holds g w paid := ⟨hl, 0, hw ▸ .nil, by rwa [sub_zero]⟩

theorem Holds.settled {due : M} (h : L.Holds g w due) (hw : w.slots = []) :
    L.inv w.state due := by
  obtain ⟨-, m, hm, hi⟩ := h
  rw [hw] at hm
  cases hm
  rwa [sub_zero] at hi

theorem Holds.paid_le [IsOrderedAddMonoid M] {due : M} (h : L.Holds g w due) :
    ∃ paid, paid ≤ due ∧ L.inv w.state paid := by
  obtain ⟨-, m, hm, hi⟩ := h
  exact ⟨due - m, sub_le_self due hm.nonneg, hi⟩

/-- Whatever keeps the contract leaves the accounts as they are. -/
structure Covers (L : Ledger σ η M) (C : Contract σ ι) : Prop where
  inv : ∀ s p, L.inv s p → C.inv s
  paid : ∀ s t p, C.rel s t → C.inv t → L.inv s p → L.inv t p
  rel : ∀ s t, C.rel s t → L.rel s t

theorem keeping_pays [IsOrderedAddMonoid M] {C : Contract σ ι} (hC : L.Covers C)
    {leaf : Task σ ι ρ → Prop} {x : Task σ ι ρ} (h : x.Keeping C leaf) (hs : L.inv s p)
    (hl : L.limit (p + a)) (ha : 0 ≤ a)
    (hleaf : ∀ y t q, leaf y → L.inv t q → L.limit (q + a) → L.rel s t → y.Pays L g t q a) :
    x.Pays L g s p a := by
  have keeps : ∀ f : σ → σ, C.Keeps f → ∀ t q, L.inv t q → L.inv (f t) q ∧ L.rel t (f t) :=
    fun f hf t q ht => by
      obtain ⟨hi, hr⟩ := hf t (hC.inv t q ht)
      exact ⟨hC.paid _ _ _ hr hi ht, hC.rel _ _ hr⟩
  induction h generalizing s p a with
  | leaf ht => exact hleaf _ s p ht hs hl (L.refl s)
  | @seg leaf f k hf _ ih =>
    obtain ⟨hi, hr⟩ := keeps f hf s p hs
    refine ⟨a, ha, ?_, hr, ?_⟩
    · rwa [add_sub_cancel_right]
    · rw [add_sub_cancel_right]
      exact ih s hi hl ha fun y t q hy ht hl' hr' => hleaf y t q hy ht hl' (L.trans hr hr')
  | note _ _ ih => exact fun _ => ih hs hl ha hleaf
  | @call leaf l f k lost hf _ _ _ ihk ihl =>
    refine fun t q ht _ hr => ⟨fun _ => ?_, fun _ => ⟨a, ha, by rwa [add_sub_cancel_right],
      fun u r hu hl' hr' => ihl hu hl' ha fun y v z hy hv hl'' hr'' =>
        hleaf y v z hy hv hl'' (L.trans (L.trans hr hr') hr'')⟩⟩
    obtain ⟨hi, hr'⟩ := keeps f hf t q ht
    refine ⟨a, ha, ?_, hr', fun u r hu hl' hr'' => ihk t hu hl' ha fun y v z hy hv hl'' hr₃ =>
      hleaf y v z hy hv hl'' (L.trans (L.trans (L.trans hr hr') hr'') hr₃)⟩
    rwa [add_sub_cancel_right]
  | fork _ _ ihp ihq =>
    refine ⟨0, a, le_rfl, ha, (zero_add a).symm, ihp hs ?_ le_rfl fun y t q hy _ _ _ => ?_,
      fun q ht hl' hr => ihq ht hl' ha fun y u r hy hu hl'' hr' =>
        hleaf y u r hy hu hl'' (L.trans hr hr')⟩
    · exact L.limit_le (by rw [add_zero]; exact le_add_of_nonneg_right ha) hl
    · rw [hy]
      rfl

end Ledger

namespace Async

/-- From a state where it owes an amount with `P`, `m` hands on a value and an amount with
    `Q`, or an exception and an amount with `E`; whatever follows owes that amount. -/
def Pays (L : Ledger σ η M) (g : Guard σ ι η) (P : M → σ → Prop) (m : Async σ ι ε ρ α)
    (Q : α → M → σ → Prop) (E : ε → M → σ → Prop) : Prop :=
  ∀ k h s p a, L.inv s p → L.limit (p + a) → 0 ≤ a → P a s →
    (∀ x t q b, L.inv t q → L.limit (q + b) → L.rel s t → 0 ≤ b → Q x b t →
      (k x).Pays L g t q b) →
    (∀ e t q b, L.inv t q → L.limit (q + b) → L.rel s t → 0 ≤ b → E e b t →
      (h e).Pays L g t q b) →
    (m k h).Pays L g s p a

variable {L : Ledger σ η M} {g : Guard σ ι η} {P : M → σ → Prop} {Q : α → M → σ → Prop}
  {R : β → M → σ → Prop} {E : ε → M → σ → Prop}

theorem Pays.task {m : Async σ ι ε ρ Unit} (h : Pays L g P m (fun _ a _ => a = 0) fun _ a _ => a = 0)
    {s : σ} {p a : M} (hs : L.inv s p) (hl : L.limit (p + a)) (ha : 0 ≤ a) (hp : P a s) :
    m.task.Pays L g s p a :=
  h _ _ s p a hs hl ha hp (fun _ _ _ _ _ _ _ _ hb => hb) fun _ _ _ _ _ _ _ _ hb => hb

theorem Pays.weaken {m : Async σ ι ε ρ α} {P' : M → σ → Prop} {Q' : α → M → σ → Prop}
    {E' : ε → M → σ → Prop} (h : Pays L g P m Q E) (hp : ∀ a s, P' a s → P a s)
    (hq : ∀ x a s, Q x a s → Q' x a s) (he : ∀ e a s, E e a s → E' e a s) :
    Pays L g P' m Q' E' := fun k h' s p a hs hl ha hp' hk hh =>
  h k h' s p a hs hl ha (hp a s hp')
    (fun x t q b ht hl' hr hb hx => hk x t q b ht hl' hr hb (hq x b t hx))
    fun e t q b ht hl' hr hb hx => hh e t q b ht hl' hr hb (he e b t hx)

theorem Pays.given {φ : Prop} {m : Async σ ι ε ρ α} (h : φ → Pays L g P m Q E) :
    Pays L g (fun a s => φ ∧ P a s) m Q E := fun k h' s p a hs hl ha hp =>
  h hp.1 k h' s p a hs hl ha hp.2

theorem Pays.pure {x : α} (h : ∀ a s, P a s → Q x a s) :
    Pays L g P (Pure.pure x : Async σ ι ε ρ α) Q E := fun _ _ s p a hs hl ha hp hk _ =>
  hk x s p a hs hl (L.refl s) ha (h a s hp)

theorem Pays.throw {e : ε} (h : ∀ a s, P a s → E e a s) :
    Pays L g P (throw e : Async σ ι ε ρ α) Q E := fun _ _ s p a hs hl ha hp _ hh =>
  hh e s p a hs hl (L.refl s) ha (h a s hp)

theorem Pays.bind {m : Async σ ι ε ρ β} {f : β → Async σ ι ε ρ α} (hm : Pays L g P m R E)
    (hf : ∀ x, Pays L g (R x) (f x) Q E) : Pays L g P (m >>= f) Q E := by
  intro k h s p a hs hl ha hp hk hh
  refine hm _ _ s p a hs hl ha hp (fun x t q b ht hl' hr hb hx => ?_) hh
  exact hf x k h t q b ht hl' hb hx
    (fun y u r c hu hl'' hr' => hk y u r c hu hl'' (L.trans hr hr'))
    fun e u r c hu hl'' hr' => hh e u r c hu hl'' (L.trans hr hr')

theorem Pays.tryCatch {m : Async σ ι ε ρ α} {c : ε → Async σ ι ε ρ α} {F : ε → M → σ → Prop}
    (hm : Pays L g P m Q F) (hc : ∀ e, Pays L g (F e) (c e) Q E) :
    Pays L g P (MonadExcept.tryCatch m c : Async σ ι ε ρ α) Q E := by
  intro k h s p a hs hl ha hp hk hh
  refine hm k _ s p a hs hl ha hp hk fun e t q b ht hl' hr hb hx => ?_
  exact hc e k h t q b ht hl' hb hx
    (fun y u r d hu hl'' hr' => hk y u r d hu hl'' (L.trans hr hr'))
    fun e u r d hu hl'' hr' => hh e u r d hu hl'' (L.trans hr hr')

theorem Pays.seg {f : σ → σ × α} (h : ∀ a s p, L.inv s p → L.limit (p + a) → 0 ≤ a → P a s →
      ∃ b, 0 ≤ b ∧ L.inv (f s).1 (p + a - b) ∧ L.rel s (f s).1 ∧ Q (f s).2 b (f s).1) :
    Pays L g P (seg f : Async σ ι ε ρ α) Q E := by
  intro k h' s p a hs hl ha hp hk _
  obtain ⟨b, hb, hi, hr, hq⟩ := h a s p hs hl ha hp
  exact ⟨b, hb, hi, hr, hk _ _ _ b hi (by rwa [sub_add_cancel]) hr hb hq⟩

theorem Pays.look {f : σ → α} (h : ∀ a s p, L.inv s p → P a s → Q (f s) a s) :
    Pays L g P (look f : Async σ ι ε ρ α) Q E :=
  .seg fun a s p hs _ ha hp => ⟨a, ha, by rwa [add_sub_cancel_right], L.refl s, h a s p hs hp⟩

theorem Pays.look_settle [IsOrderedAddMonoid M] {f : σ → α} (more : ∀ s p q, L.inv s p → p ≤ q → L.inv s q)
    (h : ∀ a s, P a s → ∃ b, (b = a ∨ b = 0) ∧ Q (f s) b s) :
    Pays L g P (Async.look f : Async σ ι ε ρ α) Q E := by
  refine .seg fun a s p hs _ ha hp => ?_
  obtain ⟨b, hb | hb, hq⟩ := h a s hp
  · subst hb
    exact ⟨b, ha, by rwa [add_sub_cancel_right], L.refl s, hq⟩
  · subst hb
    refine ⟨0, le_rfl, ?_, L.refl s, hq⟩
    rw [sub_zero]
    exact more s p _ hs (le_add_of_nonneg_right ha)

theorem Pays.change {f : σ → σ} {F : Unit → M → σ → Prop}
    (h : ∀ a s p, L.inv s p → L.limit (p + a) → 0 ≤ a → P a s →
      ∃ b, 0 ≤ b ∧ L.inv (f s) (p + a - b) ∧ L.rel s (f s) ∧ F () b (f s)) :
    Pays L g P (change f : Async σ ι ε ρ Unit) F E := .seg h

theorem Pays.note {l : ι} {F : Unit → M → σ → Prop}
    (h : ∀ a s p, L.inv s p → P a s → g.access l s → F () a s) :
    Pays L g P (note l : Async σ ι ε ρ Unit) F E := fun _ _ s p a hs hl ha hp hk _ hacc =>
  hk () s p a hs hl (L.refl s) ha (h a s p hs hp hacc)

theorem Pays.spawn {m : Async σ ι ε ρ Unit} {F : Unit → M → σ → Prop} {P' : M → σ → Prop}
    [IsOrderedAddMonoid M] (hm : Pays L g P' m (fun _ a _ => a = 0) fun _ a _ => a = 0)
    (h : ∀ a s p, L.inv s p → 0 ≤ a → P a s → ∃ b c, 0 ≤ b ∧ 0 ≤ c ∧ a = b + c ∧ P' b s ∧
      ∀ q, L.inv (m.task.settle s).1 q → L.rel s (m.task.settle s).1 →
        F () c (m.task.settle s).1) :
    Pays L g P (Async.spawn m : Async σ ι ε ρ Unit) F E := by
  intro k _ s p a hs hl ha hp hk _
  obtain ⟨b, c, hb, hc, rfl, hp', hF⟩ := h a s p hs ha hp
  have head : L.limit (p + b) := L.limit_le (by
    rw [← add_assoc]
    exact le_add_of_nonneg_right hc) hl
  exact ⟨b, c, hb, hc, rfl, hm.task hs head hb hp', fun q ht hl' hr =>
    hk () _ q c ht hl' hr hc (hF q ht hr)⟩

theorem Pays.call_settle {l : ι} {f : σ → σ × Except ε α} {lost : ε}
    (h : ∀ a s t q, P a s → 0 ≤ a → L.inv t q → L.limit (q + a) → L.rel s t → g.access l t →
      ∃ b, 0 ≤ b ∧ L.inv (f t).1 (q + a - b) ∧ L.rel t (f t).1 ∧
        ∀ u r, L.inv u r → L.rel (f t).1 u →
          match (f t).2 with | .ok x => Q x b u | .error e => E e b u)
    (hlost : ∀ a s t q, P a s → 0 ≤ a → L.inv t q → L.limit (q + a) → L.rel s t → g.lost l t →
      ∃ b, 0 ≤ b ∧ L.inv t (q + a - b) ∧ ∀ u r, L.inv u r → L.rel t u → E lost b u) :
    Pays L g P (call l f lost : Async σ ι ε ρ α) Q E := by
  intro k h' s p a hs _ ha hp hk hh t q ht hl hr
  refine ⟨fun hacc => ?_, fun hno => ?_⟩
  · obtain ⟨b, hb, hi, hrf, hans⟩ := h a s t q hp ha ht hl hr hacc
    refine ⟨b, hb, hi, hrf, fun u r hu hl' hr' => ?_⟩
    have later : L.rel s u := L.trans (L.trans hr hrf) hr'
    have ans := hans u r hu hr'
    cases hf : (f t).2 with
    | ok x =>
      simp only [hf] at ans ⊢
      exact hk x u r b hu hl' later hb ans
    | error e =>
      simp only [hf] at ans ⊢
      exact hh e u r b hu hl' later hb ans
  · obtain ⟨b, hb, hi, hans⟩ := hlost a s t q hp ha ht hl hr hno
    exact ⟨b, hb, hi, fun u r hu hl' hr' => hh lost u r b hu hl' (L.trans hr hr') hb (hans u r hu hr')⟩

theorem Pays.call {l : ι} {f : σ → σ × Except ε α} {lost : ε}
    (h : ∀ a s t q, P a s → 0 ≤ a → L.inv t q → L.limit (q + a) → L.rel s t → g.access l t →
      ∃ b, 0 ≤ b ∧ L.inv (f t).1 (q + a - b) ∧ L.rel t (f t).1 ∧
        ∀ u r, L.inv u r → L.rel (f t).1 u →
          match (f t).2 with | .ok x => Q x b u | .error e => E e b u)
    (hlost : ∀ a s t u r, P a s → L.rel s t → g.lost l t → L.inv u r → L.rel t u → E lost a u) :
    Pays L g P (call l f lost : Async σ ι ε ρ α) Q E :=
  .call_settle h fun a s t _ hp ha ht _ hr hno =>
    ⟨a, ha, by rwa [add_sub_cancel_right], fun u r hu hr' => hlost a s t u r hp hr hno hu hr'⟩

theorem Quiet.pays [IsOrderedAddMonoid M] {C : Contract σ ι} (hC : L.Covers C)
    {m : Async σ ι ε ρ α} (h : Quiet C m) {b : M} {K : σ → Prop}
    (stable : ∀ s t, L.rel s t → K s → K t) :
    Pays L g (fun a s => a = b ∧ K s) m (fun _ a s => a = b ∧ K s) fun _ a s => a = b ∧ K s := by
  intro k h' s p a hs hl ha hp hk hh
  refine Ledger.keeping_pays hC (h k h') hs hl ha fun y t q hy ht hl' hr => ?_
  have later : a = b ∧ K t := ⟨hp.1, stable s t hr hp.2⟩
  rcases hy with ⟨x, rfl⟩ | ⟨e, rfl⟩
  · exact hk x t q a ht hl' hr ha later
  · exact hh e t q a ht hl' hr ha later

theorem Quiet.owes [IsOrderedAddMonoid M] {C : Contract σ ι} (hC : L.Covers C)
    {m : Async σ ι ε ρ α} (h : Quiet C m) (b : M) :
    Pays L g (fun a _ => a = b) m (fun _ a _ => a = b) fun _ a _ => a = b :=
  (h.pays hC (K := fun _ => True) fun _ _ _ h => h).weaken (fun _ _ h => ⟨h, trivial⟩)
    (fun _ _ _ h => h.1) fun _ _ _ h => h.1

theorem Pays.call_keeps {C : Contract σ ι} (hC : L.Covers C) {l : ι} {f : σ → σ × Except ε α}
    {lost : ε} (h : ∀ t, g.access l t → C.inv t → C.inv (f t).1 ∧ C.rel t (f t).1) (b : M) :
    Pays L g (fun a _ => a = b) (Async.call l f lost : Async σ ι ε ρ α) (fun _ a _ => a = b)
      fun _ a _ => a = b := by
  refine .call ?_ fun _ _ _ _ _ ha _ _ _ _ => ha
  rintro a s t q rfl ha ht - - hacc
  obtain ⟨hi, hrel⟩ := h t hacc (hC.inv t q ht)
  refine ⟨a, ha, ?_, hC.rel _ _ hrel, fun u r _ _ => ?_⟩
  · rw [add_sub_cancel_right]
    exact hC.paid _ _ _ hrel hi ht
  · cases (f t).2 with
    | ok | error => rfl

end Async

section Kinds

variable {δ : Type} {q b : δ → ℤ} {d : δ}

theorem owed_pos (hb : 0 < b d) (h : q + b ≤ 0) : q d < 0 := by
  have owed := h d
  simp only [Pi.add_apply, Pi.zero_apply] at owed
  omega

variable [DecidableEq δ]

theorem owed_lt (h : q + Pi.single d 1 ≤ 0) : q d < 0 := by
  refine owed_pos ?_ h
  rw [Pi.single_eq_same]
  exact one_pos

theorem single_nonneg (d : δ) : (0 : δ → ℤ) ≤ Pi.single d 1 := Pi.single_nonneg.2 one_pos.le

theorem sub_single_lt (d : δ) (h : q + 0 ≤ 0) : (q + 0 - Pi.single d 1 : δ → ℤ) d < 0 := by
  have hd := h d
  simp only [Pi.add_apply, Pi.zero_apply] at hd
  simp only [Pi.sub_apply, Pi.add_apply, Pi.zero_apply, Pi.single_eq_same]
  omega

end Kinds

end EventLoop
