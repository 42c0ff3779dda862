import Gherass.OrderPolicies

set_option autoImplicit false

/-!
# Policies that look at one order at a time

`Good` holds of every stored order and `Next` relates an order to what may become of it.
`Holds` is what is still true of an order that was once a driver's. The countdown pages
do not matter.
-/
namespace Gherass

open EventLoop EventLoop.Async FirebaseHelper

structure OrderRules (flow : StatusLists) where
  Good : Order → Prop
  Next : Order → Order → Prop
  Holds : Device → Order → Prop
  /-- When a write that is seen may land on an order. -/
  Lands : Access → Order → Prop
  refl : ∀ o, Next o o
  trans : ∀ {o p q}, Next o p → Next p q → Next o q
  holds_later : ∀ {d o p}, Next o p → Holds d o → Holds d p
  write : ∀ {l : Access} {o}, l.Sent flow → Lands l o →
    (∀ d id status, l = .deliveryStatus d id status d.uid → Holds d o) → Good o →
    Good (l.apply o) ∧ Next o (l.apply o)
  autoReject : ∀ {page id o}, Lands (.autoReject page id) o → Good o →
    Good { o with isRejected := true } ∧ Next o { o with isRejected := true }
  add : ∀ {o}, flow.farmer[0]? = some o.status → o.driverId = "" → o.isRejected = false → Good o
  setID : ∀ {o id}, Good o → Good { o with orderID := some id } ∧ Next o { o with orderID := some id }
  own : ∀ {d o}, Good o → o.driverId = d.uid → Holds d o

namespace OrderRules

variable {flow : StatusLists} (R : OrderRules flow)

def Held (d : Device) (id : String) (w : World) : Prop :=
  ∃ o, w.orders[id]? = some o ∧ R.Holds d o

def Allowed (l : Access) (w : World) : Prop :=
  ∀ id, l.target = some id → ∀ o, w.orders[id]? = some o → R.Lands l o

def AllGood (w : World) : Prop := ∀ (id : String) (o : Order), w.orders[id]? = some o → R.Good o

def AllNext (v w : World) : Prop :=
  ∀ (id : String) (o : Order), v.orders[id]? = some o → ∃ p, w.orders[id]? = some p ∧ R.Next o p

variable {R}

theorem put_allGood {w : World} (h : R.AllGood w) {id : String} {o : Order} (ho : R.Good o) :
    R.AllGood (w.putOrder id o) := by
  intro i p hp
  rw [World.putOrder_get] at hp
  split at hp
  case isTrue =>
    obtain rfl := Option.some.inj hp
    exact ho
  case isFalse => exact h i p hp

theorem put_allNext {w : World} {id : String} {p : Order}
    (h : ∀ o, w.orders[id]? = some o → R.Next o p) : R.AllNext w (w.putOrder id p) := by
  intro i o ho
  rw [World.putOrder_get]
  split
  case isTrue e => exact ⟨p, rfl, h o (e ▸ ho)⟩
  case isFalse => exact ⟨o, ho, R.refl o⟩

theorem put {w : World} (h : R.AllGood w) {id : String} {o p : Order}
    (ho : w.orders[id]? = some o) (hp : R.Good p ∧ R.Next o p) :
    R.AllGood (w.putOrder id p) ∧ R.AllNext w (w.putOrder id p) := by
  refine ⟨put_allGood h hp.1, put_allNext fun o' ho' => ?_⟩
  obtain rfl := Option.some.inj (ho.symm.trans ho')
  exact hp.2

variable (R)

def policy : OrderPolicy flow where
  access := R.Allowed
  inv := R.AllGood
  rel := R.AllNext
  shows _ _ := True
  held := R.Held
  refl _ _ o ho := ⟨o, ho, R.refl o⟩
  trans h h' id o ho := by
    obtain ⟨p, hp, hop⟩ := h id o ho
    obtain ⟨q, hq, hpq⟩ := h' id p hp
    exact ⟨q, hq, R.trans hop hpq⟩
  held_later h := by
    rintro ⟨o, ho, hold⟩
    obtain ⟨p, hp, hop⟩ := h _ o ho
    exact ⟨p, hp, R.holds_later hop hold⟩
  shows_other _ _ _ := trivial
  frame ho _ h := by
    refine ⟨fun id o hget => h id o (ho ▸ hget), fun id o hget => ⟨o, ?_, R.refl o⟩⟩
    rw [ho]
    exact hget
  write {l id o s} hl ht ha hd h hget := by
    refine put h hget (R.write hl (ha id ht o hget) (fun d i status e => ?_) (h id o hget))
    subst e
    obtain rfl : i = id := Option.some.inj ht
    obtain ⟨p, hp, hold⟩ := hd d status rfl
    obtain rfl := Option.some.inj (hget.symm.trans hp)
    exact hold
  add hstatus hdriver hrejected hfree h :=
    ⟨put_allGood h (R.add hstatus hdriver hrejected), put_allNext fun o ho => by
      rw [hfree] at ho
      cases ho⟩
  setID hget h := put h hget (R.setID (h _ _ hget))
  own h hget hd := ⟨_, hget, R.own (h _ _ hget) hd⟩

theorem keeps_setTimer (page : ℕ) (f : OrdersTimerController → OrdersTimerController) :
    R.policy.contract.Keeps fun w => w.setTimer page f := by
  intro s hs
  have hr : R.AllNext s (s.setTimer page f) := fun id o ho => ⟨o, ho, R.refl o⟩
  exact OrderPolicy.Inv.later hs ⟨hs.orders, hr⟩ hs.keyed rfl rfl rfl rfl

theorem quiet_setTimer (page : ℕ)
    (f : OrdersTimerController → OrdersTimerController) :
    Quiet R.policy.contract (OrdersTimerController.setTimer page f) :=
  .change (R.keeps_setTimer page f)

open OrdersTimerController

theorem quiet_checkOrderStatus (page : ℕ) :
    Quiet R.policy.contract (checkOrderStatus flow page) := by
  have plain := R.policy.plain
  refine .tryCatch (.bind (.look _) fun _ => .bind (quiet_getOrderStatusByid plain _)
    fun _ => .bind (quiet_getOrderIsRejectByid plain _) fun _ =>
      .bind (quiet_statusAt _ _) fun _ => .bind (.note fun _ _ => trivial) fun _ => ?_)
    fun _ => .pure _
  split
  · exact R.quiet_setTimer page _
  · split
    · exact R.quiet_setTimer page _
    · exact .pure _

theorem allows_autoRejectOrder {A : World → Prop} (page : ℕ) :
    R.policy.Allows A (autoRejectOrder page) := by
  refine .bind (R := fun _ _ => True) (.look fun _ _ _ => trivial) fun id =>
    OrderPolicy.allows_caught fun _ => ?_
  refine .call (fun s t _ _ ht _ ha => ?_) fun _ _ _ _ _ _ _ _ _ _ => trivial
  have hput : R.policy.Inv (updateOrder id (fun o => { o with isRejected := true }) t).1 ∧
      R.policy.contract.rel t (updateOrder id (fun o => { o with isRejected := true }) t).1 := by
    unfold updateOrder
    cases ho : t.orders[id]? with
    | none => exact ⟨ht, R.policy.contract.refl t⟩
    | some o =>
      exact OrderPolicy.Inv.put ht (ht.keyed id o ho)
        (put ht.orders ho (R.autoReject (ha id rfl o ho) (ht.orders id o ho)))
  exact ⟨trivial, hput.1, hput.2, fun u _ _ => by split <;> trivial⟩

theorem allows_timers (ids : IdSupply) (e : Event) (he : e.OfTimer) :
    R.policy.Allows (fun _ => True) (program flow ids e) := by
  cases e with
  | openTimer page orderId => exact (R.quiet_setTimer page _).spec
  | closeTimer page => exact (R.quiet_setTimer page _).spec
  | tick page =>
    refine .bind (R := fun _ _ => True) (.look fun _ _ _ => trivial) fun c => ?_
    split
    · split
      · exact .bind (R := fun _ _ => True) (.note fun _ _ _ _ => ⟨trivial, trivial⟩) fun _ =>
          .bind (R := fun _ _ => True) (R.quiet_setTimer page _).spec fun _ =>
            .spawn (fun s hs _ => (R.allows_autoRejectOrder (A := fun _ => True) page).safe hs trivial)
              fun _ _ _ _ _ => trivial
      · exact .bind (R := fun _ _ => True) (R.quiet_setTimer page _).spec fun _ =>
          Quiet.spec (.spawn (R.quiet_checkOrderStatus page))
    · exact .pure fun _ _ => trivial
  | _ => cases he

end OrderRules

/-- A market in which nothing is under way yet: no program waits, no delivery page is
    open and no page shows an order. -/
structure Opening (w : Market) : Prop where
  idle : w.slots = []
  keyed : Keyed w.state
  details : ∀ d, (w.state.details d).copies = []
  homes : ∀ d, (w.state.homes d).copies = []
  maps : ∀ page, w.state.maps page = none

theorem opening_orderMarket (o : Order) : Opening (orderMarket o) where
  idle := rfl
  keyed := Keyed.put (s := {}) (fun id p hp => by
      change (∅ : Std.TreeMap String Order)[id]? = some p at hp
      simp at hp) fun _ h => (Option.some.inj h).symm
  details _ := rfl
  homes _ := rfl
  maps _ := rfl

theorem Opening.safe {flow : StatusLists} {w : Market} (h : Opening w) (P : OrderPolicy flow)
    (hp : P.inv w.state) : w.Safe P.contract P.guard := by
  refine ⟨⟨hp, h.keyed, fun d o ho => ?_, fun d o ho => ?_, fun d n c hc => ?_,
    fun d n _ => h.maps _⟩, fun x hx => ?_⟩
  · rw [h.details] at ho
    cases ho
  · rw [h.homes] at ho
    cases ho
  · rw [h.maps] at hc
    cases hc
  · rw [h.idle] at hx
    cases hx

/-- In every run whose writes land as the rules allow, stored orders stay good and later
    states hold nothing but what may become of them. -/
theorem OrderRules.run {flow : StatusLists} {R : OrderRules flow} {ids : IdSupply}
    {u v w : Market} (hu : Opening u) (hgood : R.AllGood u.state)
    (huv : Run (handler flow ids) R.policy.guard u v)
    (hvw : Run (handler flow ids) R.policy.guard v w) :
    R.AllGood v.state ∧ R.AllNext v.state w.state := by
  have handlers := fun e s hs (_ : R.policy.guard.start e s) =>
    R.policy.handler_safe ids (R.allows_timers ids) e s hs
  have hv := huv.safe handlers (hu.safe R.policy hgood)
  exact ⟨hv.1.1.orders, (hvw.safe handlers hv.1).2.1⟩

theorem OrderRules.run_landing {flow : StatusLists} {R : OrderRules flow} {ids : IdSupply}
    {p : Access → World → Bool} (hp : ∀ l w, p l w → R.Allowed l w) {u v w : Market}
    (hu : Opening u) (hgood : R.AllGood u.state)
    (huv : Run (handler flow ids) (.landing p) u v)
    (hvw : Run (handler flow ids) (.landing p) v w) :
    R.AllGood v.state ∧ R.AllNext v.state w.state :=
  have strict : ∀ {a b : Market}, Run (handler flow ids) (.landing p) a b →
      Run (handler flow ids) R.policy.guard a b := fun h =>
    Run.mono (fun _ _ _ => trivial) (fun l s (hl : p l s) => hp l s hl) (fun _ _ _ => trivial) h
  OrderRules.run hu hgood (strict huv) (strict hvw)

end Gherass
