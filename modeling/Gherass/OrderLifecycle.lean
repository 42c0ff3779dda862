import Gherass.StatusOrder
import Mathlib.Logic.Relation

set_option autoImplicit false

/-!
# The life of an order

An order is placed, then rejected, or handled by its farmer and carried by a driver along the
driver's list. Each write of the code is one step of this life, or none, where it finds the
stored order as the button or the step that sent it showed it.
-/
namespace Gherass

open EventLoop Relation

/-- Where an order stands, by whom it is carried and how far. -/
inductive OrderStage (δ : Type) where
  | placed
  | rejected
  | handled
  | carried (carrier : δ) (place : ℕ)
  deriving DecidableEq

namespace OrderStage

variable {δ : Type}

inductive Step : OrderStage δ → OrderStage δ → Prop
  | reject : Step placed rejected
  | handle : Step placed handled
  | take (d : δ) (i : ℕ) : Step handled (carried d i)
  | carry (d : δ) {i j : ℕ} (h : i < j) : Step (carried d i) (carried d j)

abbrev Leads : OrderStage δ → OrderStage δ → Prop := ReflTransGen Step

def rank : OrderStage δ → ℕ
  | placed => 0
  | rejected => 1
  | handled => 1
  | carried _ i => i + 2

theorem Step.rank_lt {s t : OrderStage δ} (h : Step s t) : s.rank < t.rank := by
  cases h with
  | reject | handle => exact Nat.zero_lt_one
  | take d i =>
    change 1 < i + 2
    omega
  | carry d h => exact Nat.add_lt_add_right h 2

theorem Leads.rank_le {s t : OrderStage δ} (h : Leads s t) : s.rank ≤ t.rank := by
  induction h with
  | refl => exact Nat.le_refl _
  | tail _ step ih => exact ih.trans (Nat.le_of_lt step.rank_lt)

theorem Leads.antisymm {s t : OrderStage δ} (h : Leads s t) (h' : Leads t s) : s = t := by
  rcases ReflTransGen.cases_head_iff.1 h with rfl | ⟨u, step, hu⟩
  · rfl
  · have := step.rank_lt
    have := Leads.rank_le (hu.trans h')
    omega

end OrderStage

variable (flow : StatusLists)

def orderStage (o : Order) : OrderStage String :=
  if o.isRejected then .rejected
  else if flow.farmer.head? = some o.status then .placed
  else if o.status ∈ flow.farmer then .handled
  else .carried o.driverId (flow.driver.idxOf o.status)

/-- What an order that keeps to its life is like: rejected ones are in the first status, and an
    order has a driver just when its status is one of the driver's. -/
structure InOrder (o : Order) : Prop where
  listed : o.status ∈ flow.farmer ++ flow.driver
  rejected : o.isRejected → flow.farmer.head? = some o.status
  driver : o.status ∈ flow.farmer ↔ o.driverId = ""

def asShown : Access → Order → Bool
  | .acceptStatus _ _ _ isDriver, o => !o.isRejected &&
    (if isDriver then flow.farmer.getLast? else flow.farmer.head?) = some o.status
  | .deliveryStatus d _ status _, o => !o.isRejected && flow.farmer.head? ≠ some o.status &&
    (o.driverId = "" || o.driverId = d.uid.val) &&
    OrdersController.driverIndex flow o.status < OrdersController.driverIndex flow status
  | .rejectButton _ _, o => flow.farmer.head? = some o.status
  | .autoReject _ _, o => flow.farmer.head? = some o.status
  | _, _ => true

/-- The write meets the order as it was shown, or changes nothing of it. -/
def landsAsShown (l : Access) (w : World) : Bool :=
  l.target.all fun id => w.orders[id]?.all fun o => l.apply o = o || asShown flow l o

/-- Every order of `v` is in `w`, at a stage that its stage in `v` leads to. -/
def StagesLead (v w : World) : Prop :=
  ∀ (id : String) (o : Order), v.orders[id]? = some o → ∃ p : Order, w.orders[id]? = some p ∧
    OrderStage.Leads (orderStage flow o) (orderStage flow p)

variable {flow}

theorem stage_rejected {o : Order} (h : o.isRejected) : orderStage flow o = .rejected := if_pos h

theorem stage_placed {o : Order} (hr : o.isRejected = false)
    (hs : flow.farmer.head? = some o.status) : orderStage flow o = .placed := by
  simp [orderStage, hr, hs]

theorem stage_handled {o : Order} (hr : o.isRejected = false)
    (hs : flow.farmer.head? ≠ some o.status) (hm : o.status ∈ flow.farmer) :
    orderStage flow o = .handled := by
  simp [orderStage, hr, hs, hm]

theorem StatusFlow.driver_notMem (flow : StatusFlow) {status : String}
    (h : status ∈ flow.driver) : status ∉ flow.farmer := fun hf =>
  (List.nodup_append.1 flow.nodup).2.2 status hf status h rfl

theorem stage_carried {flow : StatusFlow} {o : Order} (hr : o.isRejected = false)
    (hm : o.status ∈ flow.driver) :
    orderStage flow.toStatusLists o = .carried o.driverId (flow.driver.idxOf o.status) := by
  simp [orderStage, hr, flow.head_ne_driver hm, flow.driver_notMem hm]

theorem StatusFlow.head_ne_last (flow : StatusFlow) (hlen : 2 ≤ flow.farmer.length)
    {status : String} (h : flow.farmer.getLast? = some status) :
    flow.farmer.head? ≠ some status := by
  intro h'
  have hnd := (List.nodup_append.1 flow.nodup).1
  rw [List.getLast?_eq_getElem?] at h
  rw [List.head?_eq_getElem?] at h'
  refine List.nodup_iff_getElem?_ne_getElem?.1 hnd 0 (flow.farmer.length - 1) ?_ ?_
    (h'.trans h.symm)
  · omega
  · omega

section Writes

variable {flow : StatusFlow} {o : Order} (d : Device) (id : String) {status : String}

theorem inOrder_carried (hr : o.isRejected = false) (hmem : status ∈ flow.driver) :
    InOrder flow.toStatusLists { o with status := status, driverId := d.uid } ∧
      orderStage flow.toStatusLists { o with status := status, driverId := d.uid } =
        .carried d.uid (flow.driver.idxOf status) := by
  refine ⟨⟨List.mem_append_right _ hmem, fun h => absurd (hr.symm.trans h) (by decide),
    fun h => absurd h (flow.driver_notMem hmem), fun h => absurd h d.uid.2⟩, ?_⟩
  exact stage_carried hr hmem

theorem accept_driver (hlen : 2 ≤ flow.farmer.length) (hstatus : flow.driver[0]? = some status)
    (hr : o.isRejected = false) (hs : flow.farmer.getLast? = some o.status) :
    InOrder flow.toStatusLists ((Access.acceptStatus d id status true).apply o) ∧
      OrderStage.Step (orderStage flow.toStatusLists o)
        (orderStage flow.toStatusLists ((Access.acceptStatus d id status true).apply o)) := by
  obtain ⟨hgood, hstage⟩ := inOrder_carried d hr (List.mem_of_getElem? hstatus)
  refine ⟨hgood, ?_⟩
  rw [stage_handled hr (flow.head_ne_last hlen hs) (List.mem_of_getLast? hs)]
  exact hstage ▸ .take _ _

variable (good : InOrder flow.toStatusLists o)
include good

theorem accept_farmer (hstatus : flow.farmer[1]? = some status)
    (hr : o.isRejected = false) (hs : flow.farmer.head? = some o.status) :
    InOrder flow.toStatusLists ((Access.acceptStatus d id status false).apply o) ∧
      OrderStage.Step (orderStage flow.toStatusLists o)
        (orderStage flow.toStatusLists ((Access.acceptStatus d id status false).apply o)) := by
  have hmem : status ∈ flow.farmer := List.mem_of_getElem? hstatus
  have hfree : o.driverId = "" := good.driver.1 (List.mem_of_head? hs)
  refine ⟨⟨List.mem_append_left _ hmem, fun h => ?_, fun _ => hfree, fun _ => hmem⟩, ?_⟩
  · exact absurd (hr.symm.trans h) (by decide)
  · rw [stage_placed hr hs]
    have : orderStage flow.toStatusLists ((Access.acceptStatus d id status false).apply o) = .handled :=
      stage_handled hr (flow.head_ne_second hstatus) hmem
    rw [this]
    exact .handle

theorem delivery (shownDriver : String) (hmem : status ∈ flow.driver)
    (hr : o.isRejected = false) (hs : flow.farmer.head? ≠ some o.status)
    (hown : o.driverId = "" ∨ o.driverId = d.uid.val)
    (hlt : OrdersController.driverIndex flow.toStatusLists o.status <
      OrdersController.driverIndex flow.toStatusLists status) :
    InOrder flow.toStatusLists ((Access.deliveryStatus d id status shownDriver).apply o) ∧
      OrderStage.Step (orderStage flow.toStatusLists o)
        (orderStage flow.toStatusLists ((Access.deliveryStatus d id status shownDriver).apply o)) := by
  obtain ⟨hgood, hstage⟩ := inOrder_carried d hr hmem
  refine ⟨hgood, ?_⟩
  change OrderStage.Step _ (orderStage _ { o with status := status, driverId := d.uid })
  rw [hstage]
  by_cases hf : o.status ∈ flow.farmer
  · rw [stage_handled hr hs hf]
    exact .take _ _
  · have hd : o.status ∈ flow.driver := (List.mem_append.1 good.listed).resolve_left hf
    have huid : o.driverId = d.uid.val := hown.resolve_left fun h => hf (good.driver.2 h)
    rw [stage_carried hr hd, huid]
    refine .carry _ ?_
    simp only [OrdersController.driverIndex, hd, hmem, if_true] at hlt
    omega

theorem reject (hs : flow.farmer.head? = some o.status) :
    InOrder flow.toStatusLists { o with isRejected := true } ∧
      OrderStage.Leads (orderStage flow.toStatusLists o)
        (orderStage flow.toStatusLists { o with isRejected := true }) := by
  refine ⟨⟨good.listed, fun _ => hs, good.driver⟩, ?_⟩
  have : orderStage flow.toStatusLists { o with isRejected := true } = .rejected := stage_rejected rfl
  rw [this]
  by_cases hr : o.isRejected
  · rw [stage_rejected hr]
  · rw [stage_placed (by simpa using hr) hs]
    exact .single .reject

end Writes

def lifecycleRules (flow : StatusFlow) (hlen : 2 ≤ flow.farmer.length) :
    OrderRules flow.toStatusLists where
  Good := InOrder flow.toStatusLists
  Next o p := OrderStage.Leads (orderStage flow.toStatusLists o) (orderStage flow.toStatusLists p)
  Holds _ _ := True
  Lands l o := l.apply o = o ∨ asShown flow.toStatusLists l o
  refl _ := .refl
  trans := .trans
  holds_later _ _ := trivial
  write {l o} hl hlands _ hgood := by
    rcases hlands with same | shown
    · rw [same]
      exact ⟨hgood, .refl⟩
    cases l with
    | acceptStatus d id status isDriver =>
      simp only [asShown, Bool.and_eq_true, Bool.not_eq_true', decide_eq_true_eq] at shown
      cases isDriver with
      | false =>
        obtain ⟨h, hstep⟩ := accept_farmer d id hgood hl shown.1 shown.2
        exact ⟨h, .single hstep⟩
      | true =>
        obtain ⟨h, hstep⟩ := accept_driver d id hlen hl shown.1 shown.2
        exact ⟨h, .single hstep⟩
    | deliveryStatus d id status shownDriver =>
      simp only [asShown, Bool.and_eq_true, Bool.not_eq_true', decide_eq_true_eq,
        Bool.or_eq_true] at shown
      obtain ⟨⟨⟨hr, hs⟩, hown⟩, hlt⟩ := shown
      obtain ⟨h, hstep⟩ := delivery d id hgood shownDriver hl hr hs hown hlt
      exact ⟨h, .single hstep⟩
    | rejectButton d id => exact reject hgood (of_decide_eq_true shown)
    | _ => cases hl
  autoReject {page id o} hlands hgood := by
    rcases hlands with same | shown
    · change { o with isRejected := true } = o at same
      rw [same]
      exact ⟨hgood, .refl⟩
    · exact reject hgood (of_decide_eq_true shown)
  add {o} hstatus hdriver hrejected := by
    have hmem := List.mem_of_getElem? hstatus
    refine ⟨List.mem_append_left _ hmem, fun h => ?_, fun _ => hdriver, fun _ => hmem⟩
    exact absurd (hrejected.symm.trans h) (by decide)
  setID h := ⟨⟨h.listed, h.rejected, h.driver⟩, .refl⟩
  own _ _ := trivial

theorem landsAsShown_allowed {flow : StatusFlow} {hlen : 2 ≤ flow.farmer.length} (l : Access) (w : World)
    (h : landsAsShown flow.toStatusLists l w) : (lifecycleRules flow hlen).Allowed l w := by
  intro id hid o ho
  simpa [landsAsShown, hid, ho, lifecycleRules] using h

/-- Orders live as they should in every run whose writes find them as they were shown. -/
theorem orders_follow_life {flow : StatusFlow} {ids : IdSupply} (hlen : 2 ≤ flow.farmer.length)
    {u v w : Market} (hu : Opening u)
    (hgood : ∀ (id : String) (o : Order), u.state.orders[id]? = some o →
      InOrder flow.toStatusLists o)
    (huv : Run (handler flow.toStatusLists ids) (.landing (landsAsShown flow.toStatusLists)) u v)
    (hvw : Run (handler flow.toStatusLists ids) (.landing (landsAsShown flow.toStatusLists)) v w) :
    StagesLead flow.toStatusLists v.state w.state :=
  ((lifecycleRules flow hlen).run_landing landsAsShown_allowed hu hgood huv hvw).2

theorem orderMarket_get {o p : Order} {id : String}
    (h : (orderMarket o).state.orders[id]? = some p) : p = { o with orderID := some "1" } := by
  have h := (World.putOrder_get {} "1" id { o with orderID := some "1" }).symm.trans h
  split at h
  case isTrue => exact (Option.some.inj h).symm
  case isFalse => simp at h

theorem inOrder_newOrder (id : String) (o : Order)
    (h : (orderMarket newOrder).state.orders[id]? = some o) :
    InOrder smallFlow.toStatusLists o := by
  obtain rfl := orderMarket_get h
  exact ⟨by decide, fun _ => rfl, by decide⟩

theorem orders_follow_life_taken :
    StagesLead smallFlow.toStatusLists (orderMarket newOrder).state
      ((orderMarket newOrder).after smallHandler acceptedAndTaken).state :=
  orders_follow_life (by decide) (opening_orderMarket _) inOrder_newOrder (.refl _)
    (Run.after (by decide +kernel) (by decide +kernel))

/-- In such runs an order that is at the same stage twice was at it all the while. -/
theorem stage_not_come_back_to {flow : StatusFlow} {ids : IdSupply}
    (hlen : 2 ≤ flow.farmer.length) {u v w x : Market} (hu : Opening u)
    (hgood : ∀ (id : String) (o : Order), u.state.orders[id]? = some o →
      InOrder flow.toStatusLists o)
    (huv : Run (handler flow.toStatusLists ids) (.landing (landsAsShown flow.toStatusLists)) u v)
    (hvw : Run (handler flow.toStatusLists ids) (.landing (landsAsShown flow.toStatusLists)) v w)
    (hwx : Run (handler flow.toStatusLists ids) (.landing (landsAsShown flow.toStatusLists)) w x)
    {id : String} {o p q : Order} (ho : v.state.orders[id]? = some o)
    (hp : w.state.orders[id]? = some p) (hq : x.state.orders[id]? = some q)
    (same : orderStage flow.toStatusLists o = orderStage flow.toStatusLists q) :
    orderStage flow.toStatusLists o = orderStage flow.toStatusLists p := by
  obtain ⟨p', hp', first⟩ :=
    ((lifecycleRules flow hlen).run_landing landsAsShown_allowed hu hgood huv hvw).2 id o ho
  obtain ⟨q', hq', second⟩ :=
    ((lifecycleRules flow hlen).run_landing landsAsShown_allowed hu hgood (huv.trans hvw) hwx).2 id p hp
  obtain rfl := Option.some.inj (hp.symm.trans hp')
  obtain rfl := Option.some.inj (hq.symm.trans hq')
  exact OrderStage.Leads.antisymm first (by rwa [same])

def Order.placed (o : Order) : Order :=
  { o with driverId := "", isRejected := false, orderID := none, status := "" }

theorem Order.placed_apply (l : Access) (o : Order) : (l.apply o).placed = o.placed := by
  cases l with
  | acceptStatus d id status isDriver => cases isDriver <;> rfl
  | _ => rfl

/-- What may have happened to an order in any run. -/
structure Order.Kept (o p : Order) : Prop where
  placed : p.placed = o.placed
  rejected : o.isRejected → p.isRejected
  driver : o.driverId ≠ "" → p.driverId ≠ ""
  recorded : o.orderID.isSome → p.orderID.isSome

theorem Order.Kept.apply (l : Access) (o : Order) : o.Kept (l.apply o) where
  placed := Order.placed_apply l o
  rejected h := by
    cases l with
    | acceptStatus d id status isDriver => cases isDriver <;> exact h
    | rejectButton | autoReject => rfl
    | _ => exact h
  driver h := by
    cases l with
    | acceptStatus d id status isDriver =>
      cases isDriver with
      | false => exact h
      | true => exact d.uid.2
    | deliveryStatus d => exact d.uid.2
    | _ => exact h
  recorded h := by rwa [OrderPolicy.apply_orderID]

def recordRules (flow : StatusLists) : OrderRules flow where
  Good _ := True
  Next := Order.Kept
  Holds _ _ := True
  Lands _ _ := True
  refl _ := ⟨rfl, id, id, id⟩
  trans h h' := ⟨h'.placed.trans h.placed, fun hr => h'.rejected (h.rejected hr),
    fun hd => h'.driver (h.driver hd), fun hi => h'.recorded (h.recorded hi)⟩
  holds_later _ _ := trivial
  write {l o} _ _ _ _ := ⟨trivial, Order.Kept.apply l o⟩
  autoReject _ _ := ⟨trivial, rfl, fun _ => rfl, id, id⟩
  add _ _ _ := trivial
  setID _ := ⟨trivial, rfl, id, id, fun _ => rfl⟩
  own _ _ := trivial

/-- Whatever happens, no order is lost or rewritten, no rejection is undone and no order is
    without a driver again; the id an order records is its own. -/
theorem orders_kept {flow : StatusLists} {ids : IdSupply} {u v w : Market} (hu : Opening u)
    (huv : Run (handler flow ids) .free u v) (hvw : Run (handler flow ids) .free v w)
    (id : String) (o : Order) (ho : v.state.orders[id]? = some o) :
    ∃ p : Order, w.state.orders[id]? = some p ∧ o.Kept p ∧ ∀ i, p.orderID = some i → i = id := by
  have strict : ∀ {a b : Market}, Run (handler flow ids) .free a b →
      Run (handler flow ids) (recordRules flow).policy.guard a b := fun h =>
    Run.mono (fun _ _ _ => trivial) (fun _ _ _ _ _ _ _ => trivial) (fun _ _ _ => trivial) h
  have handlers := fun e s hs (_ : (recordRules flow).policy.guard.start e s) =>
    (recordRules flow).policy.handler_safe ids ((recordRules flow).allows_timers ids) e s hs
  have hv := (strict huv).safe handlers (hu.safe (recordRules flow).policy fun _ _ _ => trivial)
  have hw := (strict hvw).safe handlers hv.1
  obtain ⟨p, hp, kept⟩ := hw.2.1 id o ho
  exact ⟨p, hp, kept, hw.1.1.keyed id p hp⟩

theorem orders_kept_taken : ∃ p : Order,
    ((orderMarket newOrder).after smallHandler acceptedAndTaken).state.orders["1"]? = some p ∧
      Order.Kept { newOrder with orderID := some "1" } p ∧ ∀ i, p.orderID = some i → i = "1" :=
  orders_kept (opening_orderMarket _) (.refl _) (.after_free (by decide +kernel)) "1" _
    (by decide +kernel)

end Gherass
