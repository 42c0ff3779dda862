import Gherass.OrderRules

set_option autoImplicit false

/-!
# Accepted or rejected

Accepting writes the status and the driver, rejecting writes `isRejected`, and neither
write looks at what the other left.
-/
namespace Gherass

open EventLoop

def RejectedAtFirst (flow : StatusLists) (w : World) : Prop :=
  ∀ (id : String) (o : Order), w.orders[id]? = some o → o.isRejected → flow.farmer.head? = some o.status

/-- The orders rejected in `v` have the same status and driver in `w`. -/
def KeepsRejected (v w : World) : Prop :=
  ∀ (id : String) (o : Order), v.orders[id]? = some o → o.isRejected →
    ∃ p : Order, w.orders[id]? = some p ∧ p.isRejected ∧ p.status = o.status ∧ p.driverId = o.driverId

/-- Status writes land on orders that are not rejected, rejections on orders in the first
    status. A delivery step needs no check where the page's copy shows the driver as its
    driver. -/
def decidesOpen (flow : StatusLists) : Access → World → Bool
  | .acceptStatus _ id _ _, w => w.orders[id]?.all fun o => !o.isRejected
  | .deliveryStatus d id _ shownDriver, w =>
    w.orders[id]?.all fun o => shownDriver = d.uid.val || !o.isRejected
  | .rejectButton _ id, w => w.orders[id]?.all fun o => flow.farmer.head? = some o.status
  | .autoReject _ id, w => w.orders[id]?.all fun o => flow.farmer.head? = some o.status
  | _, _ => true

/-- A rejected order is in the first status, one with a driver is not. -/
def Settled (flow : StatusLists) (o : Order) : Prop :=
  (o.isRejected → flow.farmer.head? = some o.status) ∧
    (o.driverId ≠ "" → flow.farmer.head? ≠ some o.status)

theorem StatusFlow.head_ne_second (flow : StatusFlow) {status : String}
    (h : flow.farmer[1]? = some status) : flow.farmer.head? ≠ some status := by
  intro h'
  have hnd := (List.nodup_append.1 flow.nodup).1
  rw [List.head?_eq_getElem?] at h'
  obtain ⟨hlt, -⟩ := List.getElem?_eq_some_iff.1 h
  exact List.nodup_iff_getElem?_ne_getElem?.1 hnd 0 1 Nat.zero_lt_one hlt (h'.trans h.symm)

theorem StatusFlow.head_ne_driver (flow : StatusFlow) {status : String}
    (h : status ∈ flow.driver) : flow.farmer.head? ≠ some status := by
  intro h'
  exact (List.nodup_append.1 flow.nodup).2.2 status (List.mem_of_head? h') status h rfl

def rejectRules (flow : StatusFlow) : OrderRules flow.toStatusLists where
  Good := Settled flow.toStatusLists
  Next o p := (o.isRejected → p.isRejected ∧ p.status = o.status ∧ p.driverId = o.driverId) ∧
    (o.driverId ≠ "" → p.driverId ≠ "")
  Holds _ o := o.driverId ≠ ""
  Lands l o := match l with
    | .acceptStatus _ _ _ _ => o.isRejected = false
    | .deliveryStatus d _ _ shownDriver => shownDriver = d.uid ∨ o.isRejected = false
    | .rejectButton _ _ => flow.farmer.head? = some o.status
    | .autoReject _ _ => flow.farmer.head? = some o.status
    | _ => True
  refl _ := ⟨fun h => ⟨h, rfl, rfl⟩, id⟩
  trans h h' := by
    refine ⟨fun hr => ?_, fun hd => h'.2 (h.2 hd)⟩
    obtain ⟨hp, hs, hd⟩ := h.1 hr
    obtain ⟨hq, hs', hd'⟩ := h'.1 hp
    exact ⟨hq, hs'.trans hs, hd'.trans hd⟩
  holds_later h := h.2
  write {l o} hl hlands hheld hgood := by
    -- A status write finds the order not rejected and leaves it beyond the first status.
    have status : ∀ p : Order, o.isRejected = false → p.isRejected = o.isRejected →
        flow.farmer.head? ≠ some p.status → (o.driverId ≠ "" → p.driverId ≠ "") →
        Settled flow.toStatusLists p ∧ (o.isRejected → p.isRejected ∧ p.status = o.status ∧
          p.driverId = o.driverId) ∧ (o.driverId ≠ "" → p.driverId ≠ "") := by
      intro p hr hp hs hd
      rw [hr] at hp
      exact ⟨⟨fun h => by simp [hp] at h, fun _ => hs⟩, fun h => by simp [hr] at h, hd⟩
    cases l with
    | acceptStatus d id st isDriver =>
      cases isDriver with
      | false => exact status _ hlands rfl (flow.head_ne_second hl) fun h => h
      | true =>
        exact status _ hlands rfl (flow.head_ne_driver (List.mem_of_getElem? hl)) fun _ => d.uid.2
    | deliveryStatus d id st shownDriver =>
      have hr : o.isRejected = false := by
        rcases hlands with rfl | h
        · by_contra hr
          exact hgood.2 (hheld d id st rfl) (hgood.1 (by simpa using hr))
        · exact h
      exact status _ hr rfl (flow.head_ne_driver hl) fun _ => d.uid.2
    | rejectButton d id =>
      exact ⟨⟨fun _ => hlands, hgood.2⟩, fun _ => ⟨rfl, rfl, rfl⟩, fun h => h⟩
    | _ => cases hl
  autoReject hlands hgood := ⟨⟨fun _ => hlands, hgood.2⟩, fun _ => ⟨rfl, rfl, rfl⟩, fun h => h⟩
  add hstatus hdriver hrejected := ⟨fun h => by simp [hrejected] at h, fun h => absurd hdriver h⟩
  setID hgood := ⟨hgood, fun h => ⟨h, rfl, rfl⟩, fun h => h⟩
  own {d o} _ hd := by
    rw [hd]
    exact d.uid.2

theorem decidesOpen_allowed {flow : StatusFlow} (l : Access) (w : World)
    (h : decidesOpen flow.toStatusLists l w) : (rejectRules flow).Allowed l w := by
  intro id hid o ho
  cases l with
  | acceptStatus d i status isDriver | rejectButton d i | autoReject page i =>
    obtain rfl : i = id := Option.some.inj hid
    simpa [decidesOpen, ho, rejectRules] using h
  | deliveryStatus d i status shownDriver =>
    obtain rfl : i = id := Option.some.inj hid
    simpa [decidesOpen, ho, rejectRules] using h
  | _ => trivial

/-- Accepting and rejecting exclude each other in every run in which both only land on
    orders still open to them. -/
theorem accept_reject_exclusive {flow : StatusFlow} {ids : IdSupply} {u v w : Market}
    (hu : Opening u)
    (hgood : ∀ (id : String) (o : Order), u.state.orders[id]? = some o → Settled flow.toStatusLists o)
    (huv : Run (handler flow.toStatusLists ids) (.landing (decidesOpen flow.toStatusLists)) u v)
    (hvw : Run (handler flow.toStatusLists ids) (.landing (decidesOpen flow.toStatusLists)) v w) :
    RejectedAtFirst flow.toStatusLists v.state ∧ KeepsRejected v.state w.state := by
  obtain ⟨good, next⟩ := (rejectRules flow).run_landing decidesOpen_allowed hu hgood huv hvw
  refine ⟨fun id o ho hr => (good id o ho).1 hr, fun id o ho hr => ?_⟩
  obtain ⟨p, hp, hnext, -⟩ := next id o ho
  exact ⟨p, hp, hnext hr⟩

def farmerLoads : List (Move Event) :=
  [.start (.openOrders aFarmer), .serve 0, .resume 0,
    .start (.openOrders { aFarmer with slot := 1 }), .serve 0, .resume 0,
    .start (.selectOrder aFarmer false 0), .start (.selectOrder { aFarmer with slot := 1 } false 0)]

def newOrder : Order := { status := "Order Placed", farmerId := "farmer" }

theorem settled_newOrder (id : String) (o : Order)
    (h : (orderMarket newOrder).state.orders[id]? = some o) :
    Settled smallFlow.toStatusLists o := by
  have h := (World.putOrder_get {} "1" id { newOrder with orderID := some "1" }).symm.trans h
  split at h
  case isTrue =>
    obtain rfl := Option.some.inj h
    exact ⟨fun _ => rfl, fun h => absurd rfl h⟩
  case isFalse => simp at h

theorem accept_reject_exclusive_reject :
    RejectedAtFirst smallFlow.toStatusLists
        ((orderMarket newOrder).after smallHandler
          (farmerLoads ++ [.start (.pressReject aFarmer), .serve 0])).state ∧
      KeepsRejected
        ((orderMarket newOrder).after smallHandler
          (farmerLoads ++ [.start (.pressReject aFarmer), .serve 0])).state
        (((orderMarket newOrder).after smallHandler
          (farmerLoads ++ [.start (.pressReject aFarmer), .serve 0])).after smallHandler
            [.start (.pressReject { aFarmer with slot := 1 }), .serve 1]).state :=
  accept_reject_exclusive (opening_orderMarket _) settled_newOrder
    (Run.after (by decide +kernel) (by decide +kernel))
    (Run.after (by decide +kernel) (by decide +kernel))

/-- The tablet rejects the order that the phone still shows as new, and the phone accepts
    it. -/
theorem accept_after_reject : ¬ ∀ u v w : Market, Opening u →
    (∀ (id : String) (o : Order), u.state.orders[id]? = some o →
      Settled smallFlow.toStatusLists o) →
    Run smallHandler .free u v → Run smallHandler .free v w →
    RejectedAtFirst smallFlow.toStatusLists w.state ∧ KeepsRejected v.state w.state := by
  intro h
  let u := orderMarket newOrder
  let rejects : List (Move Event) :=
    farmerLoads ++ [.start (.pressReject { aFarmer with slot := 1 }), .serve 0, .resume 0]
  have first := (h u (u.after smallHandler rejects) ((u.after smallHandler rejects).after
    smallHandler [.start (.pressAccept aFarmer), .serve 2]) (opening_orderMarket _)
    settled_newOrder (.after_free (by decide +kernel)) (.after_free (by decide +kernel))).1
  have both : ((u.after smallHandler rejects).after smallHandler
      [.start (.pressAccept aFarmer), .serve 2]).state.orders["1"]?.map
        (fun o => (o.isRejected, o.status)) = some (true, "Order Accepted") := by decide +kernel
  obtain ⟨o, ho, hboth⟩ := Option.map_eq_some_iff.1 both
  obtain ⟨hr, hs⟩ := Prod.mk.inj hboth
  have := first "1" o ho hr
  rw [hs] at this
  exact absurd this (by decide)

end Gherass
