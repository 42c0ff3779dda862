import Gherass.AcceptRejectExclusivity
import Gherass.DriverExclusivity

set_option autoImplicit false

/-!
# The order of the statuses

A button or a step compares with the copy on its own screen; the status it sends is
written whatever the stored status has become.
-/
namespace Gherass

open EventLoop OrdersController

/-- The place of a status in the farmer's list followed by the driver's. -/
def statusPosition (flow : StatusLists) (status : String) : ℕ :=
  (flow.farmer ++ flow.driver).idxOf status

/-- Every order of `v` is in `w` at the same status or a later one. -/
def StatusMonotone (flow : StatusLists) (v w : World) : Prop :=
  ∀ (id : String) (o : Order), v.orders[id]? = some o → ∃ p : Order, w.orders[id]? = some p ∧
    statusPosition flow o.status ≤ statusPosition flow p.status

/-- The check that let the status through on the sender's screen holds of the stored order
    too, or the order has that status already. -/
def stillAhead (flow : StatusLists) : Access → World → Bool
  | .acceptStatus _ id status isDriver, w => w.orders[id]?.all fun o =>
    (if isDriver then flow.farmer.getLast? else flow.farmer.head?) = some o.status ||
      o.status = status
  | .deliveryStatus _ id status _, w => w.orders[id]?.all fun o =>
    driverIndex flow o.status < driverIndex flow status || o.status = status
  | _, _ => true

section Positions

variable {flow : StatusFlow} {status : String}

theorem position_farmer (h : status ∈ flow.farmer) :
    statusPosition flow.toStatusLists status < flow.farmer.length := by
  rw [statusPosition, List.idxOf_append_of_mem h]
  exact List.idxOf_lt_length_of_mem h

theorem position_driver (h : status ∈ flow.driver) :
    statusPosition flow.toStatusLists status =
      flow.farmer.length + flow.driver.idxOf status := by
  have hf : status ∉ flow.farmer := fun hf =>
    (List.nodup_append.1 flow.nodup).2.2 status hf status h rfl
  rw [statusPosition, List.idxOf_append_of_notMem hf]

theorem position_head (h : flow.farmer.head? = some status) :
    statusPosition flow.toStatusLists status = 0 := by
  obtain ⟨rest, hrest⟩ := List.head?_eq_some_iff.1 h
  rw [statusPosition, hrest, List.cons_append, List.idxOf_cons_self]

theorem position_of_driverIndex {stored : String} (hs : stored ∈ flow.farmer ++ flow.driver)
    (h : status ∈ flow.driver)
    (hlt : driverIndex flow.toStatusLists stored < driverIndex flow.toStatusLists status) :
    statusPosition flow.toStatusLists stored ≤ statusPosition flow.toStatusLists status := by
  rw [position_driver h]
  by_cases hd : stored ∈ flow.driver
  · rw [position_driver hd]
    simp only [driverIndex, hd, h, if_true] at hlt
    omega
  · have hf := position_farmer ((List.mem_append.1 hs).resolve_right hd)
    omega

end Positions

def statusRules (flow : StatusFlow) : OrderRules flow.toStatusLists where
  Good o := o.status ∈ flow.farmer ++ flow.driver
  Next o p := statusPosition flow.toStatusLists o.status ≤
    statusPosition flow.toStatusLists p.status
  Holds _ _ := True
  Lands l o := match l with
    | .acceptStatus _ _ status isDriver =>
      (if isDriver then flow.farmer.getLast? else flow.farmer.head?) = some o.status ∨
        o.status = status
    | .deliveryStatus _ _ status _ =>
      driverIndex flow.toStatusLists o.status < driverIndex flow.toStatusLists status ∨
        o.status = status
    | _ => True
  refl _ := Nat.le_refl _
  trans := Nat.le_trans
  holds_later _ _ := trivial
  write {l o} hl hlands _ hgood := by
    cases l with
    | acceptStatus d id status isDriver =>
      cases isDriver with
      | false =>
        have hmem : status ∈ flow.farmer := List.mem_of_getElem? hl
        refine ⟨List.mem_append_left _ hmem, ?_⟩
        rcases hlands with hfirst | hsame
        · rw [position_head hfirst]
          exact Nat.zero_le _
        · exact Nat.le_of_eq (congrArg _ hsame)
      | true =>
        have hmem : status ∈ flow.driver := List.mem_of_getElem? hl
        refine ⟨List.mem_append_right _ hmem, ?_⟩
        rcases hlands with hlast | hsame
        · have := position_farmer (List.mem_of_getLast? hlast)
          have := position_driver hmem
          change statusPosition _ _ ≤ statusPosition _ status
          omega
        · exact Nat.le_of_eq (congrArg _ hsame)
    | deliveryStatus d id status shownDriver =>
      refine ⟨List.mem_append_right _ hl, ?_⟩
      rcases hlands with hlt | hsame
      · exact position_of_driverIndex hgood hl hlt
      · exact Nat.le_of_eq (congrArg _ hsame)
    | rejectButton d id => exact ⟨hgood, Nat.le_refl _⟩
    | _ => cases hl
  autoReject _ hgood := ⟨hgood, Nat.le_refl _⟩
  add hstatus _ _ := List.mem_append_left _ (List.mem_of_getElem? hstatus)
  setID hgood := ⟨hgood, Nat.le_refl _⟩
  own _ _ := trivial

theorem stillAhead_allowed {flow : StatusFlow} (l : Access) (w : World)
    (h : stillAhead flow.toStatusLists l w) : (statusRules flow).Allowed l w := by
  intro id hid o ho
  cases l with
  | acceptStatus d i status isDriver =>
    obtain rfl : i = id := Option.some.inj hid
    simpa [stillAhead, ho, statusRules] using h
  | deliveryStatus d i status shownDriver =>
    obtain rfl : i = id := Option.some.inj hid
    simpa [stillAhead, ho, statusRules] using h
  | _ => trivial

/-- Stored statuses only move on in every run in which the senders' checks still hold when
    their statuses are written. -/
theorem status_monotone {flow : StatusFlow} {ids : IdSupply} {u v w : Market} (hu : Opening u)
    (hgood : ∀ (id : String) (o : Order), u.state.orders[id]? = some o →
      o.status ∈ flow.farmer ++ flow.driver)
    (huv : Run (handler flow.toStatusLists ids) (.landing (stillAhead flow.toStatusLists)) u v)
    (hvw : Run (handler flow.toStatusLists ids) (.landing (stillAhead flow.toStatusLists)) v w) :
    StatusMonotone flow.toStatusLists v.state w.state :=
  ((statusRules flow).run_landing stillAhead_allowed hu hgood huv hvw).2

theorem listed_newOrder (id : String) (o : Order)
    (h : (orderMarket newOrder).state.orders[id]? = some o) :
    o.status ∈ smallFlow.farmer ++ smallFlow.driver := by
  have h := (World.putOrder_get {} "1" id { newOrder with orderID := some "1" }).symm.trans h
  split at h
  case isTrue =>
    obtain rfl := Option.some.inj h
    decide
  case isFalse => simp at h

def acceptedAndTaken : List (Move Event) :=
  farmerLoads ++ [.start (.pressAccept aFarmer), .serve 0, .resume 0, .serve 0, .resume 0,
    .serve 0, .resume 0] ++ acceptFirst aDriver

theorem status_monotone_taken :
    StatusMonotone smallFlow.toStatusLists (orderMarket newOrder).state
      ((orderMarket newOrder).after smallHandler acceptedAndTaken).state :=
  status_monotone (opening_orderMarket _) listed_newOrder (.refl _)
    (Run.after (by decide +kernel) (by decide +kernel))

/-- The tablet still shows the order as new, and its Accept takes the order back from
    "Picked Up". -/
theorem stale_accept_moves_back : ¬ ∀ u v w : Market, Opening u →
    (∀ (id : String) (o : Order), u.state.orders[id]? = some o →
      o.status ∈ smallFlow.farmer ++ smallFlow.driver) →
    Run smallHandler .free u v → Run smallHandler .free v w →
    StatusMonotone smallFlow.toStatusLists v.state w.state := by
  intro h
  let u := orderMarket newOrder
  let stale : List (Move Event) := [.start (.pressAccept { aFarmer with slot := 1 }), .serve 1]
  have keeps := h u (u.after smallHandler acceptedAndTaken)
    ((u.after smallHandler acceptedAndTaken).after smallHandler stale) (opening_orderMarket _)
    listed_newOrder (.after_free (by decide +kernel)) (.after_free (by decide +kernel))
  have before : (u.after smallHandler acceptedAndTaken).state.orders["1"]?.map (·.status) =
      some "Picked Up" := by decide +kernel
  have after : ((u.after smallHandler acceptedAndTaken).after smallHandler
      stale).state.orders["1"]?.map (·.status) = some "Order Accepted" := by decide +kernel
  obtain ⟨o, ho, hs⟩ := Option.map_eq_some_iff.1 before
  obtain ⟨p, hp, hle⟩ := keeps "1" o ho
  rw [hp, Option.map_some] at after
  have hs' : p.status = "Order Accepted" := Option.some.inj after
  rw [hs, hs'] at hle
  exact absurd hle (by decide)

end Gherass
