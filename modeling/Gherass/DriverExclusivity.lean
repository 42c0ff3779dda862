import Gherass.OrderRules

set_option autoImplicit false

/-!
# An order and its driver

The list a driver accepts from may be stale, and the write does not look at what it
overwrites.
-/
namespace Gherass

open EventLoop

def KeepsDrivers (v w : World) : Prop :=
  ∀ (id : String) (o : Order), v.orders[id]? = some o → o.driverId ≠ "" →
    ∃ p : Order, w.orders[id]? = some p ∧ p.driverId = o.driverId

/-- A driver's Accept lands on an order without a driver or on the driver's own, and so
    does a delivery step from a page whose copy does not show the driver as its driver. -/
def acceptsUnassigned : Access → World → Bool
  | .acceptStatus d id _ isDriver, w =>
    w.orders[id]?.all fun o => !isDriver || o.driverId = "" || o.driverId = d.uid.val
  | .deliveryStatus d id _ shownDriver, w =>
    w.orders[id]?.all fun o => shownDriver = d.uid.val || o.driverId = "" || o.driverId = d.uid.val
  | _, _ => true

def driverRules (flow : StatusLists) : OrderRules flow where
  Good _ := True
  Next o p := o.driverId ≠ "" → p.driverId = o.driverId
  Holds d o := o.driverId = d.uid
  Lands l o := match l with
    | .acceptStatus d _ _ true => o.driverId = "" ∨ o.driverId = d.uid
    | .deliveryStatus d _ _ shownDriver =>
      shownDriver = d.uid ∨ o.driverId = "" ∨ o.driverId = d.uid
    | _ => True
  refl _ _ := rfl
  trans h h' hd := by
    have e := h hd
    rw [← e]
    exact h' (e ▸ hd)
  holds_later {d o p} h hd := by
    have : o.driverId ≠ "" := by
      rw [hd]
      exact d.uid.2
    exact (h this).trans hd
  write {l o} hl hlands hheld _ := by
    refine ⟨trivial, fun hd => ?_⟩
    cases l with
    | acceptStatus d id status isDriver =>
      cases isDriver with
      | false => rfl
      | true => exact (hlands.resolve_left hd).symm
    | deliveryStatus d id status shownDriver =>
      rcases hlands with rfl | h | h
      · exact (hheld d id status rfl).symm
      · exact absurd h hd
      · exact h.symm
    | rejectButton d id => rfl
    | _ => cases hl
  autoReject _ _ := ⟨trivial, fun _ => rfl⟩
  add _ _ _ := trivial
  setID _ := ⟨trivial, fun _ => rfl⟩
  own _ hd := hd

theorem acceptsUnassigned_allowed {flow : StatusLists} (l : Access) (w : World)
    (h : acceptsUnassigned l w) : (driverRules flow).Allowed l w := by
  intro id hid o ho
  cases l with
  | acceptStatus d i status isDriver =>
    obtain rfl : i = id := Option.some.inj hid
    simp only [acceptsUnassigned, ho, Option.all_some] at h
    cases isDriver with
    | false => trivial
    | true => simpa [driverRules] using h
  | deliveryStatus d i status shownDriver =>
    obtain rfl : i = id := Option.some.inj hid
    simp only [acceptsUnassigned, ho, Option.all_some] at h
    simpa [driverRules, or_assoc] using h
  | _ => trivial

/-- An order keeps its driver in every run in which orders are only taken while they are
    free. -/
theorem driver_exclusive {flow : StatusLists} {ids : IdSupply} {u v w : Market}
    (hu : Opening u) (huv : Run (handler flow ids) (.landing acceptsUnassigned) u v)
    (hvw : Run (handler flow ids) (.landing acceptsUnassigned) v w) :
    KeepsDrivers v.state w.state := by
  intro id o ho hd
  obtain ⟨p, hp, hnext⟩ := ((driverRules flow).run_landing acceptsUnassigned_allowed hu
    (fun _ _ _ => trivial) huv hvw).2 id o ho
  exact ⟨p, hp, hnext hd⟩

def acceptFirst (d : Device) : List (Move Event) :=
  [.start (.openOrders d), .serve 0, .serve 1, .resume 0, .resume 0,
    .start (.selectOrder d false 0), .start (.pressAccept d), .serve 0]

def deliverFirst (d : Device) : List (Move Event) :=
  [.resume 0, .serve 0, .serve 1, .resume 0, .resume 0, .start (.toggleSteps d 0),
    .start (.tapStatus d 0 1), .serve 0]

theorem driver_exclusive_delivery :
    KeepsDrivers
      ((orderMarket { status := "Order Accepted" }).after smallHandler
        (acceptFirst aDriver)).state
      (((orderMarket { status := "Order Accepted" }).after smallHandler
        (acceptFirst aDriver)).after smallHandler (deliverFirst aDriver)).state :=
  driver_exclusive (opening_orderMarket _) (Run.after (by decide +kernel) (by decide +kernel))
    (Run.after (by decide +kernel) (by decide +kernel))

/-- Two drivers load the list while the order is free; the second Accept takes the order
    from the first driver. -/
theorem accept_overwrites_driver : ¬ ∀ u v w : Market, Opening u →
    Run smallHandler .free u v → Run smallHandler .free v w → KeepsDrivers v.state w.state := by
  intro h
  let u := orderMarket { status := "Order Accepted" }
  let loads : List (Move Event) :=
    [.start (.openOrders aDriver), .serve 0, .serve 1, .resume 0, .resume 0,
      .start (.openOrders anotherDriver), .serve 0, .serve 1, .resume 0, .resume 0,
      .start (.selectOrder aDriver false 0), .start (.selectOrder anotherDriver false 0),
      .start (.pressAccept aDriver), .start (.pressAccept anotherDriver), .serve 0]
  have keeps := h u (u.after smallHandler loads) ((u.after smallHandler loads).after smallHandler
    [.serve 1]) (opening_orderMarket _) (.after_free (by decide +kernel))
    (.after_free (by decide +kernel))
  have first : (u.after smallHandler loads).state.orders["1"]?.map (·.driverId) =
      some "driver" := by decide +kernel
  have second : ((u.after smallHandler loads).after smallHandler
      [.serve 1]).state.orders["1"]?.map (·.driverId) = some "other driver" := by decide +kernel
  obtain ⟨o, ho, hd⟩ := Option.map_eq_some_iff.1 first
  obtain ⟨p, hp, hsame⟩ := keeps "1" o ho (by rw [hd]; decide)
  rw [hp, Option.map_some, hsame, hd] at second
  exact absurd second (by decide)

end Gherass
