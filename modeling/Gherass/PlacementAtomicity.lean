import Gherass.OrderPlacement

set_option autoImplicit false

/-!
# Whether an order is placed as a whole

The helper answers a failed call with the empty id, and nobody looks at it.
-/
namespace Gherass

open EventLoop EventLoop.Async

variable (flow : StatusLists) (ids : IdSupply) (ok : Access → Bool) (d : Device) (s : World)

def reported : Option Bool × World :=
  (MyCartController.postOrderComplete flow ids d).result.alone ok s

/-- The id that the helper's `placeOrder` has answered with. -/
def placedId : String := ((reported flow ids ok d s).2.cartPages d).orderId

def afterOrder : World := ((handler flow ids (.placeOrder d)).alone ok s).2

/-- With the empty id, nothing has changed and the failure is reported; with another, the
    order carries it. -/
structure PlacedWhole : Prop where
  failed : placedId flow ids ok d s = "" →
    (afterOrder flow ids ok d s).orders = s.orders ∧
    (afterOrder flow ids ok d s).products = s.products ∧
    (afterOrder flow ids ok d s).carts = s.carts ∧ (reported flow ids ok d s).1 = some false
  succeeded : placedId flow ids ok d s ≠ "" → (reported flow ids ok d s).1 = some true →
    ∃ o, (afterOrder flow ids ok d s).orders[placedId flow ids ok d s]? = some o ∧
      o.orderID = some (placedId flow ids ok d s)

variable {flow ids ok d s}

theorem reported_eq : reported flow ids ok d s =
    (some (posted flow ok d s).isSome, match posted flow ok d s with
      | some o => afterPost ok ids d o s
      | none => s) := (yields_postOrderComplete flow ids).result

theorem placedId_posted {o : Order} (h : posted flow ok d s = some o) :
    placedId flow ids ok d s = (placed ok ids o s).1 := by
  rw [placedId, reported_eq, h]
  change ((afterPost ok ids d o s).cartPages d).orderId = _
  rw [afterPost, World.setCartPage_self]

theorem placedWhole_of_not_posted (h : (posted flow ok d s).isNone) :
    PlacedWhole flow ids ok d s := by
  have hafter : afterOrder flow ids ok d s = s := congrArg Prod.snd (placeOrder_alone h)
  have hreport : (reported flow ids ok d s).1 = some false := by
    rw [reported_eq, Option.isNone_iff_eq_none.1 h]
    rfl
  refine ⟨fun _ => ?_, fun _ ht => ?_⟩
  · rw [hafter]
    exact ⟨rfl, rfl, rfl, hreport⟩
  · rw [hreport] at ht
    cases ht

/-- An order is placed as a whole exactly when the page is not ready to post one or
    neither of the two calls fails. -/
theorem placedWhole_iff : PlacedWhole flow ids ok d s ↔
    (readyToPost flow d s → ok .addOrder = true ∧ ok .setOrderID = true) := by
  rw [← posted_isSome ok]
  cases hposted : posted flow ok d s with
  | none => exact ⟨fun _ h => (by cases h), fun _ => placedWhole_of_not_posted (by rw [hposted]; rfl)⟩
  | some o =>
    have hid : placedId flow ids ok d s = (placed ok ids o s).1 := placedId_posted hposted
    have hreport : (reported flow ids ok d s).1 = some true := by
      rw [reported_eq, hposted]
      rfl
    refine ⟨fun h _ => ?_, fun h => ?_⟩
    · -- a failed call leaves the empty id, and yet `true` is reported
      by_contra hfail
      have hempty : placedId flow ids ok d s = "" := by
        rw [hid, placed]
        cases hadd : ok .addOrder with
        | false => simp
        | true =>
          cases hset : ok .setOrderID with
          | false => simp
          | true => exact absurd ⟨hadd, hset⟩ hfail
      have := (h.failed hempty).2.2.2
      rw [hreport] at this
      cases this
    · obtain ⟨hadd, hset⟩ := h rfl
      rw [placed_through hadd hset] at hid
      refine ⟨fun hempty => absurd (hid.symm.trans hempty) (ids.nonempty _ _), fun _ _ =>
        ⟨{ o with orderID := some (placedId flow ids ok d s) }, ?_, rfl⟩⟩
      rw [afterOrder, placeOrder_orders hposted, placed_through hadd hset, hid,
        World.putOrder_get, if_pos rfl]

/-- The `add` fails; `postOrderComplete` reports an order all the same. -/
theorem failed_add_reported : ¬ ∀ (ids : IdSupply) (ok : Access → Bool) (d : Device) (s : World),
    PlacedWhole smallFlow.toStatusLists ids ok d s := by
  intro h
  have whole := h .longer (fun l => l ≠ .addOrder) aCustomer
    { datesMarket with cartPages := fun _ => datesPage 3 }
  have report := (whole.failed (by decide +kernel)).2.2.2
  exact absurd report (by decide +kernel)

end Gherass
