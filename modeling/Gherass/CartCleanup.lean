import Gherass.CartReads
import Gherass.PlacementAtomicity

set_option autoImplicit false

/-!
# What placing an order leaves in the cart

The order takes the lines on show; the cleanup after it deletes every farmer's document.
-/
namespace Gherass

open EventLoop EventLoop.Async FirebaseHelper

def Order.leavesOut (o : Order) (p : Product) : Bool :=
  p.prodId ∉ o.orderDetails.map (·.productId)

/-- The products in the cart that the order leaves out are still stored after it, and a
    read for their farmer still returns them. -/
def RestKept (flow : StatusLists) (ids : IdSupply) (ok : Access → Bool) (d : Device) (o : Order)
    (s : World) : Prop :=
  ∀ (farmerId id : String) (p : Product),
    ((s.carts d.uid).products farmerId)[id]? = some p → o.leavesOut p →
    (((afterOrder flow ids ok d s).carts d.uid).products farmerId)[id]? = some p ∧
      readsBack d.uid farmerId p (afterOrder flow ids ok d s)

def sameCarts : Contract World Access := .ofFrame World.carts

theorem keepsPages_sameCarts : KeepsPages sameCarts where
  plain _ _ := trivial
  pages _ _ _ := ⟨trivial, rfl⟩

theorem keepsStock_sameCarts : KeepsStock sameCarts where
  plain _ _ := trivial
  shows _ _ _ _ _ := trivial
  stock farmerId productId _ _ :=
    keeps_updateFarmProduct (fun _ _ _ => ⟨trivial, rfl⟩) farmerId productId _
  deletes := keeps_deleteProductDoc fun _ _ _ => ⟨trivial, rfl⟩
  audits _ _ _ := ⟨trivial, rfl⟩

variable {flow : StatusLists} {ids : IdSupply} {ok : Access → Bool} {d : Device} {s : World}
  {o : Order}

theorem afterPost_carts : (afterPost ok ids d o s).carts = s.carts := by
  obtain ⟨orders, autoIds, h⟩ := placed_frame ok ids o s
  rw [afterPost, World.setCartPage, h]

variable (ids) in
theorem afterOrder_cart (h : posted flow ok d s = some o) :
    (afterOrder flow ids ok d s).carts d.uid =
      if ok .plain then (s.carts d.uid).withoutDocs else s.carts d.uid := by
  set w := ((MyCartController.updateProduct d).task.alone ok (afterPost ok ids d o s)).2 with hw
  have updated : w.carts = s.carts :=
    ((quiet_updateProduct keepsStock_sameCarts d).alone trivial).2.trans afterPost_carts
  have deleted : Yields ok (cartDelete d.uid) w (.ok ())
      (if ok .plain then w.setCart d.uid CartStore.withoutDocs else w) := yields_cartDelete d.uid
  have run : afterOrder flow ids ok d s = ((do
      MyCartController.setPage d fun c => { c with selectedDate := "", selectedTime := "" }
      MyCartController.delay
      MyCartController.setPage d fun c => c.setList fun _ => [] : Program Unit).task.alone ok
        (if ok .plain then w.setCart d.uid CartStore.withoutDocs else w)).2 := by
    rw [afterOrder, placeOrder_alone_posted h, Yields.task_bind (.spawn _), ← hw]
    exact congrArg Prod.snd deleted.task_bind
  have cleared : (afterOrder flow ids ok d s).carts =
      (if ok .plain then w.setCart d.uid CartStore.withoutDocs else w).carts := by
    rw [run]
    exact ((quiet_clearPage keepsPages_sameCarts d _ _).alone trivial).2
  rw [cleared]
  split
  · rw [World.setCart_self, updated]
  · rw [updated]

/-- What an order leaves out is kept exactly when there is no such product, or the cleanup
    fails and reads return it already. -/
theorem rest_kept_iff (h : posted flow ok d s = some o) : RestKept flow ids ok d o s ↔
    ∀ (farmerId id : String) (p : Product), ((s.carts d.uid).products farmerId)[id]? = some p →
      o.leavesOut p → ok .plain = false ∧ p ∈ (s.carts d.uid).read := by
  have hcart := afterOrder_cart ids h
  cases plain : ok .plain with
  | true =>
    rw [plain, if_pos rfl] at hcart
    constructor
    · intro hkept farmerId id p hp hout
      have hback := (hkept farmerId id p hp hout).2
      rw [readsBack_iff, hcart, CartStore.read_withoutDocs] at hback
      cases hback
    · intro hnone farmerId id p hp hout
      cases (hnone farmerId id p hp hout).1
  | false =>
    rw [plain, if_neg Bool.false_ne_true] at hcart
    constructor
    · intro hkept farmerId id p hp hout
      have hback := (hkept farmerId id p hp hout).2
      rw [readsBack_iff, hcart] at hback
      exact ⟨rfl, hback⟩
    · intro hread farmerId id p hp hout
      rw [readsBack_iff, hcart]
      exact ⟨hp, (hread farmerId id p hp hout).2⟩

theorem rest_kept_datesCart : ∃ o,
    posted smallFlow.toStatusLists (fun _ => true) aCustomer datesCart = some o ∧
      RestKept smallFlow.toStatusLists .longer (fun _ => true) aCustomer o datesCart := by
  obtain ⟨o, ho⟩ : ∃ o, posted smallFlow.toStatusLists (fun _ => true) aCustomer datesCart =
      some o := Option.isSome_iff_exists.1 (by decide +kernel)
  have hlines : (posted smallFlow.toStatusLists (fun _ => true) aCustomer datesCart).all
      fun o => !o.leavesOut ((datesPage 3).objects 0) := by decide +kernel
  rw [ho, Option.all_some, Bool.not_eq_true'] at hlines
  refine ⟨o, ho, (rest_kept_iff ho).2 fun farmerId id p hp hout => ?_⟩
  dsimp only [datesCart] at hp
  split at hp
  · rw [Std.TreeMap.getElem?_insert] at hp
    split at hp
    · rw [← Option.some.inj hp, hlines] at hout
      cases hout
    · simp at hp
  · simp at hp

def mixedCart : World :=
  runEach smallHandler twoFarmsMarket
    (undisturbed (.addToCart aCustomer someHoney :: fillCart aCustomer 3))

/-- After the order for the dates, no read returns the honey. -/
theorem honey_unreachable : ¬ ∀ (d : Device) (o : Order) (s : World),
    posted smallFlow.toStatusLists (fun _ => true) d s = some o →
    RestKept smallFlow.toStatusLists .longer (fun _ => true) d o s := by
  intro h
  obtain ⟨o, ho⟩ : ∃ o, posted smallFlow.toStatusLists (fun _ => true) aCustomer mixedCart =
      some o := Option.isSome_iff_exists.1 (by decide +kernel)
  have hout : (posted smallFlow.toStatusLists (fun _ => true) aCustomer mixedCart).all
      fun o => o.leavesOut { someHoney with id := "x" } := by decide +kernel
  rw [ho, Option.all_some] at hout
  have hback := (h aCustomer o mixedCart ho "other farmer" "x" { someHoney with id := "x" }
    (by decide +kernel) hout).2
  exact absurd hback (by decide +kernel)

end Gherass
