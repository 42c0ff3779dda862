import Gherass.CartFlow
import Gherass.OrderTotals
import Mathlib.Algebra.Order.BigOperators.Group.List
import Mathlib.Algebra.Order.Ring.Rat

set_option autoImplicit false

/-!
# Bounds of the cart lines

A failed stock read answers -1, and the validation of a line clamps to it.
-/
namespace Gherass

open EventLoop EventLoop.Async FirebaseHelper MyCartController

/-- One of it at least, and not for a negative price. -/
structure Product.Sellable (p : Product) : Prop where
  one_le : 1 ≤ p.qty
  price_nonneg : 0 ≤ p.price

instance (p : Product) : Decidable p.Sellable :=
  decidable_of_iff (1 ≤ p.qty ∧ 0 ≤ p.price) ⟨fun h => ⟨h.1, h.2⟩, fun h => ⟨h.1, h.2⟩⟩

def World.WithinValidated (w : World) : Prop :=
  ∀ (uid : Uid) (farmerId id : String) (p : Product) (stock : ℤ),
    (w.carts uid).line farmerId id = some p → w.validated uid (farmerId, id) = some stock →
      p.qty ≤ stock

def Event.addsSellable : Event → Bool
  | .addToCart _ p => p.Sellable
  | _ => true

/-- A validation is answered with a stock of one at least, and what is added to a line or
    requested of it is within the stock of its last validation. -/
def stockRead : Access → World → Bool
  | .validate _ _ totalQty, _ => 1 ≤ totalQty
  | .addQty uid p id existingQty, w =>
    (w.validated uid (p.farmerId, id)).all fun stock => existingQty + p.qty ≤ stock
  | .storeLine uid p _, w => (w.validated uid (p.farmerId, p.id)).all fun stock => p.qty ≤ stock
  | _, _ => true

def boundsGuard : Guard World Access Event := .starting Event.addsSellable stockRead

instance : boundsGuard.Checks := inferInstanceAs (Guard.starting _ _).Checks

def boundsContract : Contract World Access where
  inv w := ∀ (uid : Uid) (farmerId id : String) (stock : ℤ),
    w.validated uid (farmerId, id) = some stock →
      0 ≤ stock ∧ ∃ p, (w.carts uid).line farmerId id = some p ∧ p.qty ≤ stock
  rel _ _ := True
  shows _ _ := True
  refl _ := trivial
  trans _ _ := trivial

section Frames

theorem keeps_bounds {s t : World} (hs : boundsContract.inv s) (hv : t.validated = s.validated)
    (hline : ∀ uid farmerId id stock p, s.validated uid (farmerId, id) = some stock → 0 ≤ stock →
      (s.carts uid).line farmerId id = some p → p.qty ≤ stock →
      ∃ q, (t.carts uid).line farmerId id = some q ∧ q.qty ≤ stock) :
    boundsContract.inv t ∧ boundsContract.rel s t := by
  refine ⟨fun uid farmerId id stock h => ?_, trivial⟩
  rw [hv] at h
  obtain ⟨hpos, p, hp, hle⟩ := hs uid farmerId id stock h
  exact ⟨hpos, hline uid farmerId id stock p h hpos hp hle⟩

theorem keeps_bounds_frame {f : World → World}
    (hf : ∀ w, (f w).carts = w.carts ∧ (f w).validated = w.validated) :
    boundsContract.Keeps f := by
  intro s hs
  obtain ⟨hcarts, hvalidated⟩ := hf s
  refine keeps_bounds hs hvalidated fun uid farmerId id stock p _ _ hp hle => ⟨p, ?_, hle⟩
  rw [hcarts]
  exact hp

theorem keeps_bounds_update {s : World} (hs : boundsContract.inv s) {uid : Uid}
    {farmerId id : String} {f : Product → Product}
    (hf : ∀ p stock, s.validated uid (farmerId, id) = some stock → p.qty ≤ stock →
      (f p).qty ≤ stock) :
    boundsContract.inv (updateCartProduct uid farmerId id f s).1 ∧
      boundsContract.rel s (updateCartProduct uid farmerId id f s).1 := by
  have validated : (updateCartProduct uid farmerId id f s).1.validated = s.validated := by
    unfold updateCartProduct
    split
    · rfl
    · rfl
  refine keeps_bounds hs validated fun uid' f' i stock p hstock _ hp hle => ?_
  rw [line_updateCartProduct, hp]
  split
  case isTrue hpath =>
    obtain ⟨rfl, rfl, rfl⟩ := hpath
    exact ⟨f p, rfl, hf p stock hstock hle⟩
  case isFalse => exact ⟨p, rfl, hle⟩

theorem keeps_bounds_store {s : World} (hs : boundsContract.inv s) {uid : Uid} {p : Product}
    (hp : ∀ stock, s.validated uid (p.farmerId, p.id) = some stock → 0 ≤ stock → p.qty ≤ stock) :
    boundsContract.inv (setCartProduct uid p.farmerId p.id p s) ∧
      boundsContract.rel s (setCartProduct uid p.farmerId p.id p s) := by
  refine keeps_bounds hs rfl fun uid' f i stock q hstock hpos hq hle => ?_
  rw [line_setCartProduct]
  split
  case isTrue hpath =>
    obtain ⟨rfl, rfl, rfl⟩ := hpath
    exact ⟨p, rfl, hp stock hstock hpos⟩
  case isFalse => exact ⟨q, hq, hle⟩

theorem keeps_bounds_updateOrder (id : String) (f : Order → Order) :
    boundsContract.Keeps fun w => (updateOrder id f w).1 :=
  keeps_bounds_frame fun w => by
    obtain ⟨orders, hframe⟩ := updateOrder_frame id f w
    exact ⟨by rw [hframe], by rw [hframe]⟩

theorem keepsStaff_bounds : KeepsStaff boundsContract where
  plain _ _ := trivial
  shows _ _ _ _ := trivial
  details _ := keeps_bounds_frame fun _ => ⟨rfl, rfl⟩
  homes _ := keeps_bounds_frame fun _ => ⟨rfl, rfl⟩
  maps _ _ := keeps_bounds_frame fun _ => ⟨rfl, rfl⟩
  writes l id := keeps_bounds_updateOrder id l.apply

theorem keepsTimers_bounds : KeepsTimers boundsContract where
  shows _ _ _ _ := trivial
  timers _ := keeps_bounds_frame fun _ => ⟨rfl, rfl⟩
  rejects id := keeps_bounds_updateOrder id _

theorem keepsStock_bounds : KeepsStock boundsContract where
  plain _ _ := trivial
  shows _ _ _ _ _ := trivial
  stock farmerId productId _ _ := keeps_updateFarmProduct
    (fun _ => keeps_bounds_frame fun _ => ⟨rfl, rfl⟩) farmerId productId _
  deletes := keeps_deleteProductDoc fun _ => keeps_bounds_frame fun _ => ⟨rfl, rfl⟩
  audits _ := keeps_bounds_frame fun _ => ⟨rfl, rfl⟩

end Frames

theorem validated_record (w : World) (uid uid' : Uid) (farmerId id f i : String)
    (stock : Option ℤ) : (w.recordValidation uid farmerId id stock).validated uid' (f, i) =
      if uid = uid' ∧ farmerId = f ∧ id = i then stock else w.validated uid' (f, i) := by
  simp only [World.recordValidation, Function.update_apply]
  grind

theorem cartFlow_bounds : CartFlow Product.Sellable boundsContract boundsGuard where
  rename _ _ hp := ⟨hp.one_le, hp.price_nonneg⟩
  sum p q r hp hq hr := ⟨by have := hq.one_le; have := hr.one_le; dsimp only; omega, hp.price_nonneg⟩
  edit p qty hp hqty := ⟨hqty, hp.price_nonneg⟩
  clamp d p totalQty s hl hp _ := by
    change stockRead _ s = true at hl
    simp only [stockRead, decide_eq_true_eq] at hl
    exact ⟨hl, hp.price_nonneg⟩
  added d p s hstart := by
    change Event.addsSellable (.addToCart d p) = true at hstart
    simpa only [Event.addsSellable, decide_eq_true_eq] using hstart
  shows _ _ _ _ _ := trivial
  pages _ := keeps_bounds_frame fun _ => ⟨rfl, rfl⟩
  requests _ := keeps_bounds_frame fun _ => ⟨rfl, rfl⟩
  docs uid f s hs := keeps_bounds hs rfl fun uid' farmerId id _ p _ _ hp hle =>
    ⟨p, by rw [line_setDocs]; exact hp, hle⟩
  addLine ids uid farmerId p s hs := by
    refine keeps_bounds hs rfl fun uid' f i _ q _ _ hq hle => ⟨q, ?_, hle⟩
    change ((setCartProduct uid farmerId (s.lineId ids uid farmerId) p s).carts uid').line f i = _
    rw [line_setCartProduct, if_neg, hq]
    rintro ⟨rfl, rfl, rfl⟩
    rw [lineId_free] at hq
    cases hq
  named uid farmerId id docRef s hs := keeps_bounds_update hs fun _ _ _ hle => hle
  addQty uid p id existingQty s hs hl := by
    change stockRead _ s = true at hl
    simp only [stockRead, Option.all_eq_true, decide_eq_true_eq] at hl
    exact keeps_bounds_update hs fun _ stock hstock _ => hl stock hstock
  storeLine uid p previousQty s hs hl := by
    change stockRead _ s = true at hl
    simp only [stockRead, Option.all_eq_true, decide_eq_true_eq] at hl
    exact keeps_bounds_store hs fun stock hstock _ => hl stock hstock
  writeBack uid p totalQty s hs hle := by
    unfold storeCartProduct
    dsimp only
    split
    case isFalse hneg => exact keeps_bounds_store hs fun stock _ hpos => by omega
    case isTrue hpos =>
      refine ⟨fun uid' f i stock hstock => ?_, trivial⟩
      rw [validated_record] at hstock
      change 0 ≤ stock ∧ ∃ q,
        ((setCartProduct uid p.farmerId p.id p s).carts uid').line f i = some q ∧ q.qty ≤ stock
      rw [line_setCartProduct]
      split at hstock
      case isTrue hpath =>
        cases hstock
        rw [if_pos hpath]
        exact ⟨hpos, p, rfl, hle⟩
      case isFalse hpath =>
        rw [if_neg hpath]
        exact hs uid' f i stock hstock
  delete uid farmerId id s hs := by
    refine ⟨fun uid' f i stock hstock => ?_, trivial⟩
    rw [line_deleteCartProduct]
    change ((s.setCart uid _).recordValidation uid farmerId id none).validated uid' (f, i) =
      some stock at hstock
    rw [validated_record] at hstock
    split at hstock
    case isTrue => cases hstock
    case isFalse hpath =>
      rw [if_neg hpath]
      exact hs uid' f i stock hstock

def boundsPosting (d : Device) :
    Posting (cartsHold Product.Sellable boundsContract) boundsGuard d where
  lines _ _ _ _ := True
  good _ _ := True
  enter _ _ _ := trivial
  line _ _ _ _ _ _ _ _ _ _ _ _ _ := trivial
  post _ _ _ _ _ _ _ _ _ _ _ := ⟨trivial, trivial⟩
  add ids o _ t _ ht _ := by
    have added : boundsContract.Keeps fun w => (addOrder ids { o with orderID := none } w).1 :=
      keeps_bounds_frame fun _ => ⟨rfl, rfl⟩
    exact keeps_cartsHold added (fun _ => ⟨rfl, rfl⟩) t ht

theorem spec_placeOrder_bounds {flow : StatusLists} (ids : IdSupply) (d : Device) :
    Spec (cartsHold Product.Sellable boundsContract) boundsGuard (fun _ => True)
      (MyCartController.placeOrder flow ids d) (fun _ _ => True) fun _ _ => True :=
  (boundsPosting d).spec_placeOrder (fun _ _ _ _ _ => trivial)
    (fun id => keeps_updateOrder (keeps_bounds_updateOrder id _))
    (fun orderId => cartFlow_bounds.quiet_besideLists (f := fun c => { c with orderId := orderId })
      d fun _ => ⟨rfl, rfl⟩)
    (quiet_updateProduct (keepsStock_cartsHold keepsStock_bounds) d)
    (cartFlow_bounds.quiet_emptyCart d)

theorem totalPrice_nonneg {c : MyCartController} (h : ∀ p ∈ c.shown, p.Sellable) :
    0 ≤ c.totalPrice := by
  rw [totalPrice_eq]
  refine List.sum_nonneg fun x hx => ?_
  obtain ⟨p, hp, rfl⟩ := List.mem_map.1 hx
  have qty : (0 : ℚ) ≤ p.qty := by
    have := (h p hp).one_le
    exact_mod_cast (by omega : (0 : ℤ) ≤ p.qty)
  exact mul_nonneg (h p hp).price_nonneg qty

/-- Every stored line has one at least and is within the stock of its last validation, and no
    total is negative. -/
structure World.LinesBounded (w : World) : Prop where
  one_le : ∀ (uid : Uid) (farmerId id : String) (p : Product),
    (w.carts uid).line farmerId id = some p → 1 ≤ p.qty
  within : w.WithinValidated
  total_nonneg : ∀ d, 0 ≤ (w.cartPages d).totalPrice

/-- The bounds hold in every run in which the validations read a stock of one at least and
    nothing beyond a validation is written. -/
theorem lines_bounded {flow : StatusLists} {ids : IdSupply} {u v : Market} (hu : u.slots = [])
    (hcarts : u.state.CartsHold Product.Sellable)
    (hnew : ∀ uid line, u.state.validated uid line = none)
    (huv : Run (handler flow ids) boundsGuard u v) : v.state.LinesBounded := by
  have idle : u.Safe (cartsHold Product.Sellable boundsContract) boundsGuard := by
    refine ⟨⟨hcarts, fun uid farmerId id stock h => ?_⟩, fun x hx => by rw [hu] at hx; cases hx⟩
    rw [hnew] at h
    cases h
  obtain ⟨hold, hbounds⟩ := (Run.safe (cartFlow_bounds.handler_safe keepsStaff_bounds
    keepsTimers_bounds keepsStock_bounds (fun _ => keeps_bounds_frame fun _ => ⟨rfl, rfl⟩) ids
    (spec_placeOrder_bounds ids)) huv idle).1.1
  refine ⟨fun uid farmerId id p hp => (hold.stored uid farmerId id p hp).one_le,
    fun uid farmerId id p stock hp hstock => ?_, fun d => totalPrice_nonneg fun p hp => ?_⟩
  · obtain ⟨-, q, hq, hle⟩ := hbounds uid farmerId id stock hstock
    rw [hp] at hq
    cases hq
    exact hle
  · obtain ⟨i, hi, rfl⟩ := List.mem_map.1 hp
    exact hold.listed d _ i hi

theorem cartsHold_datesCart : datesCart.CartsHold Product.Sellable := by
  have sellable : ((datesPage 3).objects 0).Sellable := by decide +kernel
  refine ⟨fun uid farmerId id p hp => ?_, fun _ _ _ _ => sellable⟩
  simp only [CartStore.line, datesCart] at hp
  split at hp
  · rw [Std.TreeMap.getElem?_insert] at hp
    split at hp
    · cases hp
      exact sellable
    · simp at hp
  · simp at hp

def openedAndValidated : List (Move Event) :=
  [.start (.openCart aCustomer "farmer"), .serve 0, .resume 0, .serve 0, .resume 0, .serve 0,
    .resume 0, .serve 0, .resume 0, .serve 1]

theorem lines_bounded_dates :
    ((⟨datesCart, []⟩ : Market).after smallHandler openedAndValidated).state.LinesBounded :=
  lines_bounded rfl cartsHold_datesCart (fun _ _ => rfl)
    (Run.after (by decide +kernel) (by decide +kernel))

/-- The farmer deletes the dates before the cart is opened. -/
theorem minus_one_stored : ¬ ∀ u v : Market, u.slots = [] → u.state.CartsHold Product.Sellable →
    (∀ uid line, u.state.validated uid line = none) → Run smallHandler .free u v →
    v.state.LinesBounded := by
  intro h
  have bounded := h ⟨datesCart, []⟩ ((⟨datesCart, []⟩ : Market).after smallHandler
      ([.start (.deleteProduct aFarmer "dates"), .serve 0, .resume 0] ++ openedAndValidated))
    rfl cartsHold_datesCart (fun _ _ => rfl) (Run.after_free (by decide +kernel))
  have stored : (((⟨datesCart, []⟩ : Market).after smallHandler
      ([.start (.deleteProduct aFarmer "dates"), .serve 0, .resume 0] ++
        openedAndValidated)).state.carts aCustomer.uid).line "farmer" "1" =
      some { (datesPage 3).objects 0 with qty := -1 } := by decide +kernel
  exact absurd (bounded.one_le _ _ _ _ stored) (by decide)

end Gherass
