import Gherass.OrderPlacement
import Gherass.ListSums

set_option autoImplicit false

/-!
# Stock and orders, product by product

What the programs do to the stored quantity of a product and to the quantity ordered of
it, when each of them runs alone.
-/
namespace Gherass

open EventLoop EventLoop.Async FirebaseHelper ListSums

def linesQty (productId : String) (lines : List OrderLine) : ℤ :=
  (lines.map fun line => if line.productId = productId then line.qty else 0).sum

namespace World

def ordered (w : World) (productId : String) : ℤ :=
  (w.orders.toList.map fun o => linesQty productId o.2.orderDetails).sum

/-- The stored quantity of a product; nothing, if there is no such product. -/
def stock (w : World) (productId : String) : ℤ :=
  ((w.products productId).map FarmProduct.stock).getD 0

theorem ordered_fresh {w : World} {id : String} {o : Order} (h : w.orders[id]? = none)
    (productId : String) : (w.putOrder id o).ordered productId =
      linesQty productId o.orderDetails + w.ordered productId :=
  sum_toList_fresh (fun o : Order => linesQty productId o.orderDetails) o h

theorem ordered_same {w : World} {id : String} {o p : Order} (h : w.orders[id]? = some o)
    (hp : p.orderDetails = o.orderDetails) : (w.putOrder id p).ordered = w.ordered :=
  funext fun productId =>
    sum_toList_same (fun o : Order => linesQty productId o.orderDetails) h (congrArg _ hp)

end World

def sameAccounts : Contract World Access := .ofFrame fun w => (w.products, w.ordered)

theorem updateOrder_ordered {f : Order → Order} (hf : ∀ o, (f o).orderDetails = o.orderDetails)
    (id : String) (w : World) : (updateOrder id f w).1.products = w.products ∧
      (updateOrder id f w).1.ordered = w.ordered := by
  unfold updateOrder
  split
  · rename_i o ho
    exact ⟨rfl, World.ordered_same ho (hf o)⟩
  · exact ⟨rfl, rfl⟩

theorem apply_orderDetails (l : Access) (o : Order) :
    (l.apply o).orderDetails = o.orderDetails := by
  cases l with
  | acceptStatus d id status isDriver => cases isDriver <;> rfl
  | _ => rfl

theorem keepsStaff_sameAccounts : KeepsStaff sameAccounts where
  plain _ _ := trivial
  shows _ _ _ _ := trivial
  details _ _ _ := ⟨trivial, rfl⟩
  homes _ _ _ := ⟨trivial, rfl⟩
  maps _ _ _ _ := ⟨trivial, rfl⟩
  writes l id s _ := by
    obtain ⟨hp, ho⟩ := updateOrder_ordered (apply_orderDetails l) id s
    exact ⟨trivial, Prod.ext hp ho⟩

theorem keepsTimers_sameAccounts : KeepsTimers sameAccounts where
  shows _ _ _ _ := trivial
  timers _ _ _ := ⟨trivial, rfl⟩
  rejects id s _ := by
    obtain ⟨hp, ho⟩ := updateOrder_ordered (f := fun o => { o with isRejected := true })
      (fun _ => rfl) id s
    exact ⟨trivial, Prod.ext hp ho⟩

theorem keepsCarts_sameAccounts : KeepsCarts sameAccounts where
  plain _ _ := trivial
  pages _ _ _ := ⟨trivial, rfl⟩
  carts _ _ _ := ⟨trivial, rfl⟩
  shows _ _ _ _ _ := trivial
  autoIds _ _ := ⟨trivial, rfl⟩
  requests _ _ _ := ⟨trivial, rfl⟩
  validations _ _ _ := ⟨trivial, rfl⟩

def Event.MovesNoStock : Event → Prop
  | .placeOrder _ => False
  | .editProduct _ _ => False
  | .deleteProduct _ _ => False
  | _ => True

theorem Event.MovesNoStock.group {e : Event} (he : e.MovesNoStock) :
    e.group = .staff ∨ e.group = .cart := by
  cases e with
  | placeOrder | editProduct | deleteProduct => cases he
  | openCart | addToCart | updateQuantity | pickDate | pickTime | pickPayment => exact .inr rfl
  | _ => exact .inl rfl

theorem sameAccounts_alone (flow : StatusLists) (ids : IdSupply) (ok : Access → Bool) (s : World)
    {e : Event} (he : e.MovesNoStock) :
    ((handler flow ids e).alone ok s).2.products = s.products ∧
      ((handler flow ids e).alone ok s).2.ordered = s.ordered := by
  suffices Quiet sameAccounts (program flow ids e) from
    Prod.mk.inj (this.alone trivial).2
  rcases he.group with he | he
  · exact quiet_staff flow ids keepsStaff_sameAccounts keepsTimers_sameAccounts
      (fun _ _ _ => ⟨trivial, rfl⟩) he
  · exact quiet_cart flow ids keepsCarts_sameAccounts he

variable {ids : IdSupply} {ok : Access → Bool} {s : World}

def available (p : Product) (w : World) : ℤ :=
  ((w.productAt p.farmerId p.prodId).map FarmProduct.stock).getD 0

def covered : List Product → World → Bool
  | [], _ => true
  | p :: rest, w => p.qty ≤ available p w && covered rest (deductQty p.farmerId p.prodId p.qty w)

def cartQty (productId : String) (lines : List Product) : ℤ :=
  (lines.map fun p => if p.prodId = productId then p.qty else 0).sum

theorem linesQty_lineOf (productId : String) (lines : List Product) :
    linesQty productId (lines.map (lineOf ok s)) = cartQty productId lines := by
  rw [linesQty, cartQty, List.map_map]
  rfl

theorem productAt_stored {w : World} {farmerId productId : String} {p : FarmProduct}
    (h : w.productAt farmerId productId = some p) :
    w.products productId = some p ∧ p.farmerId = farmerId := by
  unfold World.productAt at h
  split at h
  · cases h
  · obtain ⟨hp, hf⟩ := Option.filter_eq_some_iff.1 h
    exact ⟨hp, by simpa using hf⟩

theorem deductQty_stock (farmerId productId : String) (qty : ℤ) (w : World) (id : String) :
    (deductQty farmerId productId qty w).stock id =
      if productId = id ∧ (w.productAt farmerId productId).isSome then max 0 (w.stock id - qty)
      else w.stock id := by
  unfold deductQty
  cases hat : w.productAt farmerId productId with
  | none => simp
  | some p =>
    obtain ⟨hp, hf⟩ := productAt_stored hat
    simp only [updateFarmProduct, hp, hf, if_true]
    by_cases hid : productId = id
    · subst hid
      simp only [World.stock, Function.update_self, hp, Option.map_some, Option.getD_some,
        FarmProduct.stock, Option.isSome_some, and_self, if_true]
      grind
    · simp only [World.stock, Function.update_of_ne (Ne.symm hid), hid, false_and, if_false]

theorem deductQty_nonneg {farmerId productId : String} {qty : ℤ} {w : World} {id : String}
    (h : 0 ≤ w.stock id) : 0 ≤ (deductQty farmerId productId qty w).stock id := by
  rw [deductQty_stock]
  split
  · exact Int.le_max_left ..
  · exact h

theorem deductLines_nonneg {lines : List Product} {w : World} {id : String}
    (h : 0 ≤ w.stock id) : 0 ≤ (deductLines lines w).stock id := by
  induction lines generalizing w with
  | nil => exact h
  | cons p rest ih => exact ih (deductQty_nonneg h)

theorem deductQty_covered {p : Product} {w : World} (h : p.qty ≤ available p w) (id : String) :
    (deductQty p.farmerId p.prodId p.qty w).stock id + (if p.prodId = id then p.qty else 0) ≤
      w.stock id ∧ (0 ≤ p.qty → (deductQty p.farmerId p.prodId p.qty w).stock id +
        (if p.prodId = id then p.qty else 0) = w.stock id) := by
  rw [deductQty_stock]
  unfold available at h
  cases hat : w.productAt p.farmerId p.prodId with
  | none =>
    rw [hat] at h
    simp only [Option.map_none, Option.getD_none] at h
    simp only [Option.isSome_none, Bool.false_eq_true, and_false, if_false]
    split
    · omega
    · omega
  | some q =>
    obtain ⟨hq, -⟩ := productAt_stored hat
    rw [hat, Option.map_some, Option.getD_some] at h
    simp only [Option.isSome_some, and_true]
    split
    case isTrue hid =>
      have : w.stock id = q.stock := by rw [World.stock, ← hid, hq, Option.map_some,
        Option.getD_some]
      omega
    case isFalse => omega

theorem deductLines_covered {lines : List Product} {w : World} (h : covered lines w)
    (id : String) : (deductLines lines w).stock id + cartQty id lines ≤ w.stock id ∧
      ((∀ p ∈ lines, 0 ≤ p.qty) →
        (deductLines lines w).stock id + cartQty id lines = w.stock id) := by
  induction lines generalizing w with
  | nil => simp [deductLines, cartQty]
  | cons p rest ih =>
    obtain ⟨hp, hrest⟩ := Bool.and_eq_true_iff.1 h
    obtain ⟨hle, heq⟩ := deductQty_covered (of_decide_eq_true hp) id
    obtain ⟨hle', heq'⟩ := ih hrest
    simp only [cartQty, List.map_cons, List.sum_cons] at hle' heq' ⊢
    rw [deductLines]
    refine ⟨by omega, fun hpos => ?_⟩
    have := heq (hpos p List.mem_cons_self)
    have := heq' fun q hq => hpos q (List.mem_cons_of_mem _ hq)
    omega

theorem posted_details {flow : StatusLists} {d : Device} {o : Order}
    (h : posted flow ok d s = some o) :
    o.orderDetails = (s.cartPages d).shown.map (lineOf ok s) := by
  unfold posted at h
  dsimp only at h
  split at h
  · split at h
    · cases h
      rfl
    · cases h
  · cases h

theorem placed_ordered (hadd : ok .addOrder = true) {o : Order} (productId : String) :
    (placed ok ids o s).2.ordered productId =
      linesQty productId o.orderDetails + s.ordered productId := by
  have added : (addOrder ids { o with orderID := none } s).1.ordered productId =
      linesQty productId o.orderDetails + s.ordered productId :=
    World.ordered_fresh (newId_free ids s) productId
  rw [← added, placed]
  simp only [hadd, if_true]
  split
  · exact congrFun (updateOrder_ordered (f := fun p => { p with orderID := some _ })
      (fun _ => rfl) _ _).2 productId
  · rfl

end Gherass
