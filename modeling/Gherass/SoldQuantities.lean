import Gherass.RejectedSales

set_option autoImplicit false

/-!
# The quantities that were sold of a product

The cell `Sold Qty` goes by the name of the product, and the lines of the orders keep the name
that it had when it was ordered.
-/
namespace Gherass.Sales

open ListSums InventoryController

variable {V : Type}

/-- A product of the inventory list. -/
structure ListedProduct where
  id : String
  name : String

/-- The cell `Sold Qty` of the list with the statistics. -/
def soldQty (orders : List (OrderRecord V)) (product : ListedProduct) : Option String :=
  fetchTotalQuantity orders product.name

def ownQty (orders : List (OrderRecord V)) (product : ListedProduct) : ℤ :=
  (((linesOf orders).filter (·.productId = product.id)).map (·.qty)).sum

def allQty (orders : List (OrderRecord V)) : ℤ := ((linesOf orders).map (·.qty)).sum

def listsAll (products : List ListedProduct) (orders : List (OrderRecord V)) : Prop :=
  (products.map (·.id)).Nodup ∧ ∀ line ∈ linesOf orders, line.productId ∈ products.map (·.id)

/-- Each product's cell shows its own sum, and those of all products add up to all lines. -/
structure SoldRight (orders : List (OrderRecord V)) (products : List ListedProduct) : Prop where
  each : ∀ product ∈ products, soldQty orders product = some (toString (ownQty orders product))
  all : listsAll products orders → (products.map fun product =>
    ((soldQty orders product).bind readInteger).getD 0).sum = allQty orders

/-- What other products sold under this product's name. -/
def borrowed (orders : List (OrderRecord V)) (product : ListedProduct) : ℤ :=
  (((linesOf orders).filter fun line =>
    line.name = product.name ∧ line.productId ≠ product.id).map (·.qty)).sum

def lost (orders : List (OrderRecord V)) (product : ListedProduct) : ℤ :=
  (((linesOf orders).filter fun line =>
    line.name ≠ product.name ∧ line.productId = product.id).map (·.qty)).sum

section Cells

variable {orders : List (OrderRecord V)} {products : List ListedProduct}

theorem ownQty_eq (product : ListedProduct) : ownQty orders product + borrowed orders product =
    (((linesOf orders).filter (·.name = product.name)).map (·.qty)).sum + lost orders product := by
  have byId := sum_split (fun line : OrderLine => line.name = product.name) (·.qty)
    ((linesOf orders).filter (·.productId = product.id))
  have byName := sum_split (fun line : OrderLine => line.productId = product.id) (·.qty)
    ((linesOf orders).filter (·.name = product.name))
  rw [List.filter_filter, List.filter_filter] at byId byName
  rw [ownQty, byId, byName, borrowed, lost]
  simp only [Bool.decide_and, decide_not, Bool.and_comm]
  omega

theorem sum_ownQty (h : listsAll products orders) :
    (products.map (ownQty orders)).sum = allQty orders := by
  have keyed := sum_keyed (·.productId) (fun line : OrderLine => line.qty) h.1 h.2
  rw [List.map_map] at keyed
  exact keyed.symm

end Cells

/-- The cells are right exactly if each product sold as much under other names as others sold
    under its own. -/
theorem soldRight_iff (orders : List (OrderRecord V)) (products : List ListedProduct) :
    SoldRight orders products ↔
      ∀ product ∈ products, borrowed orders product = lost orders product := by
  constructor
  · intro h product hproduct
    have shown := h.each product hproduct
    rw [soldQty, fetchTotalQuantity_eq] at shown
    have own := toString_inj (Option.some_inj.1 shown)
    have sums := @ownQty_eq _ orders product
    omega
  · intro h
    have each : ∀ product ∈ products,
        soldQty orders product = some (toString (ownQty orders product)) := by
      intro product hproduct
      have sums := @ownQty_eq _ orders product
      have same := h product hproduct
      rw [soldQty, fetchTotalQuantity_eq]
      congr 2
      omega
    refine ⟨each, fun hall => ?_⟩
    rw [← sum_ownQty hall]
    congr 1
    refine List.map_congr_left fun product hproduct => ?_
    rw [each product hproduct, Option.bind_some, readInteger_toString, Option.getD_some]

def datesOrder : OrderRecord ℚ where
  totalAmount := 65
  deliveryDate := .text "01-06-2025"
  orderDetails := [{ name := "Dates", productId := "1", qty := 2 }]

theorem both_sold : ¬ ∀ (V : Type) (orders : List (OrderRecord V)) (products : List ListedProduct),
    SoldRight orders products := fun h =>
  absurd ((h ℚ [datesOrder] [⟨"1", "Dates"⟩, ⟨"2", "Dates"⟩]).each ⟨"2", "Dates"⟩ (by simp))
    (by decide +kernel)

end Gherass.Sales
