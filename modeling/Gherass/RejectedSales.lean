import Gherass.MonthlySales
import Gherass.MarketData

set_option autoImplicit false

/-!
# Rejected orders among the sales

`isRejected` is a flag beside the status. The pages of the orders look at it, the five loops of
the inventory page do not.
-/
namespace Gherass.Sales

open ListSums InventoryController

variable {V : Type}

structure OrderRecord (V : Type) extends OrderMap V where
  isRejected : Bool := false
  orderDetails : List OrderLine := []

variable (r : Readings V)

namespace InventoryController

/-- What is shown as sold of a product, with quantities of any size; `value!` throws if there is
    no value. -/
def fetchTotalQuantity (allOrders : List (OrderRecord V)) (productName : String) :
    Option String :=
  (allOrders.foldlM (fun totalSaleQuantity (element : OrderRecord V) =>
    element.orderDetails.foldlM (fun totalSaleQuantity orderValue =>
      if productName = orderValue.name then
        (readInteger (toString orderValue.qty)).map (totalSaleQuantity + ·)
      else some totalSaleQuantity) totalSaleQuantity) (0 : ℤ)).map toString

def loaded (c : InventoryController V) (orders : List (OrderRecord V)) : InventoryController V :=
  c.getOrdersList r (.ok (some (orders.map (·.toOrderMap))))

end InventoryController

/-- The pages of all orders and of those that are not rejected show the same. -/
structure SameSales (c : InventoryController V) (orders kept : List (OrderRecord V)) : Prop where
  total : (c.loaded r orders).totalSaleAmount = (c.loaded r kept).totalSaleAmount
  day : ∀ d, (c.loaded r orders).getSaleForDay r d = (c.loaded r kept).getSaleForDay r d
  month : ∀ m, (c.loaded r orders).getSaleForMonth r m = (c.loaded r kept).getSaleForMonth r m
  year : ∀ y, (c.loaded r orders).getSaleForYear r y = (c.loaded r kept).getSaleForYear r y
  quantity : ∀ name, fetchTotalQuantity orders name = fetchTotalQuantity kept name

def linesOf (orders : List (OrderRecord V)) : List OrderLine := orders.flatMap (·.orderDetails)

/-- The orders add up to nothing: in total, on each day, and of each product's name. -/
structure AddNothing (orders : List (OrderRecord V)) : Prop where
  total : ((orders.filter fun o => (r.tryParse o.totalAmount).isSome).map (·.sale r)).sum = 0
  day : ∀ d : DateTime, ((orders.filter fun o => o.dated && (o.date r).date = d.date).map
    (·.sale r)).sum = 0
  quantity : ∀ name, (((linesOf orders).filter (·.name = name)).map (·.qty)).sum = 0

section Loops

variable {r} {orders : List (OrderRecord V)} {c : InventoryController V}

theorem fetchTotalQuantity_eq (name : String) : fetchTotalQuantity orders name =
    some (toString (((linesOf orders).filter (·.name = name)).map (·.qty)).sum) := by
  have lines (total : ℤ) (lines : List OrderLine) :
      lines.foldlM (fun total (orderValue : OrderLine) =>
        if name = orderValue.name then (readInteger (toString orderValue.qty)).map (total + ·)
        else some total) total =
      some (total + ((lines.filter (·.name = name)).map (·.qty)).sum) := by
    induction lines generalizing total with
    | nil => simp
    | cons line lines ih =>
      rw [List.foldlM_cons]
      by_cases hname : line.name = name
      · rw [if_pos hname.symm, readInteger_toString, Option.map_some, Option.bind_eq_bind,
          Option.bind_some, ih]
        simp [hname, add_assoc]
      · rw [if_neg (Ne.symm hname), Option.bind_eq_bind, Option.bind_some, ih]
        simp [hname]
  have all (total : ℤ) : orders.foldlM (fun total (element : OrderRecord V) =>
      element.orderDetails.foldlM (fun total (orderValue : OrderLine) =>
        if name = orderValue.name then (readInteger (toString orderValue.qty)).map (total + ·)
        else some total) total) total =
      some (total + (((linesOf orders).filter (·.name = name)).map (·.qty)).sum) := by
    induction orders generalizing total with
    | nil => simp [linesOf]
    | cons o orders ih =>
      rw [List.foldlM_cons, lines, Option.bind_eq_bind, Option.bind_some, ih]
      simp [linesOf, add_assoc]
  rw [fetchTotalQuantity, all, zero_add]
  rfl

theorem getSaleFor_loaded (counts : DateTime → Bool) : (c.loaded r orders).getSaleFor r counts =
    ((orders.filter fun o => o.dated && counts (o.date r)).map (·.sale r)).sum := by
  rw [getSaleFor_sum, loaded, getOrdersList, List.filter_map, List.map_map]
  rfl

theorem totalSaleAmount_loaded : (c.loaded r orders).totalSaleAmount =
    ((orders.filter fun o => (r.tryParse o.totalAmount).isSome).map (·.sale r)).sum := by
  rw [loaded, totalSaleAmount_sum, List.filter_map, List.map_map]
  rfl

theorem sum_rejected (p : OrderRecord V → Bool) (f : OrderRecord V → ℚ) :
    ((orders.filter p).map f).sum = (((orders.filter fun o => !o.isRejected).filter p).map f).sum +
      (((orders.filter (·.isRejected)).filter p).map f).sum := by
  rw [sum_split (·.isRejected) f (orders.filter p), add_comm, List.filter_comm _ p,
    List.filter_comm _ p]

theorem sum_linesOf (name : String) : (((linesOf orders).filter (·.name = name)).map (·.qty)).sum =
    (orders.map fun o => ((o.orderDetails.filter (·.name = name)).map (·.qty)).sum).sum := by
  induction orders with
  | nil => rfl
  | cons o orders ih =>
    rw [List.map_cons, List.sum_cons, ← ih]
    simp [linesOf]

theorem quantity_rejected (name : String) :
    (((linesOf orders).filter (·.name = name)).map (·.qty)).sum =
      (((linesOf (orders.filter fun o => !o.isRejected)).filter (·.name = name)).map (·.qty)).sum +
        (((linesOf (orders.filter (·.isRejected))).filter (·.name = name)).map (·.qty)).sum := by
  rw [sum_linesOf, sum_linesOf, sum_linesOf, sum_split (·.isRejected), add_comm]

theorem toString_inj {n m : ℤ} (h : toString n = toString m) : n = m := by
  have parsed : some n = some m := by
    rw [← readInteger_toString n, ← readInteger_toString m, h]
  exact Option.some_inj.1 parsed

theorem sameDay_date {t d : DateTime} :
    (t.year = d.year ∧ t.month = d.month ∧ t.day = d.day) ↔ t.date = d.date := by
  simp [DateTime.date]

theorem sum_of_days (hday : ∀ d : DateTime,
      ((orders.filter fun o => o.dated && (o.date r).date = d.date).map (·.sale r)).sum = 0)
    {counts : DateTime → Bool} (hcounts : ∀ t, counts t = counts t.date) :
    ((orders.filter fun o => o.dated && counts (o.date r)).map (·.sale r)).sum = 0 := by
  let counted := orders.filter fun o => o.dated && counts (o.date r)
  let days := (counted.map fun o => (o.date r).date).dedup
  have listed : ∀ o ∈ counted, (o.date r).date ∈ days := fun o ho =>
    List.mem_dedup.2 (List.mem_map_of_mem ho)
  rw [sum_keyed (fun o => (o.date r).date) _ (List.nodup_dedup _) listed]
  refine List.sum_eq_zero fun total htotal => ?_
  obtain ⟨day, hmem, rfl⟩ := List.mem_map.1 htotal
  obtain ⟨o, ho, rfl⟩ := List.mem_map.1 (List.mem_dedup.1 hmem)
  have hcount : counts (o.date r) = true := by
    have both := (List.mem_filter.1 ho).2
    rw [Bool.and_eq_true] at both
    exact both.2
  rw [List.filter_filter, ← hday (o.date r)]
  congr 2
  refine List.filter_congr fun o' _ => ?_
  by_cases hsame : (o'.date r).date = (o.date r).date
  · rw [hcounts, ← hsame, ← hcounts] at hcount
    simp [hsame, hcount]
  · simp [hsame]

end Loops

/-- The sales are the same without the rejected orders exactly if these add up to nothing. -/
theorem sameSales_iff (c : InventoryController V) (orders : List (OrderRecord V)) :
    SameSales r c orders (orders.filter fun o => !o.isRejected) ↔
      AddNothing r (orders.filter (·.isRejected)) := by
  have figure (counts : DateTime → Bool) : (c.loaded r orders).getSaleFor r counts =
      (c.loaded r (orders.filter fun o => !o.isRejected)).getSaleFor r counts +
        (((orders.filter (·.isRejected)).filter fun o => o.dated && counts (o.date r)).map
          (·.sale r)).sum := by
    rw [getSaleFor_loaded, getSaleFor_loaded, sum_rejected]
  have total : (c.loaded r orders).totalSaleAmount =
      (c.loaded r (orders.filter fun o => !o.isRejected)).totalSaleAmount +
        (((orders.filter (·.isRejected)).filter fun o => (r.tryParse o.totalAmount).isSome).map
          (·.sale r)).sum := by
    rw [totalSaleAmount_loaded, totalSaleAmount_loaded, sum_rejected]
  have sameDay (d : DateTime) (o : OrderRecord V) : (o.dated && decide ((o.date r).year = d.year ∧
      (o.date r).month = d.month ∧ (o.date r).day = d.day)) =
        (o.dated && decide ((o.date r).date = d.date)) := by
    rw [decide_eq_decide.2 sameDay_date]
  constructor
  · intro h
    refine ⟨left_eq_add.1 (h.total.symm.trans total), fun d => ?_, fun name => ?_⟩
    · have excess := left_eq_add.1 ((h.day d).symm.trans (figure _))
      rwa [List.filter_congr fun o _ => sameDay d o] at excess
    · have same := h.quantity name
      rw [fetchTotalQuantity_eq, fetchTotalQuantity_eq] at same
      have sums := toString_inj (Option.some_inj.1 same)
      exact left_eq_add.1 (sums.symm.trans (quantity_rejected name))
  · intro h
    have same (counts : DateTime → Bool) (hcounts : ∀ t, counts t = counts t.date) :
        (c.loaded r orders).getSaleFor r counts =
          (c.loaded r (orders.filter fun o => !o.isRejected)).getSaleFor r counts := by
      rw [figure, sum_of_days h.day hcounts, add_zero]
    refine ⟨?_, fun d => same _ fun t => rfl, fun m => same _ fun t => rfl,
      fun y => same _ fun t => rfl, fun name => ?_⟩
    · rw [total, h.total, add_zero]
    · rw [fetchTotalQuantity_eq, fetchTotalQuantity_eq, quantity_rejected, h.quantity, add_zero]

def rejectedOrder : OrderRecord ℚ where
  totalAmount := 65
  deliveryDate := .text "01-06-2025"
  isRejected := true
  orderDetails := [{ name := "Dates", productId := "1", qty := 2 }]

/-- It is sold all the same. -/
theorem rejectedOrder_sold : ¬ ∀ (V : Type) (r : Readings V) (c : InventoryController V)
    (orders : List (OrderRecord V)),
      SameSales r c orders (orders.filter fun o => !o.isRejected) := fun h =>
  absurd (h ℚ plainReadings {} [rejectedOrder]).total (by decide +kernel)

end Gherass.Sales
