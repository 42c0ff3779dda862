import Gherass.OrderTotals
import Gherass.SalesFigures

set_option autoImplicit false

/-!
# What a farmer's orders are worth

The cart page writes an order's total with the delivery charge in it, and the statistics page
takes the charge off again; what is left is what the lines of the order amount to.
-/
namespace Gherass

open EventLoop FirebaseHelper MyCartController Sales

def Order.toMap (o : Order) : OrderMap ℚ := ⟨o.totalAmount, .text o.deliveryDate⟩

/-- What `fetchOrders` answers to the statistics page of a farmer. -/
def farmerOrders (uid : String) (w : World) : Option (List Order) :=
  let docs := queryOrders .farmerId uid w
  if docs ≠ [] then some docs else none

def salesPage (r : Readings ℚ) (uid : String) (w : World) : Sales.InventoryController ℚ :=
  Sales.InventoryController.getOrdersList r {} (.ok ((farmerOrders uid w).map (·.map Order.toMap)))

def ReadsNumbers (r : Readings ℚ) : Prop := ∀ x : ℚ, r.tryParse x = some x

/-- Every figure of the page is the price of the lines of the orders that it counts. -/
structure CountsLines (r : Readings ℚ) (uid : String) (w : World) : Prop where
  total : (salesPage r uid w).totalSaleAmount =
    ((queryOrders .farmerId uid w).map fun o => linesPrice o.orderDetails).sum
  counted : ∀ counts : DateTime → Bool, (salesPage r uid w).getSaleFor r counts =
    (((queryOrders .farmerId uid w).filter fun o => counts (o.toMap.date r)).map fun o =>
      linesPrice o.orderDetails).sum

section Figures

variable {r : Readings ℚ} {uid : String} {w : World}

theorem sale_balanced (hr : ReadsNumbers r) {o : Order} (h : o.Balanced) :
    o.toMap.sale r = linesPrice o.orderDetails := by
  rw [OrderMap.sale, hr, Option.getD_some]
  change o.totalAmount - 15 = _
  rw [h.total, deliveryCharge]
  exact add_sub_cancel_right _ _

theorem balanced_of_mem (h : w.EveryOrder Order.Balanced) {o : Order}
    (ho : o ∈ queryOrders .farmerId uid w) : o.Balanced := by
  rw [queryOrders, List.mem_insertionSort] at ho
  obtain ⟨doc, hdoc, rfl⟩ := List.mem_map.1 (List.mem_filter.1 ho).1
  exact h doc.1 doc.2 (Std.TreeMap.mem_toList_iff_getElem?_eq_some.1 hdoc)

theorem salesPage_allOrders :
    (salesPage r uid w).allOrders = (queryOrders .farmerId uid w).map Order.toMap := by
  unfold salesPage farmerOrders
  by_cases h : queryOrders .farmerId uid w = []
  · simp [h, Sales.InventoryController.getOrdersList]
  · simp [h, Sales.InventoryController.getOrdersList]

theorem salesPage_total (hr : ReadsNumbers r) : (salesPage r uid w).totalSaleAmount =
    ((queryOrders .farmerId uid w).map fun o => o.toMap.sale r).sum := by
  unfold salesPage farmerOrders
  by_cases h : queryOrders .farmerId uid w = []
  · simp [h, Sales.InventoryController.getOrdersList]
  · have readable : ∀ order ∈ (queryOrders .farmerId uid w).map Order.toMap,
        (r.tryParse order.totalAmount).isSome := fun order _ => by rw [hr]; rfl
    simp only [h, ne_eq, not_false_eq_true, if_true, Option.map_some]
    rw [totalSaleAmount_sum, List.filter_eq_self.2 readable, List.map_map]
    rfl

theorem countsLines (hr : ReadsNumbers r) (h : w.EveryOrder Order.Balanced) :
    CountsLines r uid w where
  total := by
    rw [salesPage_total hr]
    exact congrArg List.sum (List.map_congr_left fun o ho =>
      sale_balanced hr (balanced_of_mem h ho))
  counted counts := by
    have dated : ∀ o : Order, o.toMap.dated = true := fun _ => rfl
    rw [getSaleFor_sum, salesPage_allOrders, List.filter_map, List.map_map]
    simp only [Function.comp_def, dated, Bool.true_and]
    exact congrArg List.sum (List.map_congr_left fun o ho =>
      sale_balanced hr (balanced_of_mem h (List.mem_filter.1 ho).1))

end Figures

/-- In every run in which the cart is unchanged whenever the stock of a line has been read, all
    farmers' figures are those of the lines that were ordered. -/
theorem sales_are_ordered {flow : StatusLists} {ids : IdSupply} {u v : Market}
    {ms : List (Move Event)} {r : Readings ℚ} (hr : ReadsNumbers r) (hu : u.slots = [])
    (hgood : u.state.EveryOrder Order.Balanced)
    (hm : Meeting (handler flow ids) (.landing cartUnchanged) u ms)
    (hx : exec (handler flow ids) u ms = some v) (uid : String) : CountsLines r uid v.state := by
  have idle : u.Safe totalsContract (.landing cartUnchanged : Guard World Access Event) :=
    ⟨hgood, fun x hx => by rw [hu] at hx; cases hx⟩
  obtain ⟨hv, -, -⟩ := Meeting.safe (fun e s hs _ => handler_totals flow ids e s hs) hm hx idle
  exact countsLines hr hv.1

theorem sales_are_ordered_fruits : CountsLines plainReadings "farmer"
    ((⟨datesAndFigs, []⟩ : Market).after smallHandler orderedAtOnce).state :=
  sales_are_ordered (fun _ => rfl) rfl (fun id o ho => by simp [datesAndFigs] at ho)
    (by decide +kernel) (exec_after (by decide +kernel)) _

end Gherass
