import Gherass.SalesFigures

set_option autoImplicit false

/-!
# The chart of the months

The monthly chart adds up the deliveries of a month, whatever their year; the other two charts
look at the year as well.
-/
namespace Gherass.Sales

open ListSums InventoryController

variable {V : Type} (r : Readings V)

namespace InventoryController

variable (c : InventoryController V)

def getSaleForMonth (monthIndex : ℕ) : ℚ := c.getSaleFor r fun date => date.month = monthIndex + 1

def monthly : List ℚ := (List.range 12).map (c.getSaleForMonth r)

/-- Each month is the sum of its days in the current year, and all of them are that year. -/
def reportsYear : Prop :=
  (∀ m < 12, c.getSaleForMonth r m =
      ((daysOfMonth r.now.year (m + 1)).map (c.getSaleForDay r)).sum) ∧
    (c.monthly r).sum = c.getSaleForYear r r.now.year

end InventoryController

/-- The orders of a month that are delivered in another year than the current one. -/
def otherYears (orders : List (OrderMap V)) (m : ℕ) : List (OrderMap V) :=
  orders.filter fun order => (order.date r).month = m + 1 ∧ (order.date r).year ≠ r.now.year

section Months

variable {r} {c : InventoryController V}

theorem sum_days (hr : r.ReadsDates) (hc : ∀ order ∈ c.allOrders, order.Placed r)
    {days : List DateTime} (hnodup : days.Nodup) (hdays : ∀ d ∈ days, d ∈ daysOfYear d.year) :
    (days.map (c.getSaleForDay r)).sum =
      ((c.allOrders.filter fun order => order.date r ∈ days).map (·.sale r)).sum := by
  have day : ∀ d ∈ days, c.getSaleForDay r d = (((c.allOrders.filter fun order =>
      order.date r ∈ days).filter fun order => order.date r = d).map (·.sale r)).sum := by
    intro d hd
    rw [getSaleForDay, getSaleFor_eq hc, List.filter_filter]
    congr 2
    refine List.filter_congr fun order horder => ?_
    have same := sameDay_iff (date_mem hr (hc order horder)) (hdays d hd)
    have listed : order.date r = d → order.date r ∈ days := fun h => h ▸ hd
    rw [← Bool.decide_and, decide_eq_decide, same]
    tauto
  have dated : ∀ order ∈ c.allOrders.filter fun order => order.date r ∈ days,
      order.date r ∈ days := fun order horder => of_decide_eq_true (List.mem_filter.1 horder).2
  rw [List.map_congr_left day, ← sum_keyed (OrderMap.date r) _ hnodup dated]

theorem mem_daysOfYear {year month : ℕ} (hmonth : 1 ≤ month ∧ month ≤ 12) {t : DateTime}
    (ht : t ∈ daysOfMonth year month) : t ∈ daysOfYear t.year := by
  rw [(mem_daysOfMonth.1 ht).1]
  exact List.mem_flatMap.2 ⟨month, List.mem_range'_1.2 (by omega), ht⟩

theorem mem_month_iff {year month : ℕ} {t : DateTime} (ht : t ∈ daysOfYear t.year) :
    t ∈ daysOfMonth year month ↔ t.month = month ∧ t.year = year := by
  obtain ⟨month', -, hmem⟩ := List.mem_flatMap.1 ht
  constructor
  · intro h
    obtain ⟨hyear, hmonth, -⟩ := mem_daysOfMonth.1 h
    exact ⟨hmonth, hyear⟩
  · rintro ⟨rfl, rfl⟩
    rwa [(mem_daysOfMonth.1 hmem).2.1]

/-- What a month shows too much is what it takes from other years. -/
theorem getSaleForMonth_eq (hr : r.ReadsDates) (hc : ∀ order ∈ c.allOrders, order.Placed r)
    {m : ℕ} (hm : m < 12) : c.getSaleForMonth r m =
      ((daysOfMonth r.now.year (m + 1)).map (c.getSaleForDay r)).sum +
        ((otherYears r c.allOrders m).map (·.sale r)).sum := by
  have days : ∀ d ∈ daysOfMonth r.now.year (m + 1), d ∈ daysOfYear d.year := fun d hd =>
    mem_daysOfYear (by omega) hd
  rw [getSaleForMonth, getSaleFor_eq hc, sum_days hr hc (nodup_daysOfMonth _ _) days,
    sum_split fun order => decide ((order.date r).year = r.now.year), List.filter_filter,
    List.filter_filter]
  congr 3
  · refine List.filter_congr fun order horder => ?_
    rw [← Bool.decide_and, decide_eq_decide, mem_month_iff (date_mem hr (hc order horder))]
    exact and_comm
  · refine List.filter_congr fun order _ => ?_
    simp [Bool.and_comm]

theorem sum_months (hr : r.ReadsDates) (hc : ∀ order ∈ c.allOrders, order.Placed r) (year : ℕ) :
    ((List.range 12).map fun m => ((daysOfMonth year (m + 1)).map (c.getSaleForDay r)).sum).sum =
      c.getSaleForYear r year := by
  have months : List.range' 1 12 = (List.range 12).map (· + 1) := by decide
  rw [getSaleForYear_eq hr hc, daysOfYear, months, List.flatMap_map, List.map_flatMap,
    List.flatMap_def, List.sum_flatten, List.map_map]
  rfl

end Months

/-- The chart reports one year if, month by month, the sales of the other years cancel out. -/
theorem reportsYear_iff (hr : r.ReadsDates) (c : InventoryController V)
    (orders : List (OrderMap V)) (horders : ∀ order ∈ orders, order.Placed r) :
    (c.getOrdersList r (.ok (some orders))).reportsYear r ↔
      ∀ m < 12, ((otherYears r orders m).map (·.sale r)).sum = 0 := by
  have month {m : ℕ} (hm : m < 12) := getSaleForMonth_eq
    (c := c.getOrdersList r (.ok (some orders))) hr horders hm
  constructor
  · intro h m hm
    have excess := month hm
    rw [h.1 m hm] at excess
    exact left_eq_add.1 excess
  · intro h
    have months : ∀ m < 12, (c.getOrdersList r (.ok (some orders))).getSaleForMonth r m = _ :=
      fun m hm => (month hm).trans ((congrArg _ (h m hm)).trans (add_zero _))
    refine ⟨months, ?_⟩
    rw [monthly, List.map_congr_left fun m hm => months m (List.mem_range.1 hm)]
    exact sum_months hr horders _

def cancellingOrders : List (OrderMap ℚ) :=
  [⟨40, .text "01-01-2025"⟩, ⟨20, .text "31-12-2024"⟩, ⟨10, .text "01-12-2023"⟩]

theorem cancellingOrders_placed : ∀ order ∈ cancellingOrders, order.Placed plainReadings := by
  intro order horder
  simp only [cancellingOrders, List.mem_cons, List.not_mem_nil, or_false] at horder
  obtain rfl | rfl | rfl := horder
  · exact placed_plain 40 ⟨2025, 1, 1, 0, 0⟩ ⟨by decide, by decide, by decide, by decide, by decide,
      by decide⟩ (by decide)
  · exact placed_plain 20 ⟨2024, 12, 31, 0, 0⟩ ⟨by decide, by decide, by decide, by decide, by decide,
      by decide⟩ (by decide)
  · exact placed_plain 10 ⟨2023, 12, 1, 0, 0⟩ ⟨by decide, by decide, by decide, by decide, by decide,
      by decide⟩ (by decide)

theorem cancellingOrders_report : (InventoryController.getOrdersList plainReadings {}
    (.ok (some cancellingOrders))).reportsYear plainReadings :=
  (reportsYear_iff plainReadings plainReadings_readsDates {} _ cancellingOrders_placed).2
    (by decide +kernel)

/-- The December of the year before is taken for this one's. -/
theorem newYearsOrders_december : ¬ ∀ (r : Readings ℚ), r.ReadsDates →
    ∀ (c : InventoryController ℚ) (orders : List (OrderMap ℚ)),
      (∀ order ∈ orders, order.Placed r) →
        (c.getOrdersList r (.ok (some orders))).reportsYear r := by
  intro h
  have reports := h plainReadings plainReadings_readsDates {} _ newYearsOrders_placed
  exact absurd (reports.1 11 (by decide)) (by decide +kernel)

end Gherass.Sales
