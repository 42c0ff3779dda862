import Gherass.MonthlySales
import Mathlib.Algebra.Order.BigOperators.Group.List
import Mathlib.Algebra.Order.Floor.Ring
import Mathlib.Data.Rat.Floor

set_option autoImplicit false

/-!
# The charts of the statistics page

The chart shows the last seven days, the twelve months or the years from 2020 on; its height
is a fifth more than its highest spot.
-/
namespace Gherass.Sales

open ListSums InventoryController

/-- `selectedPeriod` -/
inductive Period where
  | last7Days
  | monthly
  | yearly
  deriving DecidableEq

structure FlSpot where
  x : ℚ
  y : ℚ
  deriving DecidableEq

/-- `minX` and `minY` are 0. -/
structure LineChartData where
  maxX : ℚ
  maxY : ℚ
  spots : List FlSpot
  deriving DecidableEq

def startYear : ℕ := 2020

/-- `_calculateMaxY` -/
def calculateMaxY : List FlSpot → ℚ
  | [] => 1000
  | spot :: spots =>
    let maxY := (spots.map (·.y)).foldl (fun a b => if a > b then a else b) spot.y
    if maxY = 0 then 1000 else (⌈maxY * 1.2⌉ : ℤ)

/-- `List.generate`, of spots -/
def spotsOf (length : ℕ) (y : ℕ → ℚ) : List FlSpot :=
  (List.range length).map fun index : ℕ => ⟨index, y index⟩

variable {V : Type} (r : Readings V)

/-- The days that a period's chart is about. -/
def Period.covers (period : Period) (now date : DateTime) : Bool :=
  match period with
  | .last7Days => ¬ date.dayBefore (now.daysEarlier 6) ∧ ¬ now.dayBefore date
  | .monthly => true
  | .yearly => startYear ≤ date.year ∧ date.year ≤ now.year

/-- `DateTime.now().subtract(Duration(days: n))` -/
def Readings.daysAgo (n : ℕ) : DateTime := r.now.subtractDays (r.putForward n) n

/-- No change of the clock in the last six days takes the time of day past midnight. -/
def Readings.KeepsDays : Prop := ∀ n ≤ 6,
  0 ≤ r.now.minutes - r.putForward n ∧ r.now.minutes - r.putForward n < 1440

namespace InventoryController

variable (c : InventoryController V)

def spots : Period → List FlSpot
  | .last7Days => spotsOf 7 fun index => c.getSaleForDay r (r.daysAgo (6 - index))
  | .monthly => spotsOf 12 (c.getSaleForMonth r)
  | .yearly =>
    spotsOf (r.now.year + 1 - startYear) fun index => c.getSaleForYear r (startYear + index)

/-- `_buildChart`. A list of negative length is a range error. -/
def buildChart (period : Period) : Except DartError LineChartData :=
  if period = .yearly ∧ r.now.year + 1 < startYear then .error .range
  else
    let spots := c.spots r period
    .ok {
      maxX := match period with
        | .last7Days => 6
        | .monthly => 11
        | .yearly => (r.now.year : ℚ) - startYear
      maxY := calculateMaxY spots
      spots }

end InventoryController

section Spots

variable {spots : List FlSpot} {spot : FlSpot}

theorem le_foldl_max (values : List ℚ) (a : ℚ) :
    a ≤ values.foldl (fun a b => if a > b then a else b) a ∧
      ∀ b ∈ values, b ≤ values.foldl (fun a b => if a > b then a else b) a := by
  induction values generalizing a with
  | nil => exact ⟨le_rfl, fun b hb => by cases hb⟩
  | cons v rest ih =>
    rw [List.foldl_cons]
    have ha : a ≤ if a > v then a else v := by
      split
      · exact le_rfl
      · exact not_lt.1 ‹_›
    have hv : v ≤ if a > v then a else v := by
      split
      · exact le_of_lt ‹_›
      · exact le_rfl
    obtain ⟨first, others⟩ := ih (if a > v then a else v)
    refine ⟨ha.trans first, fun b hb => ?_⟩
    rcases List.mem_cons.1 hb with rfl | hrest
    · exact hv.trans first
    · exact others b hrest

theorem le_calculateMaxY (h : ∀ spot ∈ spots, 0 ≤ spot.y) (hmem : spot ∈ spots) :
    spot.y ≤ calculateMaxY spots := by
  cases spots with
  | nil => cases hmem
  | cons first rest =>
    obtain ⟨hfirst, hrest⟩ := le_foldl_max (rest.map (·.y)) first.y
    simp only [calculateMaxY]
    generalize (rest.map (·.y)).foldl (fun a b => if a > b then a else b) first.y = top at *
    have highest : spot.y ≤ top := by
      rcases List.mem_cons.1 hmem with rfl | hlater
      · exact hfirst
      · exact hrest _ (List.mem_map_of_mem hlater)
    have htop : 0 ≤ top := (h first List.mem_cons_self).trans hfirst
    split
    case isTrue hzero => linarith
    case isFalse => linarith [Int.le_ceil (top * 1.2)]

theorem mem_spotsOf {length : ℕ} {y : ℕ → ℚ} :
    spot ∈ spotsOf length y ↔ ∃ i < length, spot = ⟨i, y i⟩ := by
  simp [spotsOf, eq_comm]

theorem spotsOf_y (length : ℕ) (y : ℕ → ℚ) :
    (spotsOf length y).map (·.y) = (List.range length).map y := List.map_map ..

end Spots

section Week

variable {now date : DateTime}

def week (now : DateTime) : List DateTime :=
  (List.range 7).map fun index => (now.daysEarlier (6 - index)).date

theorem mem_week_valid (hnow : now.Valid) {d : DateTime} (h : d ∈ week now) :
    d ∈ daysOfYear d.year := by
  obtain ⟨index, -, rfl⟩ := List.mem_map.1 h
  exact date_mem_daysOfYear (t := now.daysEarlier (6 - index)) (hnow.daysEarlier _)

theorem nodup_week (hnow : now.Valid) (hyear : 6 < now.year) : (week now).Nodup := by
  refine List.Nodup.map_on ?_ List.nodup_range
  intro i hi j hj same
  have hi := List.mem_range.1 hi
  have hj := List.mem_range.1 hj
  obtain ⟨hafter, hbefore⟩ := date_eq_iff.1 same
  rcases Nat.lt_trichotomy i j with hlt | heq | hgt
  · have earlier : 6 - j < 6 - i := by omega
    exact absurd (daysEarlier_dayBefore hnow earlier (by omega)) hafter
  · exact heq
  · have earlier : 6 - i < 6 - j := by omega
    exact absurd (daysEarlier_dayBefore hnow earlier (by omega)) hbefore

theorem mem_week_iff (hnow : now.Valid) (hyear : 6 < now.year) (valid : date.Valid)
    (hdate : date.date = date) :
    date ∈ week now ↔ ¬ date.dayBefore (now.daysEarlier 6) ∧ ¬ now.dayBefore date := by
  rw [← mem_lastDays_iff valid hnow hyear, hdate]
  constructor
  · intro h
    obtain ⟨index, -, same⟩ := List.mem_map.1 h
    exact ⟨6 - index, Nat.sub_le _ _, same⟩
  · rintro ⟨k, hk, same⟩
    refine List.mem_map.2 ⟨6 - k, List.mem_range.2 (by omega), ?_⟩
    rwa [Nat.sub_sub_self hk]

end Week

section Charts

variable {r} {c : InventoryController V}

theorem getSaleFor_nonneg (h : ∀ order ∈ c.allOrders, order.dated → 0 ≤ order.sale r)
    (counts : DateTime → Bool) : 0 ≤ c.getSaleFor r counts := by
  rw [getSaleFor_sum]
  refine List.sum_nonneg fun value hvalue => ?_
  obtain ⟨order, horder, rfl⟩ := List.mem_map.1 hvalue
  obtain ⟨hmem, hcounts⟩ := List.mem_filter.1 horder
  exact h order hmem (Bool.and_eq_true_iff.1 hcounts).1

theorem OrderMap.Placed.date_valid {order : OrderMap V} (hr : r.ReadsDates) (h : order.Placed r) :
    (order.date r).Valid ∧ (order.date r).date = order.date r := by
  obtain ⟨t, valid, hyear, htext⟩ := h.date
  have hdate : order.date r = t.date := by
    rw [OrderMap.date, htext, parseDate, hr t valid hyear, Option.getD_some]
  rw [hdate]
  exact ⟨valid.date, rfl⟩

theorem getSaleForDay_date {d : DateTime} : c.getSaleForDay r d.date = c.getSaleForDay r d := rfl

theorem getSaleForDay_ago (hclock : r.KeepsDays) {n : ℕ} (hn : n ≤ 6) :
    c.getSaleForDay r (r.daysAgo n) = c.getSaleForDay r (r.now.daysEarlier n).date := by
  obtain ⟨hfirst, hlast⟩ := hclock n hn
  rw [← date_subtractDays hfirst hlast, getSaleForDay_date]
  rfl

theorem week_sum (hr : r.ReadsDates) (hnow : r.now.Valid) (hyear : 6 < r.now.year)
    (hclock : r.KeepsDays) (hc : ∀ order ∈ c.allOrders, order.Placed r) :
    ((List.range 7).map fun index => c.getSaleForDay r (r.daysAgo (6 - index))).sum =
      ((c.allOrders.filter fun order => Period.last7Days.covers r.now (order.date r)).map
        (·.sale r)).sum := by
  have shown : ((week r.now).map (c.getSaleForDay r)) =
      (List.range 7).map fun index => c.getSaleForDay r (r.daysAgo (6 - index)) := by
    rw [week, List.map_map]
    exact List.map_congr_left fun index _ => (getSaleForDay_ago hclock (Nat.sub_le 6 index)).symm
  rw [← shown, sum_days hr hc (nodup_week hnow hyear) fun d hd => mem_week_valid hnow hd]
  refine congrArg (fun orders : List (OrderMap V) => (orders.map (·.sale r)).sum)
    (List.filter_congr fun order horder => ?_)
  obtain ⟨valid, hdate⟩ := (hc order horder).date_valid hr
  rw [Period.covers, decide_eq_decide]
  exact mem_week_iff hnow hyear valid hdate

theorem months_sum (hr : r.ReadsDates) (hc : ∀ order ∈ c.allOrders, order.Placed r) :
    ((List.range 12).map (c.getSaleForMonth r)).sum = (c.allOrders.map (·.sale r)).sum := by
  let place (order : OrderMap V) : ℕ := (order.date r).month - 1
  have months : ∀ order ∈ c.allOrders, place order ∈ List.range 12 := by
    intro order horder
    have := ((hc order horder).date_valid hr).1.month_le
    exact List.mem_range.2 (by dsimp only [place]; omega)
  rw [sum_keyed place _ List.nodup_range months]
  refine congrArg List.sum (List.map_congr_left fun m _ => ?_)
  rw [getSaleForMonth, getSaleFor_eq hc]
  congr 2
  refine List.filter_congr fun order horder => ?_
  have := ((hc order horder).date_valid hr).1.month_pos
  simp only [place, decide_eq_decide]
  omega

theorem years_sum (hc : ∀ order ∈ c.allOrders, order.Placed r) (first : ℕ) :
    ((List.range (r.now.year + 1 - first)).map fun index =>
        c.getSaleForYear r (first + index)).sum =
      ((c.allOrders.filter fun order =>
        first ≤ (order.date r).year ∧ (order.date r).year ≤ r.now.year).map (·.sale r)).sum := by
  let place (order : OrderMap V) : ℕ := (order.date r).year - first
  have years : ∀ order ∈ c.allOrders.filter fun order =>
      first ≤ (order.date r).year ∧ (order.date r).year ≤ r.now.year,
      place order ∈ List.range (r.now.year + 1 - first) := by
    intro order horder
    have := of_decide_eq_true (List.mem_filter.1 horder).2
    exact List.mem_range.2 (by dsimp only [place]; omega)
  rw [sum_keyed place _ List.nodup_range years]
  refine congrArg List.sum (List.map_congr_left fun index hindex => ?_)
  have hindex := List.mem_range.1 hindex
  rw [getSaleForYear, getSaleFor_eq hc, List.filter_filter]
  congr 2
  refine List.filter_congr fun order _ => ?_
  simp only [place, ← Bool.decide_and, decide_eq_decide]
  omega

end Charts

/-- No spot is outside the frame, if no order that has a date sold for less than its delivery. -/
theorem chart_fits (c : InventoryController V)
    (hc : ∀ order ∈ c.allOrders, order.dated → 0 ≤ order.sale r) (period : Period)
    (chart : LineChartData) (h : c.buildChart r period = .ok chart) :
    ∀ spot ∈ chart.spots, (0 ≤ spot.x ∧ spot.x ≤ chart.maxX) ∧
      0 ≤ spot.y ∧ spot.y ≤ chart.maxY := by
  unfold buildChart at h
  split at h
  case isTrue => cases h
  case isFalse started =>
    obtain rfl := Except.ok.inj h
    dsimp only
    have above : ∀ spot ∈ c.spots r period, 0 ≤ spot.y := by
      intro spot hspot
      cases period with
      | last7Days | monthly | yearly =>
        obtain ⟨i, -, rfl⟩ := mem_spotsOf.1 hspot
        exact getSaleFor_nonneg hc _
    refine fun spot hspot => ⟨?_, above spot hspot, le_calculateMaxY above hspot⟩
    cases period with
    | last7Days =>
      obtain ⟨i, hi, rfl⟩ := mem_spotsOf.1 hspot
      have : (i : ℚ) ≤ 6 := by exact_mod_cast Nat.le_of_lt_succ hi
      exact ⟨Nat.cast_nonneg i, this⟩
    | monthly =>
      obtain ⟨i, hi, rfl⟩ := mem_spotsOf.1 hspot
      have : (i : ℚ) ≤ 11 := by exact_mod_cast Nat.le_of_lt_succ hi
      exact ⟨Nat.cast_nonneg i, this⟩
    | yearly =>
      obtain ⟨i, hi, rfl⟩ := mem_spotsOf.1 hspot
      have : ((i + startYear : ℕ) : ℚ) ≤ r.now.year := by
        exact_mod_cast (by omega : i + startYear ≤ r.now.year)
      push_cast at this
      exact ⟨Nat.cast_nonneg i, by dsimp only; linarith⟩

def newYearsPage : InventoryController ℚ :=
  InventoryController.getOrdersList plainReadings {} (.ok (some newYearsOrders))

theorem newYearsOrders_fit : (0 ≤ (11 : ℚ) ∧ (11 : ℚ) ≤ 11) ∧
    0 ≤ (50 : ℚ) ∧ (50 : ℚ) ≤ calculateMaxY (newYearsPage.spots plainReadings .monthly) :=
  chart_fits plainReadings newYearsPage (by decide +kernel) .monthly
    ⟨11, _, newYearsPage.spots plainReadings .monthly⟩ rfl ⟨11, 50⟩ (by decide +kernel)

end Gherass.Sales
