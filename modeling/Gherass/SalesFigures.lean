import Gherass.Calendar
import Gherass.ListSums
import Mathlib.Data.List.Dedup
import Mathlib.Data.Rat.Defs
import Mathlib.Algebra.Ring.Rat

set_option autoImplicit false

/-!
# A farmer's sales figures

The sales in total, by day and by year are three loops over the orders on the inventory
page.
-/
namespace Gherass.Sales

open TextOrder ListSums

/-- `order["deliveryDate"]` -/
inductive DeliveryDate where
  | null
  | text (s : String)
  | dateTime (t : DateTime)
  | timestamp (seconds : ℤ)
  | other

/-- An order's map, as far as the sales figures read it. -/
structure OrderMap (V : Type) where
  totalAmount : V
  deliveryDate : DeliveryDate

structure InventoryController (V : Type) where
  allOrders : List (OrderMap V) := []
  totalSaleAmount : ℚ := 0

/-- What the pages are given to read amounts and dates: `double.tryParse(value.toString())`,
    `DateFormat("dd-MM-yyyy").parse`, which may throw, and the clock, which has been put forward by
    `putForward n` minutes in the last `n` times 24 hours. -/
structure Readings (V : Type) where
  tryParse : V → Option ℚ
  parse : String → Option DateTime
  fromMillisecondsSinceEpoch : ℤ → DateTime
  now : DateTime
  putForward : ℕ → ℤ := fun _ => 0

/-- A text in the format is read as the date that it shows. -/
def Readings.ReadsDates {V : Type} (r : Readings V) : Prop :=
  ∀ t : DateTime, t.Valid → t.year < 10000 → r.parse t.dayFirst = some t.date

variable {V : Type} (r : Readings V)

namespace InventoryController

variable (c : InventoryController V)

def parseDate : DeliveryDate → DateTime
  | .text s => (r.parse s).getD r.now
  | .dateTime t => t
  | .timestamp seconds => r.fromMillisecondsSinceEpoch (seconds * 1000)
  | .null | .other => r.now

/-- `response` is what `fetchOrders` returns; it may be null or throw. -/
def getOrdersList (response : Except DartError (Option (List (OrderMap V)))) :
    InventoryController V :=
  match response with
  | .error _ | .ok none => c
  | .ok (some orders) =>
    { allOrders := orders
      totalSaleAmount := orders.foldl (fun total element =>
        match r.tryParse element.totalAmount with
        | some value => total + (value - 15)
        | none => total) 0 }

/-- The loop of `getSaleForDay` and `getSaleForYear`. -/
def getSaleFor (counts : DateTime → Bool) : ℚ :=
  c.allOrders.foldl (fun total order =>
    match order.deliveryDate with
    | .null => total
    | deliveryDate =>
      if counts (parseDate r deliveryDate) then
        total + ((r.tryParse order.totalAmount).getD 0 - 15)
      else total) 0

def getSaleForDay (date : DateTime) : ℚ :=
  c.getSaleFor r fun orderDate =>
    orderDate.year = date.year ∧ orderDate.month = date.month ∧ orderDate.day = date.day

def getSaleForYear (year : ℕ) : ℚ := c.getSaleFor r fun date => date.year = year

end InventoryController

open InventoryController

def OrderMap.sale (order : OrderMap V) : ℚ := (r.tryParse order.totalAmount).getD 0 - 15

def OrderMap.date (order : OrderMap V) : DateTime := parseDate r order.deliveryDate

def deliveryYears (orders : List (OrderMap V)) : List ℕ :=
  (orders.map fun order => (order.date r).year).dedup

/-- An order as `placeOrder` writes it. -/
structure OrderMap.Placed (order : OrderMap V) : Prop where
  amount : (r.tryParse order.totalAmount).isSome
  date : ∃ t : DateTime, t.Valid ∧ t.year < 10000 ∧ order.deliveryDate = .text t.dayFirst

section Figures

variable {r} {orders : List (OrderMap V)} {order : OrderMap V} {c : InventoryController V}

theorem date_mem (hr : r.ReadsDates) (h : order.Placed r) :
    order.date r ∈ daysOfYear (order.date r).year := by
  obtain ⟨t, valid, hyear, htext⟩ := h.date
  have hdate : order.date r = t.date := by
    rw [OrderMap.date, htext, parseDate, hr t valid hyear, Option.getD_some]
  rw [hdate]
  change t.date ∈ daysOfYear t.year
  exact date_mem_daysOfYear valid

def OrderMap.dated (order : OrderMap V) : Bool :=
  match order.deliveryDate with
  | .null => false
  | _ => true

theorem getSaleFor_sum (counts : DateTime → Bool) : c.getSaleFor r counts =
    ((c.allOrders.filter fun order => order.dated && counts (order.date r)).map (·.sale r)).sum := by
  have loop : c.getSaleFor r counts = c.allOrders.foldl (fun total order =>
      if order.dated && counts (order.date r) then total + order.sale r else total) 0 := by
    refine List.foldl_ext _ _ _ fun total order _ => ?_
    obtain ⟨amount, deliveryDate⟩ := order
    cases deliveryDate with
    | null | text | dateTime | timestamp | other => rfl
  rw [loop, foldl_add_if, zero_add]

theorem totalSaleAmount_sum : (c.getOrdersList r (.ok (some orders))).totalSaleAmount =
    ((orders.filter fun order => (r.tryParse order.totalAmount).isSome).map (·.sale r)).sum := by
  let reads (order : OrderMap V) : Bool := (r.tryParse order.totalAmount).isSome
  have loop : (c.getOrdersList r (.ok (some orders))).totalSaleAmount =
      orders.foldl (fun total order => if reads order then total + order.sale r else total) 0 := by
    refine List.foldl_ext _ _ _ fun total order _ => ?_
    cases hvalue : r.tryParse order.totalAmount with
    | none => simp [reads, hvalue]
    | some value => simp [reads, OrderMap.sale, hvalue]
  rw [loop, foldl_add_if, zero_add]

theorem OrderMap.Placed.dated (h : order.Placed r) : order.dated = true := by
  obtain ⟨t, -, -, htext⟩ := h.date
  rw [OrderMap.dated, htext]

theorem getSaleFor_eq (hc : ∀ order ∈ c.allOrders, order.Placed r) (counts : DateTime → Bool) :
    c.getSaleFor r counts =
      ((c.allOrders.filter fun order => counts (order.date r)).map (·.sale r)).sum := by
  rw [getSaleFor_sum]
  congr 2
  refine List.filter_congr fun order horder => ?_
  rw [(hc order horder).dated, Bool.true_and]

theorem totalSaleAmount_eq (horders : ∀ order ∈ orders, order.Placed r) :
    (c.getOrdersList r (.ok (some orders))).totalSaleAmount = (orders.map (·.sale r)).sum := by
  rw [totalSaleAmount_sum, List.filter_eq_self.2 fun order horder => (horders order horder).amount]

theorem sameDay_iff {t d : DateTime} {year : ℕ} (ht : t ∈ daysOfYear t.year)
    (hd : d ∈ daysOfYear year) :
    (t.year = d.year ∧ t.month = d.month ∧ t.day = d.day) ↔ t = d := by
  constructor
  · rintro ⟨hyear, hmonth, hday⟩
    rw [← date_of_mem ht, ← date_of_mem hd, DateTime.date, DateTime.date, hyear, hmonth, hday]
  · rintro rfl
    exact ⟨rfl, rfl, rfl⟩

theorem getSaleForYear_eq (hr : r.ReadsDates) (hc : ∀ order ∈ c.allOrders, order.Placed r)
    (year : ℕ) : c.getSaleForYear r year = ((daysOfYear year).map (c.getSaleForDay r)).sum := by
  let yearly := c.allOrders.filter fun order => (order.date r).year = year
  have dated : ∀ order ∈ yearly, order.date r ∈ daysOfYear year := fun order horder => by
    obtain ⟨hmem, hyear⟩ := List.mem_filter.1 horder
    rw [← of_decide_eq_true hyear]
    exact date_mem hr (hc order hmem)
  have day : ∀ d ∈ daysOfYear year, c.getSaleForDay r d =
      ((yearly.filter fun order => order.date r = d).map (·.sale r)).sum := fun d hd => by
    rw [getSaleForDay, getSaleFor_eq hc, List.filter_filter]
    congr 2
    refine List.filter_congr fun order horder => ?_
    have same := sameDay_iff (date_mem hr (hc order horder)) hd
    have hyear : order.date r = d → (order.date r).year = year := fun h => by
      rw [h, year_of_mem hd]
    rw [← Bool.decide_and, decide_eq_decide, same]
    tauto
  rw [List.map_congr_left day, ← sum_keyed (OrderMap.date r) _ (nodup_daysOfYear year) dated]
  exact getSaleFor_eq hc _

end Figures

/-- The sales in total are those of the years, and the sales of a year those of its days. -/
theorem sales_partition (hr : r.ReadsDates) (c : InventoryController V)
    (orders : List (OrderMap V)) (horders : ∀ order ∈ orders, order.Placed r) :
    let page := c.getOrdersList r (.ok (some orders))
    page.totalSaleAmount = ((deliveryYears r orders).map (page.getSaleForYear r)).sum ∧
      ∀ year, page.getSaleForYear r year =
        ((daysOfYear year).map (page.getSaleForDay r)).sum := by
  intro page
  refine ⟨?_, getSaleForYear_eq hr horders⟩
  have years : ∀ order ∈ orders, (order.date r).year ∈ deliveryYears r orders :=
    fun order horder => List.mem_dedup.2 (List.mem_map_of_mem horder)
  have yearly (year : ℕ) : page.getSaleForYear r year =
      ((orders.filter fun order => (order.date r).year = year).map (·.sale r)).sum :=
    getSaleFor_eq (c := page) horders _
  calc page.totalSaleAmount
    _ = (orders.map (·.sale r)).sum := totalSaleAmount_eq horders
    _ = ((deliveryYears r orders).map fun year =>
          ((orders.filter fun order => (order.date r).year = year).map (·.sale r)).sum).sum :=
        sum_keyed _ _ (List.nodup_dedup _) years
    _ = ((deliveryYears r orders).map (page.getSaleForYear r)).sum :=
        congrArg List.sum (List.map_congr_left fun year _ => (yearly year).symm)

def plainReadings : Readings ℚ where
  tryParse := some
  parse s :=
    match s.toList with
    | [d₁, d₀, '-', m₁, m₀, '-', y₃, y₂, y₁, y₀] =>
      some ⟨Nat.ofDigitChars 10 [y₃, y₂, y₁, y₀] 0, Nat.ofDigitChars 10 [m₁, m₀] 0,
        Nat.ofDigitChars 10 [d₁, d₀] 0, 0, 0⟩
    | _ => none
  fromMillisecondsSinceEpoch _ := ⟨1970, 1, 1, 0, 0⟩
  now := ⟨2025, 6, 1, 0, 0⟩

theorem plainReadings_readsDates : plainReadings.ReadsDates := by
  intro t valid hyear
  have month := valid.month_le
  have day := valid.day_le.trans (daysInMonth_le _ _)
  have text := DateTime.toList_dayFirst hyear (by omega : t.month < 100) (by omega : t.day < 100)
  have reading : plainReadings.parse t.dayFirst = some
      ⟨Nat.ofDigitChars 10 (digits 4 t.year) 0, Nat.ofDigitChars 10 (digits 2 t.month) 0,
        Nat.ofDigitChars 10 (digits 2 t.day) 0, 0, 0⟩ := by
    simp only [plainReadings, text]
    rfl
  rw [reading, ofDigitChars_digits (by omega), ofDigitChars_digits (by omega),
    ofDigitChars_digits (by omega)]
  rfl

theorem placed_plain (amount : ℚ) (t : DateTime) (valid : t.Valid) (hyear : t.year < 10000) :
    OrderMap.Placed plainReadings ⟨amount, .text t.dayFirst⟩ := ⟨rfl, t, valid, hyear, rfl⟩

def newYearsOrders : List (OrderMap ℚ) :=
  [⟨65, .text "31-12-2024"⟩, ⟨40, .text "01-01-2025"⟩, ⟨115, .text "29-02-2024"⟩]

theorem newYearsOrders_placed : ∀ order ∈ newYearsOrders, order.Placed plainReadings := by
  intro order horder
  simp only [newYearsOrders, List.mem_cons, List.not_mem_nil, or_false] at horder
  obtain rfl | rfl | rfl := horder
  · exact placed_plain 65 ⟨2024, 12, 31, 0, 0⟩ ⟨by decide, by decide, by decide, by decide, by decide,
      by decide⟩ (by decide)
  · exact placed_plain 40 ⟨2025, 1, 1, 0, 0⟩ ⟨by decide, by decide, by decide, by decide, by decide,
      by decide⟩ (by decide)
  · exact placed_plain 115 ⟨2024, 2, 29, 0, 0⟩ ⟨by decide, by decide, by decide, by decide, by decide,
      by decide⟩ (by decide)

theorem newYearsOrders_partition :
    let page := InventoryController.getOrdersList plainReadings {} (.ok (some newYearsOrders))
    page.totalSaleAmount =
        ((deliveryYears plainReadings newYearsOrders).map (page.getSaleForYear plainReadings)).sum ∧
      ∀ year, page.getSaleForYear plainReadings year =
        ((daysOfYear year).map (page.getSaleForDay plainReadings)).sum :=
  sales_partition plainReadings plainReadings_readsDates {} newYearsOrders newYearsOrders_placed

end Gherass.Sales
