import Gherass.ProductSearch
import Gherass.StatusOrder

set_option autoImplicit false

/-!
# The timeline of an order

The tracking page reads the order when it opens and goes through the farmer's and the driver's
statuses; the steps up to the status that was read are in colour.
-/
namespace Gherass

open EventLoop Shop

/-- What the page reads of a document of `driver`. -/
structure DriverDetails where
  name : Option String
  phoneNumber : Option String
  deriving DecidableEq

structure OrderTrackController where
  orderId : String := ""
  orderStatus : String := ""
  driverName : String := ""
  driverphone : String := ""
  orderStatusList : List String := []
  statusIndex : ℤ := 0
  deriving DecidableEq

structure TimelineStep where
  text : String
  isDone : Bool
  isLast : Bool
  isCurrent : Bool
  deriving DecidableEq

def TimelineStep.isActive (step : TimelineStep) : Bool := step.isDone || step.isCurrent

/-- `indexWhere` -/
def indexWhere (p : String → Bool) (l : List String) : ℤ :=
  match l.findIdx? p with
  | some i => i
  | none => -1

/-- `addAll` on a set, which keeps the order of its elements. -/
def addAll (set items : List String) : List String :=
  items.foldl (fun set item => if item ∈ set then set else set ++ [item]) set

namespace OrderTrackController

variable (flow : StatusLists) (c : OrderTrackController)

/-- `orderDetails` and `driverDetails` are what the two reads give. -/
def getOrderStatus (orderDetails : Option Order) (driverDetails : Option DriverDetails) :
    OrderTrackController :=
  if c.orderId = "" then c
  else match orderDetails with
    | none => c
    | some order =>
      let c := { c with orderStatus := order.status }
      if order.driverId = "" then c
      else match driverDetails with
        | none => c
        | some driver =>
          { c with
            driverName := driver.name.getD "Unknown"
            driverphone := driver.phoneNumber.getD "N/A"
            statusIndex := indexWhere (· = c.orderStatus) c.orderStatusList }

/-- `onInit`, on a page that is opened with an id. -/
def onInit (orderId : String) (orderDetails : Option Order)
    (driverDetails : Option DriverDetails) : OrderTrackController :=
  let c : OrderTrackController :=
    { orderId, orderStatusList := addAll (addAll [] flow.farmer) flow.driver }
  c.getOrderStatus orderDetails driverDetails

def timelineStep (index : ℕ) (name : String) : TimelineStep :=
  let currentStatus := trim c.orderStatus
  let status := trim name
  let currentIndex := indexWhere (fun s => trim s = currentStatus) c.orderStatusList
  { text := status
    isDone := (index : ℤ) < currentIndex
    isLast := index + 1 = c.orderStatusList.length
    isCurrent := status = currentStatus }

def timeline : List TimelineStep :=
  if c.orderStatus = "" then [] else c.orderStatusList.mapIdx c.timelineStep

def activeAt (index : ℕ) : Bool := c.timeline[index]?.any (·.isActive)

end OrderTrackController

/-- The statuses can be told apart as the page shows them, and none of them is blank. -/
structure StatusFlow.Plain (flow : StatusFlow) : Prop where
  trimmed : ((flow.farmer ++ flow.driver).map trim).Nodup
  named : "" ∉ flow.farmer ++ flow.driver

section Lists

theorem addAll_of_nodup {set items : List String} (h : (set ++ items).Nodup) :
    addAll set items = set ++ items := by
  induction items generalizing set with
  | nil => exact (List.append_nil set).symm
  | cons item rest ih =>
    have fresh : item ∉ set := fun hmem =>
      (List.nodup_append.1 h).2.2 item hmem item List.mem_cons_self rfl
    have h' : ((set ++ [item]) ++ rest).Nodup := by
      rwa [List.append_assoc]
    change addAll (if item ∈ set then set else set ++ [item]) rest = _
    rw [if_neg fresh, ih h', List.append_assoc]
    rfl

theorem indexWhere_trimmed {l : List String} {status : String}
    (h : (l.map trim).Nodup) (hmem : status ∈ l) :
    indexWhere (fun s => trim s = trim status) l = (l.idxOf status : ℤ) := by
  have found : l.findIdx? (fun s => trim s = trim status) =
      some (l.idxOf status) := by
    induction l with
    | nil => cases hmem
    | cons s rest ih =>
      rw [List.map_cons, List.nodup_cons] at h
      by_cases hs : s = status
      · subst hs
        rw [List.findIdx?_cons, List.idxOf_cons_self]
        simp
      · have hrest : status ∈ rest := (List.mem_cons.1 hmem).resolve_left (Ne.symm hs)
        have apart : trim s ≠ trim status := fun he =>
          h.1 (he ▸ List.mem_map_of_mem hrest)
        rw [List.findIdx?_cons, List.idxOf_cons_ne _ hs, ih h.2 hrest]
        simp [apart]
  rw [indexWhere, found]

theorem trimmed_eq_iff {l : List String} {status : String} (h : (l.map trim).Nodup)
    (hmem : status ∈ l) {index : ℕ} (hlt : index < l.length) :
    trim l[index] = trim status ↔ index = l.idxOf status := by
  have hplace := List.idxOf_lt_length_of_mem hmem
  constructor
  · intro he
    have hindex' : index < (l.map trim).length := by rwa [List.length_map]
    have hplace' : l.idxOf status < (l.map trim).length := by rwa [List.length_map]
    have texts : (l.map trim)[index] = (l.map trim)[l.idxOf status] := by
      rw [List.getElem_map, List.getElem_map, he, List.getElem_idxOf hplace]
    exact h.getElem_inj_iff.1 texts
  · rintro rfl
    rw [List.getElem_idxOf hplace]

end Lists

namespace OrderTrackController

variable {flow : StatusFlow} {c : OrderTrackController} {id : String}

theorem statusList_eq (flow : StatusFlow) :
    addAll (addAll [] flow.farmer) flow.driver = flow.farmer ++ flow.driver := by
  have hfarmer : ([] ++ flow.farmer).Nodup := (List.nodup_append.1 flow.nodup).1
  rw [addAll_of_nodup hfarmer, List.nil_append, addAll_of_nodup flow.nodup]

theorem getOrderStatus_list (order : Option Order) (driver : Option DriverDetails) :
    (c.getOrderStatus order driver).orderStatusList = c.orderStatusList := by
  unfold getOrderStatus
  split
  · rfl
  · split
    · rfl
    · dsimp only
      split
      · rfl
      · split <;> rfl

theorem getOrderStatus_status (driver : Option DriverDetails) (order : Order)
    (h : c.orderId ≠ "") : (c.getOrderStatus (some order) driver).orderStatus = order.status := by
  unfold getOrderStatus
  rw [if_neg h]
  dsimp only
  split
  · rfl
  · split <;> rfl

theorem activeAt_iff (hplain : flow.Plain) (hlist : c.orderStatusList = flow.farmer ++ flow.driver)
    (hmem : c.orderStatus ∈ flow.farmer ++ flow.driver) (index : ℕ) :
    c.activeAt index ↔ index ≤ statusPosition flow.toStatusLists c.orderStatus := by
  have hne : c.orderStatus ≠ "" := fun he => hplain.named (he ▸ hmem)
  have hcurrent := indexWhere_trimmed hplain.trimmed hmem
  have hpos : statusPosition flow.toStatusLists c.orderStatus <
      (flow.farmer ++ flow.driver).length := List.idxOf_lt_length_of_mem hmem
  rw [activeAt, timeline, if_neg hne, List.getElem?_mapIdx, hlist]
  by_cases hlt : index < (flow.farmer ++ flow.driver).length
  · rw [List.getElem?_eq_getElem hlt]
    simp only [Option.map_some, Option.any_some, TimelineStep.isActive, timelineStep, hlist,
      hcurrent, Bool.or_eq_true, decide_eq_true_eq, Int.ofNat_lt]
    -- the step that is current is the one at the place of the status
    have here : trim (flow.farmer ++ flow.driver)[index] = trim c.orderStatus ↔
        index = statusPosition flow.toStatusLists c.orderStatus :=
      trimmed_eq_iff hplain.trimmed hmem hlt
    rw [here]
    exact (Nat.le_iff_lt_or_eq).symm
  · rw [List.getElem?_eq_none (Nat.le_of_not_lt hlt)]
    simp only [Option.map_none, Option.any_none, Bool.false_eq_true, false_iff]
    omega

theorem onInit_activeAt (hplain : flow.Plain) (hid : id ≠ "") {order : Order}
    (hmem : order.status ∈ flow.farmer ++ flow.driver) (driver : Option DriverDetails)
    (index : ℕ) : (onInit flow.toStatusLists id (some order) driver).activeAt index ↔
      index ≤ statusPosition flow.toStatusLists order.status := by
  have hstatus : (onInit flow.toStatusLists id (some order) driver).orderStatus = order.status :=
    getOrderStatus_status driver order hid
  have hlist : (onInit flow.toStatusLists id (some order) driver).orderStatusList =
      flow.farmer ++ flow.driver := (getOrderStatus_list _ _).trans (statusList_eq flow)
  rw [activeAt_iff hplain hlist (hstatus ▸ hmem), hstatus]

end OrderTrackController

open OrderTrackController in
/-- The steps in colour are those up to the stored status. Where the senders' checks still hold when
    their statuses are written, a step that is in colour is so whenever the page is opened later. -/
theorem timeline_grows {flow : StatusFlow} (hplain : flow.Plain) {ids : IdSupply} {u v w : Market}
    (hu : Opening u)
    (hgood : ∀ (id : String) (o : Order), u.state.orders[id]? = some o →
      o.status ∈ flow.farmer ++ flow.driver)
    (huv : Run (handler flow.toStatusLists ids) (.landing (stillAhead flow.toStatusLists)) u v)
    (hvw : Run (handler flow.toStatusLists ids) (.landing (stillAhead flow.toStatusLists)) v w)
    {id : String} (hid : id ≠ "") {o : Order} (ho : v.state.orders[id]? = some o)
    (driver driver' : Option DriverDetails) :
    (∀ index, (onInit flow.toStatusLists id (v.state.orders[id]?) driver).activeAt index ↔
      index ≤ statusPosition flow.toStatusLists o.status) ∧
    (onInit flow.toStatusLists id (v.state.orders[id]?) driver).activeAt 0 ∧
      ∀ index, (onInit flow.toStatusLists id (v.state.orders[id]?) driver).activeAt index →
        (onInit flow.toStatusLists id (w.state.orders[id]?) driver').activeAt index := by
  obtain ⟨good, next⟩ := (statusRules flow).run_landing stillAhead_allowed hu hgood huv hvw
  have later := ((statusRules flow).run_landing stillAhead_allowed hu hgood (huv.trans hvw)
    (.refl _)).1
  obtain ⟨p, hp, hle⟩ := next id o ho
  rw [ho, hp]
  have before := onInit_activeAt hplain hid (good id o ho) driver
  have after := onInit_activeAt hplain hid (later id p hp) driver'
  exact ⟨before, (before 0).2 (Nat.zero_le _),
    fun index h => (after index).2 (((before index).1 h).trans hle)⟩

theorem plain_smallFlow : smallFlow.Plain := ⟨by decide +kernel, by decide⟩

open OrderTrackController in
theorem timeline_grows_taken :
    (∀ index,
      (onInit smallFlow.toStatusLists "1" (orderMarket newOrder).state.orders["1"]? none).activeAt
        index ↔ index ≤ statusPosition smallFlow.toStatusLists newOrder.status) ∧
    (onInit smallFlow.toStatusLists "1" (orderMarket newOrder).state.orders["1"]? none).activeAt 0 ∧
      ∀ index,
        (onInit smallFlow.toStatusLists "1" (orderMarket newOrder).state.orders["1"]?
          none).activeAt index →
        (onInit smallFlow.toStatusLists "1"
          ((orderMarket newOrder).after smallHandler acceptedAndTaken).state.orders["1"]?
          (some ⟨some "Fahad", none⟩)).activeAt index :=
  timeline_grows plain_smallFlow (opening_orderMarket _) listed_newOrder (.refl _)
    (Run.after (by decide +kernel) (by decide +kernel)) (by decide)
    (o := { newOrder with orderID := some "1" }) (by decide +kernel) _ _

end Gherass
