import Gherass.ProgramFrames

set_option autoImplicit false

/-!
# The delivery page after a tap on a status

The page writes the status and reads the order again. What it reads takes the place of the
whole order, and an order that could not be read is an empty map.
-/
namespace Gherass.OrdersController

open EventLoop EventLoop.Async FirebaseHelper

variable (flow : StatusLists) (ok : Access → Bool) (d : Device) (page : Device × ℕ)
  (c : OrderDetailMapController) (status : String) (w : World)

def writes : Prop :=
  c.orderId ≠ "" ∧ ok (.deliveryStatus d c.orderId status (shownDriver c)) = true ∧
    (w.orders[c.orderId]?).isSome

def readsAgain : Prop := c.orderId ≠ "" ∧ ok .plain = true ∧ (w.orders[c.orderId]?).isSome

instance : Decidable (writes ok d c status w) := inferInstanceAs (Decidable (_ ∧ _ ∧ _))

instance : Decidable (readsAgain ok c w) := inferInstanceAs (Decidable (_ ∧ _ ∧ _))

def afterDelivery : World :=
  ((updateDeliveryStatus flow d page c status).task.alone ok w).2

/-- The status that is last known to be stored: the one read, else the one written, else the
    one on show. -/
def knownStatus (shown : Order) : String :=
  if readsAgain ok c w then
    (((afterDelivery flow ok d page c status w).orders[c.orderId]?).map (·.status)).getD ""
  else if writes ok d c status w then status
  else shown.status

/-- The page still holds the order, as it was shown or as it is stored, with the status that is
    known, and no step up to that status can be tapped. -/
structure StillOpen (known : String) (shown : Order) (stored : Option Order)
    (c' : OrderDetailMapController) : Prop where
  order : ∃ o, c'.selectedOrder = some o ∧ o.status = known ∧
    (stored = some o ∨ { o with status := shown.status, driverId := shown.driverId } = shown)
  index : c'.currentStatusIndex = driverIndex flow known
  behind (index : ℕ) : index ≤ driverIndex flow known → ¬ c'.currentStatusIndex < index

/-- The claim about one tap, whatever becomes of its two calls. -/
def keepsOrder (shown : Order) : Prop :=
  ∃ c', (afterDelivery flow ok d page c status w).maps page = some c' ∧
    StillOpen flow (knownStatus flow ok d page c status w shown) shown
      ((afterDelivery flow ok d page c status w).orders[c.orderId]?) c'

section Tap

variable {flow ok d page c status w}

theorem updateOrder_frame (id : String) (f : Order → Order) (w : World) :
    (updateOrder id f w).1.maps = w.maps ∧
      ((updateOrder id f w).1.orders[id]?).isSome = (w.orders[id]?).isSome := by
  cases ho : w.orders[id]? with
  | none =>
    have same : (updateOrder id f w).1 = w := by simp only [updateOrder, ho]
    rw [same, ho]
    exact ⟨rfl, rfl⟩
  | some o =>
    rw [updateOrder_stored ho, World.putOrder_get, if_pos rfl]
    exact ⟨rfl, rfl⟩

variable (ok) in
theorem yields_updateOrderStatus (seen : Access) (uid : Uid) (id status : String) (w : World) :
    ∃ w', Yields ok (updateOrderStatus seen uid id status true) w (.ok ()) w' ∧
      w'.maps = w.maps ∧ (w'.orders[id]?).isSome = (w.orders[id]?).isSome := by
  by_cases hid : id = ""
  · subst hid
    exact ⟨w, .caught (.bind_error yields_checkPath_empty) (.pure ()), rfl, rfl⟩
  have checked : Yields ok (checkPath id) w (.ok ()) w := yields_checkPath hid
  let write := updateOrder id fun o => { o with status := status, driverId := uid }
  obtain ⟨hmaps, hstored⟩ := updateOrder_frame id
    (fun o => { o with status := status, driverId := uid }) w
  cases hok : ok seen with
  | false =>
    refine ⟨w, .caught (e := .firestore) (checked.bind ?_) (.pure ()), rfl, rfl⟩
    rw [if_pos rfl]
    exact .call_lost hok _ _
  | true =>
    cases hanswer : (write w).2 with
    | ok a =>
      refine ⟨(write w).1, .tryCatch (checked.bind ?_), hmaps, hstored⟩
      rw [if_pos rfl]
      exact .call_answer hok hanswer
    | error e =>
      refine ⟨(write w).1, .caught (e := e) (checked.bind ?_) (.pure ()), hmaps, hstored⟩
      rw [if_pos rfl]
      exact .call_answer hok hanswer

variable (ok) in
theorem yields_getOrderById (id : String) (w : World) :
    Yields ok (getOrderById id) w
      (.ok (if id ≠ "" ∧ ok .plain = true then w.orders[id]? else none)) w := by
  by_cases hid : id = ""
  · subst hid
    exact .caught (.bind_error yields_checkPath_empty) (.pure none)
  have checked : Yields ok (checkPath id) w (.ok ()) w := yields_checkPath hid
  cases hok : ok .plain with
  | false =>
    rw [if_neg fun h => Bool.false_ne_true h.2]
    exact .caught (checked.bind (.call_lost hok _ _)) (.pure none)
  | true =>
    rw [if_pos ⟨hid, rfl⟩]
    exact .tryCatch (checked.bind (.call_answer hok rfl))

theorem setMap_self {f : OrderDetailMapController → OrderDetailMapController}
    (h : w.maps page = some c) : (w.setMap page f).maps page = some (f c) := by
  simp only [World.setMap, Function.update_self, h, Option.map_some]

variable (flow ok d status) in
theorem afterDelivery_map (h : w.maps page = some c) :
    (afterDelivery flow ok d page c status w).maps page =
        some { showOnMap flow (if readsAgain ok c w then
          (afterDelivery flow ok d page c status w).orders[c.orderId]? else none) c with
          showOrderStatusToggle := true } ∧
      ((afterDelivery flow ok d page c status w).orders[c.orderId]?).isSome =
        (w.orders[c.orderId]?).isSome := by
  obtain ⟨w₁, hwrite, hmaps, hstored⟩ := yields_updateOrderStatus ok
    (.deliveryStatus d c.orderId status (shownDriver c)) d.uid c.orderId status w
  have hread := yields_getOrderById ok c.orderId w₁
  have read : (if c.orderId ≠ "" ∧ ok .plain = true then w₁.orders[c.orderId]? else none) =
      if readsAgain ok c w then w₁.orders[c.orderId]? else none := by
    by_cases hasked : c.orderId ≠ "" ∧ ok .plain = true
    · rw [if_pos hasked]
      by_cases hfound : (w.orders[c.orderId]?).isSome
      · rw [if_pos ⟨hasked.1, hasked.2, hfound⟩]
      · rw [if_neg fun h : readsAgain ok c w => hfound h.2.2]
        rw [← hstored] at hfound
        exact Option.not_isSome_iff_eq_none.1 hfound
    · rw [if_neg hasked, if_neg fun h : readsAgain ok c w => hasked ⟨h.1, h.2.1⟩]
  rw [read] at hread
  have run : Yields ok (updateDeliveryStatus flow d page c status) w (.ok ()) _ :=
    hwrite.bind (hread.bind ((Yields.change _).bind (.change _)))
  rw [afterDelivery, run.task]
  refine ⟨?_, hstored⟩
  exact setMap_self (setMap_self (hmaps ▸ h))

end Tap

/-- The page keeps its order exactly if the order is read again. -/
theorem keepsOrder_iff (shown : Order) (h : w.maps page = some c) :
    keepsOrder flow ok d page c status w shown ↔ readsAgain ok c w := by
  obtain ⟨hmap, hstored⟩ := afterDelivery_map flow ok d status h
  constructor
  · rintro ⟨c', hc', ⟨o, ho, -⟩, -⟩
    obtain rfl := Option.some_inj.1 (hmap.symm.trans hc')
    by_contra hread
    rw [if_neg hread] at ho
    cases ho
  · intro hread
    obtain ⟨o, ho⟩ := Option.isSome_iff_exists.1 (hstored.trans hread.2.2)
    rw [if_pos hread, ho] at hmap
    have known : knownStatus flow ok d page c status w shown = o.status := by
      rw [knownStatus, if_pos hread, ho]
      rfl
    refine ⟨_, hmap, ⟨o, rfl, known.symm, .inl ho⟩, ?_, fun index hindex => ?_⟩
    · rw [known]
      rfl
    · rw [known] at hindex
      exact not_lt.2 hindex

theorem driver_ne_empty : "driver" ≠ "" := by decide

def courier : Device := ⟨⟨"driver", driver_ne_empty⟩, .driver, 0⟩

def twoSteps : StatusLists := ⟨["Placed", "Accepted"], ["On the way", "Successfully Delivered"]⟩

def parcel : Order := { orderID := some "1", driverId := "driver", status := "On the way" }

def parcelPage : OrderDetailMapController :=
  { selectedOrder := some parcel, orderId := "1", showOrderStatusToggle := true }

def parcelWorld : World where
  orders := (∅ : Std.TreeMap String Order).insert "1" parcel
  maps _ := some parcelPage

theorem parcel_stored : (parcelWorld.orders["1"]?).isSome := by
  simp [parcelWorld]

theorem keepsOrder_parcel :
    keepsOrder twoSteps (fun _ => true) courier (courier, 0) parcelPage "Successfully Delivered"
      parcelWorld parcel :=
  (keepsOrder_iff twoSteps (fun _ => true) courier (courier, 0) parcelPage
    "Successfully Delivered" parcelWorld parcel rfl).2 ⟨by decide, rfl, parcel_stored⟩

/-- The write goes through and the read is lost, and the order with it. -/
theorem parcel_lost :
    ¬ keepsOrder twoSteps (fun l => l ≠ .plain) courier (courier, 0) parcelPage
      "Successfully Delivered" parcelWorld parcel := by
  rintro ⟨c', hc', ⟨o, ho, -⟩, -⟩
  have page : parcelWorld.maps (courier, 0) = some parcelPage := rfl
  have map := (afterDelivery_map twoSteps (fun l => l ≠ .plain) courier "Successfully Delivered"
    page).1
  have lost : ¬ readsAgain (fun l => l ≠ .plain) parcelPage parcelWorld := fun h => by
    exact absurd h.2.1 (by decide)
  rw [if_neg lost] at map
  obtain rfl := Option.some_inj.1 (map.symm.trans hc')
  cases ho

end Gherass.OrdersController
