import Gherass.DriverLists

set_option autoImplicit false

/-!
# A driver on the orders page

What a driver does on the page, any number of programs in flight, while the stored orders may
change at any time. The script says what each of the programs does between its awaits.
-/
namespace Gherass.OrdersController

open EventLoop EventLoop.Async FirebaseHelper

inductive DriverEvent where
  | stored (orders : Std.TreeMap String Order)
  | getOrders
  | getOrdersList
  | fetchDriverOrders
  | leaveDetails
  | selectOrder (history : Bool) (index : ℕ)
  | openNotification (orderId : String)
  | pressAccept

variable (flow : StatusLists) (d : Device)

def DriverEvent.program : DriverEvent → Program Unit
  | .stored orders => change fun w => { w with orders := orders }
  | .getOrders => OrdersController.getOrders flow d
  | .getOrdersList => OrdersController.getOrdersList flow d .driverId ""
  | .fetchDriverOrders => OrdersController.fetchDriverOrders d
  | .leaveDetails => OrdersController.leaveDetails d
  | .selectOrder history index => OrdersController.selectOrder flow d history index
  | .openNotification orderId => OrdersController.openNotification flow d orderId
  | .pressAccept => OrdersController.pressAccept flow d

def driverHandler (e : DriverEvent) : Task World Access Bool := (e.program flow d).task

inductive DriverCall where
  | reload (r : Reload)
  | notified (orderId : String)
  | accept (orderId status : String)
  | loadMap (page : Device × ℕ) (orderId : String)

/-- What `navigateToDetailsPage` makes of a driver's page. -/
def openDetails (order : Order) (w : World) : World :=
  let opened := w.setDetails d fun c =>
    { c with
      pageName := "detailPage"
      selectedOrder := some order
      ordersDetailsList := order.orderDetails }
  if order.isRejected then opened.setDetails d fun c =>
    { c with
      showRejectBtn := false
      showAcceptBtn := false
      selectedOrder := some { order with status := "Order Rejected" } }
  else match flow.farmer.getLast? with
    | some last => opened.setDetails d fun c =>
      { c with showAcceptBtn := last = order.status, showRejectBtn := false }
    | none => opened

def openFound : Option Order → World → World
  | some order => openDetails flow d order
  | none => id

def mapFound (page : Device × ℕ) : Option Order → World → World
  | some order => fun w => w.setMap page (showOnMap flow (some order))
  | none => id

def firstIndex : Option Order → ℤ
  | some order => driverIndex flow order.status
  | none => -1

def accepted (w : World) : World × List DriverCall :=
  let cleared := clearLists d .offers (w.setDetails d fun c =>
    { c with showAcceptBtn := false, showRejectBtn := false })
  let order := (cleared.details d).selectedOrder
  ((newMap d order cleared).setMap (d, cleared.mapsOpened) fun c =>
      { c with currentStatusIndex := firstIndex flow order },
    .reload .offers :: if mapOrderId order = "" then []
      else [.loadMap (d, cleared.mapsOpened) (mapOrderId order)])

def acceptWrite (orderId status : String) (w : World) : World × Except DartError Unit :=
  updateOrder orderId (fun o => { o with status := status, driverId := d.uid }) w

def startDriver : DriverEvent → World → World × List DriverCall
  | .stored orders, w => ({ w with orders := orders }, [])
  | .getOrders, w =>
    (clearLists d .orders (clearLists d .offers w), [.reload .offers, .reload .orders])
  | .getOrdersList, w => (clearLists d .offers w, [.reload .offers])
  | .fetchDriverOrders, w => (clearLists d .orders w, [.reload .orders])
  | .leaveDetails, w => (w.setDetails d fun c => { c with pageName := "" }, [])
  | .selectOrder history index, w =>
    let page := w.details d
    (openFound flow d (if history then page.pastOrders else page.ordersList)[index]? w, [])
  | .openNotification orderId, w => (w, if orderId = "" then [] else [.notified orderId])
  | .pressAccept, w =>
    let page := w.details d
    if page.pageName = "detailPage" ∧ page.showAcceptBtn then
      match flow.driver[0]?, page.selectedOrder.bind (·.orderID) with
      | some status, some orderId =>
        if orderId = "" then accepted flow d w else (w, [.accept orderId status])
      | _, _ => (w, [])
    else (w, [])

def driverScript : Script World DriverCall DriverEvent where
  start := startDriver flow d
  effect
    | .accept orderId status, w => (acceptWrite d orderId status w).1
    | _, w => w
  rest
    | .reload r, answer, w => (addFound flow d r (response d r answer) w, [])
    | .notified orderId, answer, w =>
      (openFound flow d (answer.bind (·.orders[orderId]?)) w, [])
    | .accept _ _, _, w => accepted flow d w
    | .loadMap page orderId, answer, w =>
      (mapFound flow page (answer.bind (·.orders[orderId]?)) w, [])

def afterNotified : Option Order → Program Unit
  | some order => navigateToDetailsPage flow d order
  | none => pure ()

def afterAccept : Program Unit := do
  hideButtons d
  reloadOrders flow d
  let page ← look fun w => w.details d
  openMap flow d page.selectedOrder

def afterLoadMap (page : Device × ℕ) : Option Order → Program Unit
  | some order => setMap page (showOnMap flow (some order))
  | none => pure ()

def driverCall : DriverCall → Task World Access Bool
  | .reload r => reloadCall flow d r
  | .notified orderId =>
    .call .plain id (fun w => (afterNotified flow d w.orders[orderId]?).task)
      (afterNotified flow d none).task
  | .accept orderId status =>
    .call (.acceptStatus d orderId status true) (fun w => (acceptWrite d orderId status w).1)
      (fun w => match (acceptWrite d orderId status w).2 with
        | .ok _ => (afterAccept flow d).task
        | .error _ => (afterAccept flow d).task)
      (afterAccept flow d).task
  | .loadMap page orderId =>
    .call .plain id (fun w => (afterLoadMap flow page w.orders[orderId]?).task)
      (afterLoadMap flow page none).task

variable {flow d}

theorem sort_settle (hd : d.logInType = .driver) {order : Order} {w : World}
    (h : (w.details d).selectedOrder = some order) :
    (sortDriverFarmerAcceptReject flow d).task.settle w =
      (if order.isRejected then w.setDetails d fun c =>
        { c with
          showRejectBtn := false
          showAcceptBtn := false
          selectedOrder := some { order with status := "Order Rejected" } }
      else match flow.farmer.getLast? with
        | some last => w.setDetails d fun c =>
          { c with showAcceptBtn := last = order.status, showRejectBtn := false }
        | none => w, []) := by
  simp only [sortDriverFarmerAcceptReject, Async.task, bind_run, look_run, Task.settle, id, h]
  by_cases hrejected : order.isRejected
  · rw [if_pos hrejected, if_pos hrejected]
    rfl
  · rw [if_neg hrejected, if_neg hrejected, if_pos hd]
    unfold statusLast
    cases flow.farmer.getLast? with
    | none | some last => rfl

theorem openDetails_settle (hd : d.logInType = .driver) (order : Order) (w : World) :
    (navigateToDetailsPage flow d order).task.settle w = (openDetails flow d order w, []) := by
  let opened := w.setDetails d fun c =>
    { c with
      pageName := "detailPage"
      selectedOrder := some order
      ordersDetailsList := order.orderDetails }
  have selected : (opened.details d).selectedOrder = some order := by
    simp only [opened, World.setDetails, Function.update_self]
  have sorted := @sort_settle flow d hd order opened selected
  change (((sortDriverFarmerAcceptReject flow d).task.settle opened).1,
    ((sortDriverFarmerAcceptReject flow d).task.settle opened).2 ++ []) = _
  rw [sorted]
  rfl

theorem openFound_settle (hd : d.logInType = .driver) (order : Option Order) (w : World) :
    (afterNotified flow d order).task.settle w = (openFound flow d order w, []) := by
  cases order with
  | none => rfl
  | some order => exact openDetails_settle hd order w

theorem mapFound_settle (page : Device × ℕ) (order : Option Order) (w : World) :
    (afterLoadMap flow page order).task.settle w = (mapFound flow page order w, []) := by
  cases order with
  | none | some order => rfl

theorem fetchOrder_run (orderId : String) (k : Option Order → Task World Access Bool)
    (h : DartError → Task World Access Bool) (w : World) :
    (fetchOrderDetailsById orderId k h).settle w = if orderId = "" then (k none).settle w
      else (w, [.call .plain id (fun u => k u.orders[orderId]?) (k none)]) := by
  unfold fetchOrderDetailsById checkPath
  by_cases hid : orderId = ""
  · simp only [if_pos hid]
    rfl
  · simp only [if_neg hid]
    rfl

theorem openMap_settle (order : Option Order) (w : World) :
    (openMap flow d order).task.settle w =
      ((newMap d order w).setMap (d, w.mapsOpened) (fun c =>
          { c with currentStatusIndex := firstIndex flow order }),
        if mapOrderId order = "" then []
        else [driverCall flow d (.loadMap (d, w.mapsOpened) (mapOrderId order))]) := by
  have loads : (loadMapOrder flow (d, w.mapsOpened) (mapOrderId order)).task.settle
      (newMap d order w) = (newMap d order w, if mapOrderId order = "" then []
        else [driverCall flow d (.loadMap (d, w.mapsOpened) (mapOrderId order))]) := by
    refine (fetchOrder_run _ _ _ _).trans ?_
    split
    · rfl
    · rfl
  have opens : (openMap flow d order).task.settle w =
      let page := (d, w.mapsOpened)
      let started := (loadMapOrder flow page (mapOrderId order)).task.settle (newMap d order w)
      (started.1.setMap page fun c => { c with currentStatusIndex := firstIndex flow order },
        started.2 ++ []) := rfl
  rw [opens]
  dsimp only
  rw [loads, List.append_nil]

theorem accepted_settle (hd : d.logInType = .driver) (w : World) :
    (afterAccept flow d).task.settle w =
      ((accepted flow d w).1, (accepted flow d w).2.map (driverCall flow d)) := by
  let hidden := w.setDetails d fun c => { c with showAcceptBtn := false, showRejectBtn := false }
  let cleared := clearLists d .offers hidden
  have reloaded : (getOrdersList flow d .driverId "").task.settle hidden =
      (cleared, [driverCall flow d (.reload .offers)]) := reload_follows.start .offers hidden
  have opened := @openMap_settle flow d (cleared.details d).selectedOrder cleared
  have unfolded : (afterAccept flow d).task.settle w =
      let started := (getOrdersList flow d .driverId "").task.settle hidden
      let opened := (openMap flow d (started.1.details d).selectedOrder).task.settle started.1
      (opened.1, started.2 ++ opened.2) := by
    simp only [afterAccept, hideButtons, reloadOrders, if_pos hd, Async.task, bind_run, setDetails,
      change_run, spawn_run, look_run, Task.settle, id]
    rfl
  rw [unfolded, reloaded]
  dsimp only
  rw [opened]
  refine Prod.ext rfl ?_
  change _ :: _ = (accepted flow d w).2.map _
  rw [accepted, List.map_cons]
  congr 1
  rw [apply_ite (List.map (driverCall flow d))]
  rfl

theorem updateOrderStatus_run (orderId status : String) (k : Unit → Task World Access Bool)
    (h : DartError → Task World Access Bool) (w : World) :
    (updateOrderStatus (.acceptStatus d orderId status true) d.uid orderId status true
        k h).settle w =
      if orderId = "" then (k ()).settle w
      else (w, [.call (.acceptStatus d orderId status true)
        (fun w => (acceptWrite d orderId status w).1)
        (fun w => match (acceptWrite d orderId status w).2 with | .ok _ => k () | .error _ => k ())
        (k ())]) := by
  unfold updateOrderStatus checkPath
  by_cases hid : orderId = ""
  · simp only [if_pos hid]
    rfl
  · simp only [if_neg hid, if_true]
    refine Prod.ext rfl (congrArg (fun next => [Task.call
      (Access.acceptStatus d orderId status true)
      (fun w => (acceptWrite d orderId status w).1) next (k ())]) (funext fun u => ?_))
    unfold acceptWrite
    cases (updateOrder orderId (fun o => { o with status := status, driverId := d.uid }) u).2 with
    | ok | error => rfl

theorem pressAccept_settle (hd : d.logInType = .driver) (w : World) :
    (pressAccept flow d).task.settle w = ((startDriver flow d .pressAccept w).1,
      (startDriver flow d .pressAccept w).2.map (driverCall flow d)) := by
  have other : ¬ d.logInType = .farmer := by
    rw [hd]
    nofun
  simp only [pressAccept, Async.task, bind_run, look_run, Task.settle, id, startDriver]
  by_cases hpage : (w.details d).pageName = "detailPage" ∧ (w.details d).showAcceptBtn
  case neg =>
    rw [if_neg hpage, if_neg hpage]
    rfl
  rw [if_pos hpage, if_pos hpage, if_neg other]
  cases hstatus : flow.driver[0]? with
  | none =>
    simp only [statusAt, hstatus]
    rfl
  | some status =>
    simp only [statusAt, hstatus, bind_run, pure_run, acceptBtnClick, selectedId, look_run,
      Task.settle, id]
    cases hselected : (w.details d).selectedOrder with
    | none => rfl
    | some order =>
      simp only [Option.bind_some]
      cases horder : order.orderID with
      | none => rfl
      | some orderId =>
        refine (updateOrderStatus_run orderId status _ _ w).trans ?_
        by_cases hid : orderId = ""
        · dsimp only
          rw [if_pos hid, if_pos hid]
          exact accepted_settle hd w
        · dsimp only
          rw [if_neg hid, if_neg hid]
          rfl

theorem driver_follows (hd : d.logInType = .driver) :
    Machine.Follows (driverScript flow d) (driverHandler flow d) (driverCall flow d) where
  start e w := by
    cases e with
    | stored orders => rfl
    | getOrders =>
      have unfolded : (driverHandler flow d .getOrders).settle w =
          let offers := (getOrdersList flow d .driverId "").task.settle w
          let history := (fetchDriverOrders d).task.settle offers.1
          (history.1, offers.2 ++ (history.2 ++ [])) := by
        simp only [driverHandler, DriverEvent.program, getOrders, if_pos hd]
        rfl
      have offers : (getOrdersList flow d .driverId "").task.settle w =
          (clearLists d .offers w, [driverCall flow d (.reload .offers)]) :=
        reload_follows.start .offers w
      have history : (fetchDriverOrders d).task.settle (clearLists d .offers w) =
          (clearLists d .orders (clearLists d .offers w), [driverCall flow d (.reload .orders)]) :=
        (@reload_follows flow d).start .orders _
      rw [unfolded, offers]
      dsimp only
      rw [history]
      rfl
    | getOrdersList => exact reload_follows.start .offers w
    | fetchDriverOrders => exact (@reload_follows flow d).start .orders w
    | leaveDetails => rfl
    | selectOrder history index =>
      simp only [driverHandler, DriverEvent.program, selectOrder, Async.task, bind_run, look_run,
        Task.settle, id, driverScript, startDriver]
      exact (openFound_settle hd _ w)
    | openNotification orderId =>
      simp only [driverHandler, DriverEvent.program, openNotification, driverScript, startDriver]
      by_cases hid : orderId = ""
      · rw [if_pos hid, if_pos hid]
        rfl
      · rw [if_neg hid, if_neg hid]
        refine (fetchOrder_run _ _ _ _).trans ?_
        rw [if_neg hid]
        rfl
    | pressAccept => exact pressAccept_settle hd w
  call c := by
    cases c with
    | reload r => exact ⟨_, _, _, rfl, fun _ s => afterFound_settle r _ s,
      fun s => afterFound_settle r none s⟩
    | notified orderId =>
      exact ⟨_, _, _, rfl, fun _ s => openFound_settle hd _ s,
        fun s => openFound_settle hd none s⟩
    | accept orderId status =>
      refine ⟨_, _, _, rfl, fun u s => ?_, accepted_settle hd⟩
      cases (acceptWrite d orderId status u).2 with
      | ok | error => exact accepted_settle hd s
    | loadMap page orderId =>
      exact ⟨_, _, _, rfl, fun _ s => mapFound_settle page _ s,
        fun s => mapFound_settle page none s⟩

end Gherass.OrdersController
