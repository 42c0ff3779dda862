import Gherass.FirebaseHelper

set_option autoImplicit false

/-!
# The order pages of farmers and drivers

`OrdersController`, the driver's home page and the delivery page it opens. What the
pages only display (profiles, product pictures, markers) is not kept.
-/
namespace Gherass.OrdersController

open EventLoop.Async FirebaseHelper

variable (flow : StatusLists) (d : Device)

def setDetails (f : OrdersController → OrdersController) : Program Unit :=
  change fun w => w.setDetails d f

/-- A driver with no details open is only offered the orders their farmers accepted. -/
def getOrdersList (fieldName : OrderField) (uId : String) : Program Unit := do
  setDetails d fun c => { c with allOrders := [], ordersList := [] }
  try
    match ← fetchOrders fieldName uId with
    | some response =>
      setDetails d fun c => { c with allOrders := response }
      let page ← look fun w => w.details d
      if d.logInType = .driver ∧ page.pageName = "" then
        if response ≠ [] then
          let offered ← statusAt flow.farmer 1
          setDetails d fun c =>
            { c with ordersList := c.ordersList ++ response.filter fun o => offered = o.status }
      else setDetails d fun c => { c with ordersList := response }
    | none => pure ()
  catch _ => pure ()

def isDelivered (o : Order) : Bool := o.status = "Successfully Delivered"

def fetchDriverOrders : Program Unit := do
  try
    setDetails d fun c => { c with pastOrders := [], currentOrders := [], pageName := "" }
    let orders ← fetchOrdersWithDriverId d.uid
    let orders := orders.getD []
    setDetails d fun c =>
      { c with
        pastOrders := c.pastOrders ++ orders.filter isDelivered
        currentOrders := c.currentOrders ++ orders.filter fun o => !isDelivered o }
    setDetails d fun c =>
      { c with
        showCurrentOrders := c.currentOrders ≠ []
        showPastOrders := c.pastOrders ≠ [] }
  catch _ => pure ()

/-- `onInit` -/
def getOrders : Program Unit := do
  if d.logInType = .driver then
    spawn (getOrdersList flow d .driverId "")
    spawn (fetchDriverOrders d)
  else spawn (getOrdersList flow d .farmerId d.uid)

def sortDriverFarmerAcceptReject : Program Unit := do
  match (← look fun w => w.details d).selectedOrder with
  | some order =>
    if order.isRejected then
      setDetails d fun c =>
        { c with
          showRejectBtn := false
          showAcceptBtn := false
          selectedOrder := some { order with status := "Order Rejected" } }
    else if d.logInType = .driver then
      let last ← statusLast flow.farmer
      setDetails d fun c =>
        { c with showAcceptBtn := last = order.status, showRejectBtn := false }
    else if d.logInType = .farmer then
      let first ← statusAt flow.farmer 0
      setDetails d fun c =>
        { c with
          showAcceptBtn := first = order.status
          showRejectBtn := first = order.status }
    else pure ()
  | none => pure ()

def navigateToDetailsPage (selectedOrderData : Order) : Program Unit := do
  setDetails d fun c =>
    { c with
      pageName := "detailPage"
      selectedOrder := some selectedOrderData
      ordersDetailsList := selectedOrderData.orderDetails }
  spawn (sortDriverFarmerAcceptReject flow d)

/-- The `orderID` of the order on show, where a `String` is wanted. -/
def selectedId : Program String := do
  match (← look fun w => w.details d).selectedOrder with
  | some order =>
    match order.orderID with
    | some id => pure id
    | none => throw .type
  | none => throw .type

/-- `getOrdersList` as the buttons call it again when they are done. -/
def reloadOrders : Program Unit :=
  if d.logInType = .driver then spawn (getOrdersList flow d .driverId "")
  else spawn (getOrdersList flow d .farmerId d.uid)

def hideButtons : Program Unit :=
  setDetails d fun c => { c with showAcceptBtn := false, showRejectBtn := false }

def acceptBtnClick (orderStatus : String) (isDriver : Bool) : Program Unit := do
  let orderID ← selectedId d
  updateOrderStatus (.acceptStatus d orderID orderStatus isDriver) d.uid orderID orderStatus
    isDriver
  hideButtons d
  reloadOrders flow d

def rejectBtnClick : Program Unit := do
  let orderID ← selectedId d
  rejectOrder (.rejectButton d orderID) orderID
  hideButtons d
  reloadOrders flow d

/-- `indexWhere` on the driver's list. -/
def driverIndex (status : String) : ℤ :=
  if status ∈ flow.driver then (flow.driver.idxOf status : ℤ) else -1

def setMap (page : Device × ℕ) (f : OrderDetailMapController → OrderDetailMapController) :
    Program Unit :=
  change fun w => w.setMap page f

def showOnMap (order : Option Order) (c : OrderDetailMapController) : OrderDetailMapController :=
  let status := match order with | some o => o.status | none => "null"
  { c with
    selectedOrder := order
    selectedStatusName := status
    currentStatusIndex := driverIndex flow status }

/-- `OrderDetailMapController.getOrdersList` -/
def loadMapOrder (page : Device × ℕ) (orderId : String) : Program Unit := do
  try
    let ordersData ← fetchOrderDetailsById orderId
    match ordersData with
    | some order => setMap page (showOnMap flow (some order))
    | none => pure ()
  catch _ => pure ()

/-- `selectedOrder["orderID"] ?? ""` -/
def mapOrderId (order : Option Order) : String := (order.bind (·.orderID)).getD ""

def newMap (order : Option Order) (w : World) : World :=
  { w with
    maps := Function.update w.maps (d, w.mapsOpened)
      (some { selectedOrder := order, orderId := mapOrderId order })
    mapsOpened := w.mapsOpened + 1 }

/-- Opens the delivery page on an order and runs its `onInit`. -/
def openMap (order : Option Order) : Program Unit := do
  let index := match order with | some o => driverIndex flow o.status | none => -1
  let page ← seg fun w => (newMap d order w, (d, w.mapsOpened))
  spawn (loadMapOrder flow page (mapOrderId order))
  setMap page fun c => { c with currentStatusIndex := index }

def shownDriver (c : OrderDetailMapController) : String :=
  match c.selectedOrder with
  | some order => order.driverId
  | none => ""

def updateDeliveryStatus (page : Device × ℕ) (c : OrderDetailMapController) (status : String) :
    Program Unit := do
  let orderId := c.orderId
  updateOrderStatus (.deliveryStatus d orderId status (shownDriver c)) d.uid orderId status true
  let order ← getOrderById orderId
  setMap page (showOnMap flow order)
  setMap page fun c => { c with showOrderStatusToggle := true }

def setHome (f : HomeController → HomeController) : Program Unit :=
  change fun w => w.setHome d f

/-- `HomeViewController.fetchDriverOrders` -/
def fetchHomeOrders : Program Unit := do
  setHome d fun c =>
    { c with
      showCurrentOrders := false
      showPastOrders := false
      pastOrders := []
      currentOrders := [] }
  let orders ← fetchOrdersWithDriverId d.uid
  let orders := orders.getD []
  setHome d fun c =>
    { c with
      pastOrders := c.pastOrders ++ orders.filter isDelivered
      currentOrders := c.currentOrders ++ orders.filter fun o => !isDelivered o }
  setHome d fun c =>
    { c with
      showCurrentOrders := c.currentOrders ≠ []
      showPastOrders := c.pastOrders ≠ [] }

/-- A tap on an order of the list, or of the driver's history. -/
def selectOrder (history : Bool) (index : ℕ) : Program Unit := do
  let page ← look fun w => w.details d
  match (if history then page.pastOrders else page.ordersList)[index]? with
  | some order => navigateToDetailsPage flow d order
  | none => pure ()

def openNotification (orderId : String) : Program Unit := do
  if orderId = "" then pure ()
  else
    match ← fetchOrderDetailsById orderId with
    | some order => navigateToDetailsPage flow d order
    | none => pure ()

def leaveDetails : Program Unit := setDetails d fun c => { c with pageName := "" }

/-- The Accept button of the details, which is there only while `showAcceptBtn` is set. -/
def pressAccept : Program Unit := do
  let page ← look fun w => w.details d
  if page.pageName = "detailPage" ∧ page.showAcceptBtn then
    if d.logInType = .farmer then
      let status ← statusAt flow.farmer 1
      acceptBtnClick flow d status false
      reloadOrders flow d
    else
      let status ← statusAt flow.driver 0
      acceptBtnClick flow d status true
      let page ← look fun w => w.details d
      openMap flow d page.selectedOrder
  else pure ()

def pressReject : Program Unit := do
  let page ← look fun w => w.details d
  if page.pageName = "detailPage" ∧ page.showRejectBtn then
    rejectBtnClick flow d
    spawn (getOrdersList flow d .farmerId d.uid)
  else pure ()

def openHomeOrder (past : Bool) (index : ℕ) : Program Unit := do
  let home ← look fun w => w.homes d
  match (if past then home.pastOrders else home.currentOrders)[index]? with
  | some order => openMap flow d (some order)
  | none => pure ()

def toggleSteps (page : ℕ) : Program Unit :=
  setMap (d, page) fun c => { c with showOrderStatusToggle := !c.showOrderStatusToggle }

def tapStatus (page index : ℕ) : Program Unit := do
  match (← look fun w => w.maps (d, page)), flow.driver[index]? with
  | some c, some status =>
    if c.showOrderStatusToggle ∧ c.currentStatusIndex < index then
      updateDeliveryStatus flow d (d, page) c status
      fetchHomeOrders d
    else pure ()
  | _, _ => pure ()

end Gherass.OrdersController
