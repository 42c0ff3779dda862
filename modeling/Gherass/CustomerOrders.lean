import Gherass.ShopData

set_option autoImplicit false

/-!
# The customer's order pages

`CustomerOrdersController`: the list of the customer's orders and the page that shows one of
them, opened from the list or from a notification.
-/
namespace Gherass.CustomerOrders

open EventLoop EventLoop.Async Gherass.Shop

/-- The map of an order. `docId` is bookkeeping: which document the map was read from. -/
structure OrderMap extends Order where
  docId : String
  deriving DecidableEq

/-- The map of a profile. `userId` is bookkeeping, as above. -/
structure Details where
  userId : String
  data : Fields

structure CustomerOrdersController where
  customerOrderList : List OrderMap := []
  orderedProductList : List OrderLine := []
  customerList : List Details := []
  selectedOrder : Option OrderMap := none
  driverList : List Details := []
  farmList : List Details := []
  farmerProducts : List Fields := []

/-- What Firestore holds of orders, profiles and products. -/
structure Documents where
  orders : Std.TreeMap String Order := ∅
  profiles : LogInType → String → Option Fields := fun _ _ => none
  products : String → Std.TreeMap String Fields := fun _ => ∅

abbrev Fetch := LogInType × String

/-- `opened`, `underWay` and `missed` are bookkeeping: the order opened last, how often each
    call of `getDetailsById` is under way, and which of them have found nothing. -/
structure OrderPages extends CustomerOrdersController where
  documents : Documents := {}
  opened : Option OrderMap := none
  underWay : Fetch → ℕ := fun _ => 0
  missed : Fetch → Bool := fun _ => false

inductive OrderAccess where
  | plain
  | notified (order : OrderMap)
  | answered (fetch : Fetch) (found : Bool)

abbrev OrdersProgram (α : Type) := EventLoop.Async OrderPages OrderAccess DartError Unit α

namespace FirebaseHelper

def query {α : Type} (f : Documents → Except DartError α) : OrdersProgram α :=
  call .plain (fun w => (w, f w.documents)) .firestore

def ordersOf (customerId : String) (docs : Documents) : List OrderMap :=
  ((docs.orders.toList.map fun doc => { doc.2 with docId := doc.1 }).filter fun o =>
    o.customerId = customerId).insertionSort fun a b => b.date ≤ a.date

/-- For the field `customerId`. -/
def fetchOrders (customerId : String) : OrdersProgram (Option (List OrderMap)) := do
  try
    let docs ← query fun docs => .ok (ordersOf customerId docs)
    if docs ≠ [] then pure (some docs) else pure none
  catch _ => pure none

def byId {α : Type} (id : String) (f : Documents → Option α) (docs : Documents) :
    Except DartError (Option α) :=
  if id = "" then .error .argument else .ok (f docs)

def fetchDetailsById (collection : LogInType) (userId : String) :
    OrdersProgram (Option Fields) := do
  try query (byId userId fun docs => docs.profiles collection userId)
  catch _ => pure none

def fetchOrderDetailsById (orderId : String) : OrdersProgram (Option OrderMap) := do
  try query (byId orderId fun docs => docs.orders[orderId]?.map fun o => { o with docId := orderId })
  catch _ => pure none

def fetchFarmerProducts (farmerId : String) : OrdersProgram (Option (List Fields)) := do
  try
    let docs ← query fun docs => if farmerId = "" then .error .argument
      else .ok ((docs.products farmerId).toList.map fun doc => doc.2.withId doc.1)
    if docs.isEmpty then pure none else pure (some docs)
  catch _ => pure none

end FirebaseHelper

open Gherass.CustomerOrders.FirebaseHelper

def idIn (o : OrderMap) : LogInType → String
  | .farmer => o.farmerId
  | .driver => o.driverId
  | .customer => o.customerId

def detailsIn (c : CustomerOrdersController) : LogInType → List Details
  | .farmer => c.farmList
  | .driver => c.driverList
  | .customer => c.customerList

def setDetailsIn (collection : LogInType) (list : List Details) (w : OrderPages) : OrderPages :=
  match collection with
  | .farmer => { w with farmList := list }
  | .driver => { w with driverList := list }
  | .customer => { w with customerList := list }

def opening (o : OrderMap) (w : OrderPages) : OrderPages :=
  { w with
    opened := some o
    underWay := fun f => w.underWay f + if f.2 = idIn o f.1 then 1 else 0 }

def answer (f : Fetch) (response : Option Fields) (w : OrderPages) : OrderPages :=
  let ended : OrderPages :=
    { w with underWay := Function.update w.underWay f (w.underWay f - 1) }
  match response with
  | some data => setDetailsIn f.1 [⟨f.2, data⟩] ended
  | none => { ended with missed := Function.update w.missed f true }

def getDetailsById (collection : LogInType) (userId : String) : OrdersProgram Unit := do
  try
    let response ← fetchDetailsById collection userId
    note (.answered (collection, userId) response.isSome)
    change (answer (collection, userId) response)
  catch _ => pure ()

def getFarmerProducts (farmerId : String) : OrdersProgram Unit := do
  try
    match ← fetchFarmerProducts farmerId with
    | some response => change fun w => { w with farmerProducts := response }
    | none => pure ()
  catch _ => pure ()

def setSelectedOrder (order : OrderMap) (index : ℕ) : OrdersProgram Unit := do
  change fun w => { w with selectedOrder := some order }
  spawn (getFarmerProducts order.farmerId)
  change fun w => { w with orderedProductList := [] }
  match (← look (·.customerOrderList))[index]? with
  | some listed => change fun w => { w with orderedProductList := listed.orderDetails }
  | none => throw .range

def navigateToDetail (ordersData : OrderMap) : OrdersProgram Unit := do
  change (opening ordersData)
  spawn (getDetailsById .farmer ordersData.farmerId)
  spawn (getDetailsById .driver ordersData.driverId)
  spawn (getDetailsById .customer ordersData.customerId)
  change fun w => { w with orderedProductList := [] }
  change fun w => { w with orderedProductList := ordersData.orderDetails }

def getCustomerOrderList (uid : Uid) : OrdersProgram Unit := do
  try
    match ← fetchOrders uid with
    | some response => change fun w => { w with customerOrderList := response }
    | none => pure ()
  catch _ => pure ()

def onTap (index : ℕ) : OrdersProgram Unit := do
  match (← look (·.customerOrderList))[index]? with
  | some order =>
    change (opening order)
    setSelectedOrder order index
    spawn (getDetailsById .farmer order.farmerId)
    spawn (getDetailsById .driver order.driverId)
    spawn (getDetailsById .customer order.customerId)
  | none => pure ()

def openNotification (orderId : String) : OrdersProgram Unit := do
  if orderId = "" then pure ()
  else
    match ← fetchOrderDetailsById orderId with
    | some ordersData =>
      note (.notified ordersData)
      navigateToDetail ordersData
    | none => pure ()

inductive OrdersEvent where
  | documents (docs : Documents)
  | getCustomerOrderList
  | onTap (index : ℕ)
  | openNotification (orderId : String)

def OrdersEvent.program (uid : Uid) : OrdersEvent → OrdersProgram Unit
  | .documents docs => change fun w => { w with documents := docs }
  | .getCustomerOrderList => CustomerOrders.getCustomerOrderList uid
  | .onTap index => CustomerOrders.onTap index
  | .openNotification orderId => CustomerOrders.openNotification orderId

def ordersHandler (uid : Uid) (e : OrdersEvent) : Task OrderPages OrderAccess Unit :=
  (e.program uid).task

end Gherass.CustomerOrders
