import Gherass.EventLoop
import Mathlib.Data.List.Sort
import Mathlib.Data.Rat.Defs
import Mathlib.Data.String.Basic

set_option autoImplicit false

/-!
# The data of the market

The Firestore documents and the state of every running app, in one record. A document
is read and written in one step; what lies between two awaits is a step of its own.
-/
namespace Gherass

/-- A signed-in user's id, never empty. -/
abbrev Uid := { uid : String // uid ≠ "" }

inductive LogInType where
  | farmer
  | driver
  | customer
  deriving DecidableEq

/-- One copy of the app with a user signed in. -/
structure Device where
  uid : Uid
  logInType : LogInType
  slot : ℕ := 0
  deriving DecidableEq

/-- `Constants.orderStatusListOfFarmer` and `Constants.orderStatusListOfDriver`. -/
structure StatusLists where
  farmer : List String
  driver : List String

/-- Status lists as the database is meant to hold them. -/
structure StatusFlow extends StatusLists where
  farmer_ne : farmer ≠ []
  driver_ne : driver ≠ []
  nodup : (farmer ++ driver).Nodup

inductive DartError where
  | firestore
  | argument
  | type
  | range
  | state
  | concurrentModification
  deriving DecidableEq

structure Address where
  address : String := ""
  street : String := ""
  houseNumber : String := ""
  neighborhood : String := ""
  lat : ℚ := 0
  lng : ℚ := 0
  deriving DecidableEq

structure DeliveryAddress extends Address where
  email : String := ""
  phoneNumber : String := ""
  deriving DecidableEq

/-- A document of `customer`, as the cart page reads it. -/
structure CustomerInfo where
  username : String := ""
  email : String := ""
  phoneNumber : String := ""
  currentAddress : Option Address := none

/-- A line of `orderDetails`. -/
structure OrderLine where
  name : String := ""
  price : ℚ := 0
  productId : String
  qty : ℤ
  totalQty : ℤ := 0
  deriving DecidableEq

/-- A document of `order`. `orderID` is null until the order's own id is recorded. -/
structure Order where
  customerName : String := ""
  deliveryAddress : DeliveryAddress := {}
  date : ℕ := 0
  deliveryDate : String := ""
  customerId : String := ""
  driverId : String := ""
  farmerId : String := ""
  farmerName : String := ""
  isRejected : Bool := false
  orderDetails : List OrderLine := []
  paymentMethod : String := ""
  orderID : Option String := none
  status : String := ""
  time : String := ""
  totalAmount : ℚ := 0
  deriving DecidableEq

/-- A document of `farmer/{farmerId}/products`. Product ids are auto ids, so no two
    farmers have one in common. -/
structure FarmProduct where
  farmerId : String
  qty : Option ℤ
  isHidden : Bool := false
  deriving DecidableEq

def FarmProduct.stock (p : FarmProduct) : ℤ := p.qty.getD 0

/-- `Product` of `cart_model.dart`: a line of a cart. -/
structure Product where
  id : String := ""
  farmerId : String := ""
  farmerName : String := ""
  prodId : String := ""
  name : String := ""
  price : ℚ := 0
  image : String := ""
  qty : ℤ := 0
  totalQty : ℤ := 0
  deriving DecidableEq, Inhabited

/-- `customer/{uid}/cart`: the farmers' documents, and below each farmer's id a
    `products` subcollection, which is there whether its document is or not. -/
structure CartStore where
  docs : Std.TreeSet String := ∅
  products : String → Std.TreeMap String Product := fun _ => ∅

/-- Firestore's choice of a new document's id, given those in use. -/
structure IdSupply where
  newId : ℕ → List String → String
  fresh : ∀ n ids, newId n ids ∉ ids
  nonempty : ∀ n ids, newId n ids ≠ ""

theorem length_foldr_pos (ids : List String) : 0 < (ids.foldr (· ++ ·) "x").length := by
  induction ids with
  | nil => decide
  | cons k ids ih =>
    simp only [List.foldr_cons, String.length_append]
    omega

theorem length_lt_foldr {id : String} {ids : List String} (h : id ∈ ids) :
    id.length < (ids.foldr (· ++ ·) "x").length := by
  induction ids with
  | nil => cases h
  | cons k ids ih =>
    simp only [List.foldr_cons, String.length_append]
    have := length_foldr_pos ids
    rcases List.mem_cons.1 h with rfl | h
    · omega
    · have := ih h
      omega

def IdSupply.longer : IdSupply where
  newId _ ids := ids.foldr (· ++ ·) "x"
  fresh _ _ h := Nat.lt_irrefl _ (length_lt_foldr h)
  nonempty _ ids h := by
    have := length_foldr_pos ids
    rw [h] at this
    exact absurd this (by decide)

structure OrdersController where
  pageName : String := ""
  allOrders : List Order := []
  ordersList : List Order := []
  ordersDetailsList : List OrderLine := []
  selectedOrder : Option Order := none
  currentOrders : List Order := []
  pastOrders : List Order := []
  showCurrentOrders : Bool := false
  showPastOrders : Bool := false
  showAcceptBtn : Bool := false
  showRejectBtn : Bool := false

structure HomeController where
  currentOrders : List Order := []
  pastOrders : List Order := []
  showCurrentOrders : Bool := false
  showPastOrders : Bool := false

structure OrderDetailMapController where
  selectedOrder : Option Order := none
  selectedStatusName : String := ""
  orderId : String := ""
  showOrderStatusToggle : Bool := false
  currentStatusIndex : ℤ := 0

inductive Outcome where
  | confirmed
  | rejectedByFarmer
  | autoRejected
  deriving DecidableEq

/-- `outcomes` lists the outcomes that the page has carried out. -/
structure OrdersTimerController where
  opened : Bool := false
  orderId : String := ""
  remainingSeconds : ℕ := 5 * 60
  ticking : Bool := false
  outcomes : List Outcome := []
  deriving DecidableEq

/-- The `Product` and the list objects of the page are kept by identity, because the
    programs of the page share them; `myCartList` is the list on show. -/
structure MyCartController where
  objects : ℕ → Product := fun _ => default
  lists : ℕ → List ℕ := fun _ => []
  allocated : ℕ := 1
  myCartList : ℕ := 0
  currentDeliveryAddress : Option DeliveryAddress := none
  selectedTime : String := ""
  selectedDate : String := ""
  userName : String := ""
  orderId : String := ""
  selectedPaymentMethod : String := "ApplePay"

/-- What `updateProduct` has deducted for an order by the time its loop ends. -/
structure StockAudit where
  orderId : String
  deducted : List (String × ℤ)
  deriving DecidableEq

/-- How much of a product a customer last asked for, and whether the program that is to
    store it is still running. -/
structure Request where
  qty : ℤ := 0
  pending : Bool := false
  deriving DecidableEq

/-- `requested` and `validated` are no documents: what a customer wants of a farmer's product
    in the cart, and the stock that was read for the last validation of a cart line that
    has read one. -/
structure World where
  orders : Std.TreeMap String Order := ∅
  products : String → Option FarmProduct := fun _ => none
  carts : Uid → CartStore := fun _ => {}
  customers : Uid → Option CustomerInfo := fun _ => none
  autoIds : ℕ := 0
  now : ℕ := 0
  details : Device → OrdersController := fun _ => {}
  homes : Device → HomeController := fun _ => {}
  maps : Device × ℕ → Option OrderDetailMapController := fun _ => none
  mapsOpened : ℕ := 0
  timers : Std.TreeMap ℕ OrdersTimerController := ∅
  cartPages : Device → MyCartController := fun _ => {}
  requested : Uid → String × String → Request := fun _ _ => {}
  validated : Uid → String × String → Option ℤ := fun _ _ => none
  audits : List StockAudit := []

/-- What an observer sees of an access to the shared data, or of a decision. -/
inductive Access where
  | plain
  | acceptStatus (device : Device) (orderId status : String) (isDriver : Bool)
  | deliveryStatus (device : Device) (orderId status shownDriver : String)
  | rejectButton (device : Device) (orderId : String)
  | autoReject (page : ℕ) (orderId : String)
  | addOrder
  | setOrderID
  | updateQty (farmerId productId : String) (currentQty : ℤ)
  | polled (page : ℕ) (status : String) (isRejected : Bool)
  | zeroTick (page : ℕ)
  | nextLine (device : Device) (orderId : String) (list length index : ℕ)
  | addLine (uid : Uid) (product : Product)
  | addQty (uid : Uid) (product : Product) (id : String) (existingQty : ℤ)
  | storeLine (uid : Uid) (product : Product) (previousQty : ℤ)
  | writeBack (uid : Uid) (product : Product) (totalQty : ℤ)
  | removeLine (uid : Uid) (farmerId id : String)
  | showCart (device : Device) (products : List Product)
  | orderLine (device : Device) (list : ℕ) (onShow : List (ℕ × Product))
  | postOrder (device : Device) (order : Order)
  | validate (device : Device) (product : Product) (totalQty : ℤ)
  | checkQuantity (device : Device) (product : Product) (quantity totalQty : ℤ)
  | removeItem (device : Device) (product : Product)
  deriving DecidableEq

/-- The body of an `async` function. Its caller may be told a `bool`. -/
abbrev Program (α : Type) := EventLoop.Async World Access DartError Bool α

/-- `list[i]` and `list.last` of a status list. -/
def statusAt (list : List String) (i : ℕ) : Program String :=
  match list[i]? with
  | some status => pure status
  | none => throw .range

def statusLast (list : List String) : Program String :=
  match list.getLast? with
  | some status => pure status
  | none => throw .state

namespace World

def putOrder (w : World) (id : String) (o : Order) : World :=
  { w with orders := w.orders.insert id o }

theorem putOrder_get (w : World) (id i : String) (o : Order) :
    (w.putOrder id o).orders[i]? = if id = i then some o else w.orders[i]? := by
  simp only [putOrder, Std.TreeMap.getElem?_insert, Std.LawfulEqCmp.compare_eq_iff_eq]

def setDetails (w : World) (d : Device) (f : OrdersController → OrdersController) : World :=
  { w with details := Function.update w.details d (f (w.details d)) }

def setHome (w : World) (d : Device) (f : HomeController → HomeController) : World :=
  { w with homes := Function.update w.homes d (f (w.homes d)) }

def setMap (w : World) (page : Device × ℕ)
    (f : OrderDetailMapController → OrderDetailMapController) : World :=
  { w with maps := Function.update w.maps page ((w.maps page).map f) }

def timer (w : World) (page : ℕ) : OrdersTimerController := w.timers.getD page {}

def setTimer (w : World) (page : ℕ) (f : OrdersTimerController → OrdersTimerController) :
    World :=
  { w with timers := w.timers.insert page (f (w.timer page)) }

theorem timer_setTimer (w : World) (page p : ℕ)
    (f : OrdersTimerController → OrdersTimerController) :
    (w.setTimer page f).timer p = if page = p then f (w.timer page) else w.timer p := by
  simp only [setTimer, timer, Std.TreeMap.getD_insert, Std.LawfulEqCmp.compare_eq_iff_eq]

def setCartPage (w : World) (d : Device) (f : MyCartController → MyCartController) : World :=
  { w with cartPages := Function.update w.cartPages d (f (w.cartPages d)) }

@[simp] theorem setCartPage_self (w : World) (d : Device)
    (f : MyCartController → MyCartController) :
    (w.setCartPage d f).cartPages d = f (w.cartPages d) := Function.update_self ..

def setRequest (w : World) (uid : Uid) (product : Product) (f : Request → Request) : World :=
  { w with
    requested := Function.update w.requested uid
      (Function.update (w.requested uid) (product.farmerId, product.prodId)
        (f (w.requested uid (product.farmerId, product.prodId)))) }

/-- The customer wants `f` of what was wanted of a product. -/
def request (w : World) (uid : Uid) (product : Product) (f : ℤ → ℤ) : World :=
  w.setRequest uid product fun r => ⟨f r.qty, true⟩

def requestOver (w : World) (uid : Uid) (product : Product) : World :=
  w.setRequest uid product fun r => { r with pending := false }

def recordValidation (w : World) (uid : Uid) (farmerId id : String) (stock : Option ℤ) : World :=
  { w with
    validated := Function.update w.validated uid
      (Function.update (w.validated uid) (farmerId, id) stock) }

def setCart (w : World) (uid : Uid) (f : CartStore → CartStore) : World :=
  { w with carts := Function.update w.carts uid (f (w.carts uid)) }

@[simp] theorem setCart_self (w : World) (uid : Uid) (f : CartStore → CartStore) :
    (w.setCart uid f).carts uid = f (w.carts uid) := Function.update_self ..

end World

end Gherass
