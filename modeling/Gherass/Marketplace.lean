import Gherass.AddProdController
import Gherass.EventLoopPrograms
import Gherass.MyCartController
import Gherass.OrdersTimerController

set_option autoImplicit false

/-!
# The market as one system

Every device's events start programs over the same database; the event loop lets
their awaited calls take effect in any order.
-/
namespace Gherass

open EventLoop

inductive Event where
  | openOrders (d : Device)
  | selectOrder (d : Device) (history : Bool) (index : ℕ)
  | openNotification (d : Device) (orderId : String)
  | leaveDetails (d : Device)
  | pressAccept (d : Device)
  | pressReject (d : Device)
  | openHome (d : Device)
  | openHomeOrder (d : Device) (past : Bool) (index : ℕ)
  | toggleSteps (d : Device) (page : ℕ)
  | tapStatus (d : Device) (page index : ℕ)
  | openTimer (page : ℕ) (orderId : String)
  | tick (page : ℕ)
  | closeTimer (page : ℕ)
  | openCart (d : Device) (farmerId : String)
  | addToCart (d : Device) (product : Product)
  | updateQuantity (d : Device) (product : Product) (quantity : ℤ)
  | pickDate (d : Device) (date : String)
  | pickTime (d : Device) (time : String)
  | pickPayment (d : Device) (paymentMethod : String)
  | placeOrder (d : Device)
  | editProduct (d : Device) (form : ProductForm)
  | deleteProduct (d : Device) (productId : String)
  | clock (now : ℕ)

open Async in
def program (flow : StatusLists) (ids : IdSupply) : Event → Program Unit
  | .openOrders d => OrdersController.getOrders flow d
  | .selectOrder d history index => OrdersController.selectOrder flow d history index
  | .openNotification d orderId => OrdersController.openNotification flow d orderId
  | .leaveDetails d => OrdersController.leaveDetails d
  | .pressAccept d => OrdersController.pressAccept flow d
  | .pressReject d => OrdersController.pressReject flow d
  | .openHome d => OrdersController.fetchHomeOrders d
  | .openHomeOrder d past index => OrdersController.openHomeOrder flow d past index
  | .toggleSteps d page => OrdersController.toggleSteps d page
  | .tapStatus d page index => OrdersController.tapStatus flow d page index
  | .openTimer page orderId => OrdersTimerController.openTimer page orderId
  | .tick page => OrdersTimerController.tick flow page
  | .closeTimer page => OrdersTimerController.closeTimer page
  | .openCart d farmerId => MyCartController.getCartProducts d farmerId
  | .addToCart d product => do
    change fun w => w.request d.uid product (· + product.qty)
    MyCartController.addToCart ids d product
    change fun w => w.requestOver d.uid product
  | .updateQuantity d product quantity => do
    change fun w => w.request d.uid product fun _ => max quantity 0
    MyCartController.updateQuantity d product quantity
    change fun w => w.requestOver d.uid product
  | .pickDate d date => MyCartController.setPage d fun c => { c with selectedDate := date }
  | .pickTime d time => MyCartController.setPage d fun c => { c with selectedTime := time }
  | .pickPayment d paymentMethod =>
    MyCartController.setPage d fun c => { c with selectedPaymentMethod := paymentMethod }
  | .placeOrder d => MyCartController.placeOrder flow ids d
  | .editProduct d form => AddProdController.updateProduct d form
  | .deleteProduct d productId => AddProdController.deleteProduct d productId
  | .clock now => change fun w => { w with now := now }

def handler (flow : StatusLists) (ids : IdSupply) (e : Event) : Task World Access Bool :=
  (program flow ids e).task

abbrev Market := Pool World Access Bool

def smallFlow : StatusFlow where
  farmer := ["Order Placed", "Order Accepted"]
  driver := ["Picked Up", "Successfully Delivered"]
  farmer_ne := by decide
  driver_ne := by decide
  nodup := by decide

def aFarmer : Device := ⟨⟨"farmer", by decide⟩, .farmer, 0⟩

def aDriver : Device := ⟨⟨"driver", by decide⟩, .driver, 0⟩

def anotherDriver : Device := ⟨⟨"other driver", by decide⟩, .driver, 0⟩

def aCustomer : Device := ⟨⟨"customer", by decide⟩, .customer, 0⟩

def anotherCustomer : Device := ⟨⟨"other customer", by decide⟩, .customer, 0⟩

def smallHandler : Event → Task World Access Bool :=
  handler smallFlow.toStatusLists IdSupply.longer

def orderMarket (o : Order) : Market :=
  ⟨{ orders := (∅ : Std.TreeMap String Order).insert "1" { o with orderID := some "1" } }, []⟩

def someDates : FarmProduct := { farmerId := "farmer", qty := some 10 }

def datesMarket : World where
  products id := if id = "dates" then some someDates else none
  customers _ := some { currentAddress := some {} }

def twoFarmsMarket : World :=
  { datesMarket with
    products := fun id =>
      if id = "dates" then some someDates
      else if id = "honey" then some { farmerId := "other farmer", qty := some 10 }
      else none }

def someHoney : Product :=
  { farmerId := "other farmer", prodId := "honey", name := "Honey", price := 20, qty := 2 }

def datesPage (qty : ℤ) : MyCartController where
  objects _ := { id := "1", farmerId := "farmer", prodId := "dates", name := "Dates", price := 4,
                 qty := qty }
  lists _ := [0]
  currentDeliveryAddress := some {}
  selectedTime := "10:00"
  selectedDate := "2025-05-01"

def datesCart : World :=
  { datesMarket with
    cartPages := fun _ => datesPage 3
    carts := fun _ =>
      { docs := (∅ : Std.TreeSet String).insert "farmer"
        products := fun farmerId =>
          if farmerId = "farmer" then
            (∅ : Std.TreeMap String Product).insert "1" ((datesPage 3).objects 0)
          else ∅ } }

/-- A customer puts dates into the cart and picks a date and a time. -/
def fillCart (d : Device) (qty : ℤ) : List Event :=
  [.addToCart d { farmerId := "farmer", prodId := "dates", name := "Dates", price := 4, qty := qty },
    .pickDate d "2025-05-01", .pickTime d "10:00"]

/-- Events one after another, whose calls all go through. -/
def undisturbed (events : List Event) : List (Event × (Access → Bool)) :=
  events.map fun e => (e, fun _ => true)

end Gherass
