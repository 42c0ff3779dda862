import Gherass.OrdersController

set_option autoImplicit false

/-!
# The customer's countdown page

Every second the page either polls the order or, when its five minutes are over,
rejects it. The ticker waits for neither.
-/
namespace Gherass.OrdersTimerController

open EventLoop.Async FirebaseHelper

variable (flow : StatusLists) (page : ℕ)

def setTimer (f : OrdersTimerController → OrdersTimerController) : Program Unit :=
  change fun w => w.setTimer page f

def conclude (outcome : Outcome) (c : OrdersTimerController) : OrdersTimerController :=
  { c with ticking := false, outcomes := c.outcomes ++ [outcome] }

/-- `onInit` and `startTimer` -/
def openTimer (orderId : String) : Program Unit :=
  setTimer page fun c =>
    if c.opened then c
    else { c with opened := true, orderId := orderId, ticking := orderId ≠ "" }

def checkOrderStatus : Program Unit := do
  try
    let orderId ← look fun w => (w.timer page).orderId
    let orderStatus ← getOrderStatusByid orderId
    let isOrderRejected ← getOrderIsRejectByid orderId
    let accepted ← statusAt flow.farmer 1
    note (.polled page orderStatus isOrderRejected)
    if accepted = orderStatus then setTimer page (conclude .confirmed)
    else if isOrderRejected then setTimer page (conclude .rejectedByFarmer)
  catch _ => pure ()

def autoRejectOrder : Program Unit := do
  let orderId ← look fun w => (w.timer page).orderId
  rejectOrder (.autoReject page orderId) orderId

def tick : Program Unit := do
  let c ← look fun w => w.timer page
  if c.ticking then
    if c.remainingSeconds = 0 then
      note (.zeroTick page)
      setTimer page (conclude .autoRejected)
      spawn (autoRejectOrder page)
    else
      setTimer page fun c => { c with remainingSeconds := c.remainingSeconds - 1 }
      spawn (checkOrderStatus flow page)

/-- `onClose` -/
def closeTimer : Program Unit := setTimer page fun c => { c with ticking := false }

end Gherass.OrdersTimerController
