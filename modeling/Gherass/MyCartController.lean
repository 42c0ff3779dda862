import Gherass.FirebaseHelper

set_option autoImplicit false

/-!
# The cart page

`MyCartController`. The list on show and the products on it are objects: a program
that waits goes on with the object it had, whatever the page shows by then.
-/
namespace Gherass

namespace MyCartController

def contents (c : MyCartController) (list : ℕ) : List Product := (c.lists list).map c.objects

def shown (c : MyCartController) : List Product := c.contents c.myCartList

def onShow (c : MyCartController) : List (ℕ × Product) :=
  (c.lists c.myCartList).map fun i => (i, c.objects i)

def setList (c : MyCartController) (f : List ℕ → List ℕ) : MyCartController :=
  { c with lists := Function.update c.lists c.myCartList (f (c.lists c.myCartList)) }

def setQty (c : MyCartController) (object : ℕ) (qty : ℤ) : MyCartController :=
  { c with objects := Function.update c.objects object { c.objects object with qty := qty } }

/-- `myCartList.add` of a new object -/
def addObject (c : MyCartController) (product : Product) : MyCartController :=
  { c.setList (· ++ [c.allocated]) with
    objects := Function.update c.objects c.allocated product
    allocated := c.allocated + 1 }

/-- `myCartList.value = products`: new objects in a new list object -/
def replaceList (c : MyCartController) (products : List Product) : MyCartController :=
  let refs := (List.range products.length).map (c.allocated + ·)
  { c with
    objects := fun i =>
      if c.allocated ≤ i then products.getD (i - c.allocated) (c.objects i) else c.objects i
    lists := Function.update c.lists (c.allocated + products.length) refs
    myCartList := c.allocated + products.length
    allocated := c.allocated + products.length + 1 }

def removeWhere (c : MyCartController) (id : String) : MyCartController :=
  c.setList fun list => list.filter fun i => (c.objects i).id ≠ id

def deliveryCharge : ℚ := 15

def totalPrice (c : MyCartController) : ℚ :=
  c.shown.foldl (fun total product => total + product.price * product.qty) 0

def splitProducts (response : List Product) : List Product × List Product :=
  response.foldl (fun acc p =>
    if acc.1.any fun q => q.prodId = p.prodId then (acc.1, acc.2 ++ [p])
    else (acc.1 ++ [p], acc.2)) ([], [])

open EventLoop.Async

variable (flow : StatusLists) (ids : IdSupply) (d : Device)

def page : Program MyCartController := look fun w => w.cartPages d

def setPage (f : MyCartController → MyCartController) : Program Unit :=
  change fun w => w.setCartPage d f

def fetchTotalQty (product : Product) : Program ℤ :=
  FirebaseHelper.getProductTotalQty product.farmerId product.prodId

def getCustomerDeliveryAddress : Program Unit := do
  try
    let data ← FirebaseHelper.getCurrentUserInfoById d.uid
    let userDetails ← FirebaseHelper.getCurrentUserInfoById d.uid
    match userDetails with
    | some details =>
      setPage d fun c => { c with userName := details.username }
      match data.bind fun info => info.currentAddress.map fun address => (info, address) with
      | some (info, address) =>
        setPage d fun c =>
          { c with
            currentDeliveryAddress := some ⟨address, info.email, info.phoneNumber⟩ }
      | none => throw .type
    | none => throw .type
  catch _ => pure ()

def validateQuantity (object : ℕ) : Program Unit := do
  let product := (← page d).objects object
  let totalQty ← fetchTotalQty product
  note (.validate d ((← page d).objects object) totalQty)
  setPage d fun c =>
    if (c.objects object).qty > totalQty then c.setQty object totalQty else c
  let product := (← page d).objects object
  FirebaseHelper.updateProductInCart (.writeBack d.uid product totalQty) d.uid [product]

def validateEach : List ℕ → Program Unit
  | [] => pure ()
  | object :: rest => do
    spawn (validateQuantity d object)
    validateEach rest

def removeEach : List Product → Program Unit
  | [] => pure ()
  | product :: rest => do
    FirebaseHelper.removeFromCart d.uid product.farmerId product.id
    removeEach rest

def getCartProducts (farmerId : String) : Program Unit := do
  setPage d fun c => c.setList fun _ => []
  try
    let response ← FirebaseHelper.fetchCustomerCartProducts d.uid farmerId
    note (.showCart d (splitProducts response).1)
    setPage d fun c => c.replaceList (splitProducts response).1
    let c ← page d
    validateEach d (c.lists c.myCartList)
    removeEach d (splitProducts response).2
    setPage d fun c => { c with selectedDate := "", selectedTime := "" }
    spawn (getCustomerDeliveryAddress d)
  catch _ => pure ()

/-- The object had the quantity `previousQty` before the change that is to be stored. -/
def updateProductInCart (object : ℕ) (previousQty : ℤ) : Program Unit := do
  try
    let product := (← page d).objects object
    spawn (getCartProducts d product.farmerId)
    let product := (← page d).objects object
    FirebaseHelper.updateProductInCart (.storeLine d.uid product previousQty) d.uid [product]
  catch _ => pure ()

def addToCart (product : Product) : Program Unit := do
  try
    let c ← page d
    let existing := (c.lists c.myCartList).find? fun i =>
      (c.objects i).prodId = product.prodId ∧ (c.objects i).farmerId = product.farmerId
    match existing.filter fun i => (c.objects i).id ≠ "" with
    | none =>
      setPage d fun c => c.addObject product
      FirebaseHelper.addProductsToCart ids d.uid [product]
    | some object =>
      setPage d fun c => c.setQty object ((c.objects object).qty + product.qty)
      updateProductInCart d object (c.objects object).qty
    spawn (getCartProducts d product.farmerId)
  catch _ => pure ()

def removeFromCart (product : Product) : Program Unit := do
  try
    note (.removeItem d product)
    let c ← page d
    match c.shown.find? fun item => item.id = product.id with
    | some item =>
      setPage d fun c => c.removeWhere product.id
      FirebaseHelper.removeFromCart d.uid item.farmerId item.id
      FirebaseHelper.removeFromCart d.uid item.farmerId item.id
      setPage d fun c => c.removeWhere product.id
    | none => throw .state
  catch _ => pure ()

def updateQuantity (product : Product) (quantity : ℤ) : Program Unit := do
  try
    let c ← page d
    match (c.lists c.myCartList).find? fun i => (c.objects i).id = product.id with
    | some item =>
      let totalQty ← fetchTotalQty product
      note (.checkQuantity d product quantity totalQty)
      if quantity > totalQty then pure ()
      else
        if quantity > 0 then
          let previousQty := ((← page d).objects item).qty
          setPage d fun c => c.setQty item quantity
          updateProductInCart d item previousQty
        else
          let c ← page d
          spawn (removeFromCart d (c.objects item))
        let c ← page d
        spawn (getCartProducts d (c.objects item).farmerId)
    | none => throw .state
  catch _ => pure ()

/-- The loop over the lines: it goes on with the list object it began with, and stops
    with an exception when that list has changed its length. `onShow` is what was on show
    when it began. -/
def orderLines (onShow : List (ℕ × Product)) (list length : ℕ) :
    ℕ → ℕ → List OrderLine → Program (List OrderLine)
  | _, 0, lines => do
    let c ← page d
    if (c.lists list).length ≠ length then throw .concurrentModification else pure lines
  | index, todo + 1, lines => do
    let c ← page d
    if (c.lists list).length ≠ length then throw .concurrentModification
    else
      let object := (c.lists list).getD index 0
      let totalQty ← fetchTotalQty (c.objects object)
      note (.orderLine d list onShow)
      let prod := (← page d).objects object
      orderLines onShow list length (index + 1) todo (lines ++
        [{ name := prod.name
           price := prod.price
           productId := prod.prodId
           qty := prod.qty
           totalQty := totalQty }])

def postOrder (c : MyCartController) (first : Product) (now : ℕ) (status : String)
    (orderProductsList : List OrderLine) : Order where
  customerName := c.userName
  deliveryAddress := c.currentDeliveryAddress.getD {}
  date := now
  deliveryDate := c.selectedDate
  customerId := d.uid
  driverId := ""
  farmerId := first.farmerId
  farmerName := first.farmerName
  isRejected := false
  orderDetails := orderProductsList
  paymentMethod := c.selectedPaymentMethod
  orderID := some ""
  status := status
  time := c.selectedTime
  totalAmount := c.totalPrice + deliveryCharge

def formComplete (c : MyCartController) : Bool :=
  c.shown ≠ [] ∧ c.selectedDate ≠ "" ∧ c.currentDeliveryAddress.isSome ∧ c.selectedTime ≠ ""

def postOrderComplete : Program Bool := do
  try
    let c ← page d
    if c.formComplete then
      let orderProductsList ← orderLines d c.onShow c.myCartList
        (c.lists c.myCartList).length 0 (c.lists c.myCartList).length []
      let status ← statusAt flow.farmer 0
      let now ← look fun w => w.now
      let c ← page d
      match c.shown with
      | first :: _ =>
        let order := postOrder d c first now status orderProductsList
        note (.postOrder d order)
        let orderId ← FirebaseHelper.placeOrder ids order
        setPage d fun c => { c with orderId := orderId }
        let c ← page d
        -- The farmer's notification needs `myCartList.first` once more.
        if c.shown = [] then throw .state else pure true
      | [] => throw .state
    else pure false
  catch _ => pure false

def recordAudit (orderId : String) (deducted : List (String × ℤ)) : Program Unit :=
  change fun w => { w with audits := w.audits ++ [⟨orderId, deducted⟩] }

/-- The loop of `updateProduct`, with what it has deducted so far. -/
def updateLines (orderId : String) (list length : ℕ) :
    ℕ → ℕ → List (String × ℤ) → Program Unit
  | index, 0, deducted => do
    note (.nextLine d orderId list length index)
    recordAudit orderId deducted
  | index, todo + 1, deducted => do
    note (.nextLine d orderId list length index)
    let c ← page d
    if (c.lists list).length ≠ length then recordAudit orderId deducted
    else
      let prod := c.objects ((c.lists list).getD index 0)
      FirebaseHelper.updateProductQty prod.farmerId prod.prodId prod.qty
      updateLines orderId list length (index + 1) todo (deducted ++ [(prod.prodId, prod.qty)])

def updateProduct : Program Unit := do
  let c ← page d
  let length := (c.lists c.myCartList).length
  updateLines d c.orderId c.myCartList length 0 length []

def delay : Program Unit := do
  try
    call .plain (fun w => (w, .ok ())) .state
  catch _ => pure ()

def placeOrder : Program Unit := do
  let isOrdered ← postOrderComplete flow ids d
  if isOrdered then
    spawn (updateProduct d)
    FirebaseHelper.cartDelete d.uid
    setPage d fun c => { c with selectedDate := "", selectedTime := "" }
    delay
    setPage d fun c => c.setList fun _ => []

end MyCartController

end Gherass
