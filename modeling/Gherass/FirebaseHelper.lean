import Gherass.MarketData

set_option autoImplicit false

/-!
# The database helper

`FirebaseHelper` of `firebase_helper.dart`. Nothing is thrown out of these functions:
each answers a failed call with its own default.
-/
namespace Gherass.FirebaseHelper

open EventLoop.Async

/-- `doc(id)` refuses the empty path. -/
def checkPath (id : String) : Program Unit :=
  if id = "" then throw .argument else pure ()

def get {α : Type} (f : World → α) : Program α :=
  call .plain (fun w => (w, .ok (f w))) .firestore

/-- The server's part of `update` on a document of `order`. -/
def updateOrder (id : String) (f : Order → Order) (w : World) : World × Except DartError Unit :=
  match w.orders[id]? with
  | some o => (w.putOrder id (f o), .ok ())
  | none => (w, .error .firestore)

theorem updateOrder_stored {w : World} {id : String} {o : Order} (h : w.orders[id]? = some o)
    (f : Order → Order) : updateOrder id f w = (w.putOrder id (f o), .ok ()) := by
  rw [updateOrder, h]

/-- The server's part of `update` on a product of a farmer. -/
def updateFarmProduct (farmerId productId : String) (f : FarmProduct → FarmProduct)
    (w : World) : World × Except DartError Unit :=
  match w.products productId with
  | some p =>
    if p.farmerId = farmerId then
      ({ w with products := Function.update w.products productId (some (f p)) }, .ok ())
    else (w, .error .firestore)
  | none => (w, .error .firestore)

def farmProduct (farmerId productId : String) (w : World) : Option FarmProduct :=
  (w.products productId).filter fun p => p.farmerId = farmerId

/-- The server's part of `delete` on a product of a farmer. -/
def deleteProductDoc (farmerId productId : String) (w : World) : World × Except DartError Unit :=
  match w.products productId with
  | some p =>
    if p.farmerId = farmerId then
      ({ w with products := Function.update w.products productId none }, .ok ())
    else (w, .ok ())
  | none => (w, .ok ())

theorem updateFarmProduct_frame (farmerId productId : String) (f : FarmProduct → FarmProduct)
    (w : World) :
    ∃ products, (updateFarmProduct farmerId productId f w).1 = { w with products := products } := by
  unfold updateFarmProduct
  split
  · split
    · exact ⟨_, rfl⟩
    · exact ⟨_, rfl⟩
  · exact ⟨_, rfl⟩

theorem deleteProductDoc_frame (farmerId productId : String) (w : World) :
    ∃ products, (deleteProductDoc farmerId productId w).1 = { w with products := products } := by
  unfold deleteProductDoc
  split
  · split
    · exact ⟨_, rfl⟩
    · exact ⟨_, rfl⟩
  · exact ⟨_, rfl⟩

inductive OrderField where
  | driverId
  | farmerId
  deriving DecidableEq

def OrderField.read : OrderField → Order → String
  | .driverId, o => o.driverId
  | .farmerId, o => o.farmerId

def queryOrders (fieldName : OrderField) (userId : String) (w : World) : List Order :=
  ((w.orders.toList.map (·.2)).filter fun o => fieldName.read o = userId).insertionSort
    fun a b => b.date ≤ a.date

def fetchOrders (fieldName : OrderField) (userId : String) : Program (Option (List Order)) := do
  try
    let docs ← get (queryOrders fieldName userId)
    if docs ≠ [] then pure (some docs) else pure none
  catch _ => pure none

def fetchOrdersWithDriverId (driverId : String) : Program (Option (List Order)) := do
  try
    let docs ← get (queryOrders .driverId driverId)
    if docs ≠ [] then pure (some docs) else pure none
  catch _ => pure none

def fetchOrderDetailsById (orderId : String) : Program (Option Order) := do
  try
    checkPath orderId
    get fun w => w.orders[orderId]?
  catch _ => pure none

/-- `none` stands for the empty map. -/
def getOrderById (orderId : String) : Program (Option Order) := do
  try
    checkPath orderId
    get fun w => w.orders[orderId]?
  catch _ => pure none

def getOrderStatusByid (orderId : String) : Program String := do
  try
    checkPath orderId
    match ← get fun w => w.orders[orderId]? with
    | some order => pure order.status
    | none => throw .state
  catch _ => pure ""

def getOrderIsRejectByid (orderId : String) : Program Bool := do
  try
    checkPath orderId
    match ← get fun w => w.orders[orderId]? with
    | some order => pure order.isRejected
    | none => throw .state
  catch _ => pure false

def updateOrderStatus (seen : Access) (uid : Uid) (orderId status : String) (isDriver : Bool) :
    Program Unit := do
  try
    checkPath orderId
    if isDriver then
      call seen (updateOrder orderId fun o => { o with status := status, driverId := uid })
        .firestore
    else
      call seen (updateOrder orderId fun o => { o with status := status }) .firestore
  catch _ => pure ()

def rejectOrder (seen : Access) (orderId : String) : Program Unit := do
  try
    checkPath orderId
    call seen (updateOrder orderId fun o => { o with isRejected := true }) .firestore
  catch _ => pure ()

def addOrder (ids : IdSupply) (orderData : Order) (w : World) : World × Except DartError String :=
  let id := ids.newId w.autoIds w.orders.keys
  ({ w.putOrder id orderData with autoIds := w.autoIds + 1 }, .ok id)

theorem newId_free (ids : IdSupply) (w : World) :
    w.orders[ids.newId w.autoIds w.orders.keys]? = none := by
  refine Std.TreeMap.getElem?_eq_none fun h => ?_
  exact ids.fresh _ _ (Std.TreeMap.mem_keys.2 h)

def placeOrder (ids : IdSupply) (orderData : Order) : Program String := do
  try
    let docRef ← call .addOrder (addOrder ids { orderData with orderID := none }) .firestore
    call .setOrderID (updateOrder docRef fun o => { o with orderID := some docRef }) .firestore
    pure docRef
  catch _ => pure ""

def updateProductQty (farmerId productId : String) (orderedQty : ℤ) : Program Unit := do
  try
    checkPath farmerId
    checkPath productId
    match ← get (farmProduct farmerId productId) with
    | some product =>
      let currentQty := product.qty.getD 0
      let updatedQty := if currentQty - orderedQty < 0 then 0 else currentQty - orderedQty
      call (.updateQty farmerId productId currentQty)
        (updateFarmProduct farmerId productId fun p =>
          { p with
            qty := some updatedQty
            isHidden := if updatedQty = 0 then true else p.isHidden })
        .firestore
    | none => pure ()
  catch _ => pure ()

def getProductTotalQty (farmerId productId : String) : Program ℤ := do
  try
    checkPath farmerId
    checkPath productId
    match ← get (farmProduct farmerId productId) with
    | some product => pure (product.qty.getD 0)
    | none => pure (-1)
  catch _ => pure (-1)

def updateProductToFarmer (uid : Uid) (productId : String) (qty : ℤ) (isHidden : Bool) :
    Program Unit := do
  try
    checkPath productId
    call .plain (updateFarmProduct uid productId fun p =>
      { p with qty := some qty, isHidden := isHidden }) .firestore
  catch _ => pure ()

/-- The server's part of `add` on a farmer's products; `id` is the auto id of the document. -/
def addProductDoc (uid : Uid) (id : String) (qty : ℤ) (w : World) :
    World × Except DartError String :=
  let product : FarmProduct := { farmerId := uid, qty := some qty }
  ({ w with products := Function.update w.products id (some product) }, .ok id)

/-- The update that follows the `add` sets a field that is not kept. -/
def addProductToFarmer (uid : Uid) (id : String) (qty : ℤ) : Program Unit := do
  try
    let docRef ← call .plain (addProductDoc uid id qty) .firestore
    call .plain (updateFarmProduct uid docRef fun p => p) .firestore
  catch _ => pure ()

def deleteFarmProduct (uid : Uid) (productId : String) : Program Unit := do
  try
    checkPath productId
    call .plain (deleteProductDoc uid productId) .firestore
  catch _ => pure ()

def getCurrentUserInfoById (uid : Uid) : Program (Option CustomerInfo) := do
  try
    get fun w => w.customers uid
  catch _ => pure none

/-- The server's part of `set` with merge on a farmer's cart document. -/
def setCartDoc (uid : Uid) (farmerId : String) (w : World) : World × Except DartError Unit :=
  (w.setCart uid fun c => { c with docs := c.docs.insert farmerId }, .ok ())

def setCartProduct (uid : Uid) (farmerId id : String) (product : Product) (w : World) : World :=
  w.setCart uid fun c =>
    { c with products :=
        Function.update c.products farmerId ((c.products farmerId).insert id product) }

/-- The server's part of `add` on a `products` subcollection of a cart. -/
def addCartProduct (ids : IdSupply) (uid : Uid) (farmerId : String) (product : Product)
    (w : World) : World × Except DartError String :=
  let id := ids.newId w.autoIds ((w.carts uid).products farmerId).keys
  ({ setCartProduct uid farmerId id product w with autoIds := w.autoIds + 1 }, .ok id)

/-- The server's part of `update` on a product of a cart. -/
def updateCartProduct (uid : Uid) (farmerId id : String) (f : Product → Product) (w : World) :
    World × Except DartError Unit :=
  match ((w.carts uid).products farmerId)[id]? with
  | some product => (setCartProduct uid farmerId id (f product) w, .ok ())
  | none => (w, .error .firestore)

def addProductToCart (ids : IdSupply) (uid : Uid) (productMap : Product) : Program Unit :=
  if productMap.farmerId = "" then pure ()
  else do
    call .plain (setCartDoc uid productMap.farmerId) .firestore
    let existing ← get fun w =>
      ((w.carts uid).products productMap.farmerId).toList.filter fun doc =>
        doc.2.prodId = productMap.prodId
    match existing with
    | [] =>
      let docRef ← call (.addLine uid productMap)
        (addCartProduct ids uid productMap.farmerId productMap) .firestore
      call .plain (updateCartProduct uid productMap.farmerId docRef fun p =>
        { p with id := docRef }) .firestore
    | doc :: _ =>
      let newQty := doc.2.qty + productMap.qty
      call (.addQty uid productMap doc.1 doc.2.qty)
        (updateCartProduct uid productMap.farmerId doc.1 fun p => { p with qty := newQty })
        .firestore

def addEach (ids : IdSupply) (uid : Uid) : List Product → Program Unit
  | [] => pure ()
  | productMap :: rest => do
    addProductToCart ids uid productMap
    addEach ids uid rest

def addProductsToCart (ids : IdSupply) (uid : Uid) (productList : List Product) :
    Program Unit := do
  try
    addEach ids uid productList
  catch _ => pure ()

/-- The lines that go into the batch of `updateProductInCart`. -/
def batchLines (productList : List Product) : List Product :=
  productList.filter fun p => p.farmerId ≠ ""

/-- The server's part of `set` on a product of a cart; `seen` says what the write is for. -/
def storeCartProduct (seen : Access) (uid : Uid) (product : Product) (w : World) : World :=
  match seen with
  | .writeBack _ _ totalQty =>
    if 0 ≤ totalQty then
      (setCartProduct uid product.farmerId product.id product w).recordValidation uid
        product.farmerId product.id (some totalQty)
    else setCartProduct uid product.farmerId product.id product w
  | _ => setCartProduct uid product.farmerId product.id product w

def updateProductInCart (seen : Access) (uid : Uid) (productList : List Product) :
    Program Unit := do
  try
    if (batchLines productList).any fun p => p.id = "" then throw .argument
    else
      call seen (fun w =>
        ((batchLines productList).foldl (fun v p => storeCartProduct seen uid p v) w, .ok ()))
        .firestore
  catch _ => pure ()

def firstNonempty (uid : Uid) : List String → Program (Option String)
  | [] => pure none
  | farmerId :: rest => do
    let docs ← get fun w => ((w.carts uid).products farmerId).toList
    if docs ≠ [] then pure (some farmerId) else firstNonempty uid rest

def fetchInitialCart (uid : Uid) : Program (Option String) := do
  try
    let docs ← get fun w => (w.carts uid).docs.toList
    if docs = [] then pure none else firstNonempty uid docs
  catch _ => pure none

/-- The farmer id it is given is overwritten. Without a farmer it asks for a document
    with a new auto id, below which there is nothing. -/
def fetchCustomerCartProducts (uid : Uid) (_farmerId : String) : Program (List Product) := do
  try
    let farmerId ← fetchInitialCart uid
    match farmerId with
    | some farmerId => get fun w => ((w.carts uid).products farmerId).toList.map (·.2)
    | none => get fun _ => []
  catch _ => pure []

/-- The server's part of `delete` on a product of a cart. -/
def deleteCartProduct (uid : Uid) (farmerId id : String) (w : World) :
    World × Except DartError Unit :=
  let deleted := w.setCart uid fun c =>
    { c with products := Function.update c.products farmerId ((c.products farmerId).erase id) }
  (deleted.recordValidation uid farmerId id none, .ok ())

def removeFromCart (uid : Uid) (farmerId productId : String) : Program Unit := do
  try
    checkPath farmerId
    checkPath productId
    call (.removeLine uid farmerId productId) (deleteCartProduct uid farmerId productId) .firestore
  catch _ => pure ()

/-- The batch deletes the farmers' documents it was shown, not what lies below them. -/
def cartDelete (uid : Uid) : Program Unit := do
  try
    let docs ← get fun w => (w.carts uid).docs.toList
    call .plain (fun w => (w.setCart uid fun c => { c with docs := docs.foldl (·.erase ·) c.docs },
      .ok ())) .firestore
  catch _ => pure ()

end Gherass.FirebaseHelper
