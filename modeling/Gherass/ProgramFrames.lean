import Gherass.Marketplace

set_option autoImplicit false

/-!
# What the programs leave alone

A program is quiet for a contract as soon as the few kinds of effect it is made of
keep that contract.
-/
namespace Gherass

open EventLoop EventLoop.Async FirebaseHelper

variable {C : Contract World Access}

/-- The order whose document a write seen as `l` changes. -/
def Access.target : Access → Option String
  | .acceptStatus _ id _ _ => some id
  | .deliveryStatus _ id _ _ => some id
  | .rejectButton _ id => some id
  | .autoReject _ id => some id
  | _ => none

def Access.apply : Access → Order → Order
  | .acceptStatus d _ status isDriver, o =>
    if isDriver then { o with status := status, driverId := d.uid } else { o with status := status }
  | .deliveryStatus d _ status _, o => { o with status := status, driverId := d.uid }
  | .rejectButton _ _, o => { o with isRejected := true }
  | .autoReject _ _, o => { o with isRejected := true }
  | _, o => o

def Access.isPost : Access → Bool
  | .postOrder _ _ => true
  | _ => false

section Paths

variable {ok : Access → Bool} {w : World}

theorem yields_checkPath {id : String} (h : id ≠ "") : Yields ok (checkPath id) w (.ok ()) w := by
  rw [checkPath, if_neg h]
  exact .pure ()

theorem yields_checkPath_empty : Yields ok (checkPath "") w (.error .argument) w := by
  rw [checkPath, if_pos rfl]
  exact .throw _

end Paths

section Reads

variable (plain : ∀ s, C.inv s → C.shows .plain s)

theorem quiet_checkPath (id : String) : Quiet C (checkPath id) := by
  unfold checkPath
  split
  · exact .throw _
  · exact .pure _

theorem quiet_statusAt (list : List String) (i : ℕ) : Quiet C (statusAt list i) := by
  unfold statusAt
  split
  · exact .pure _
  · exact .throw _

theorem quiet_bind_statusAt {α : Type} {list : List String} {i : ℕ}
    {f : String → Program α} (h : ∀ status, list[i]? = some status → Quiet C (f status)) :
    Quiet C (statusAt list i >>= f) := by
  unfold statusAt
  split
  · rename_i status hstatus
    exact h status hstatus
  · exact (Quiet.throw DartError.range : Quiet C (throw DartError.range : Program α))

theorem quiet_statusLast (list : List String) : Quiet C (statusLast list) := by
  unfold statusLast
  split
  · exact .pure _
  · exact .throw _

include plain

theorem quiet_get {α : Type} (f : World → α) : Quiet C (get f) :=
  .call C.keeps_id plain

theorem quiet_fetchOrders (fieldName : OrderField) (uid : String) :
    Quiet C (fetchOrders fieldName uid) :=
  .tryCatch (.bind (quiet_get plain _) fun _ => by split <;> exact .pure _) fun _ => .pure _

theorem quiet_fetchOrdersWithDriverId (uid : String) :
    Quiet C (fetchOrdersWithDriverId uid) :=
  .tryCatch (.bind (quiet_get plain _) fun _ => by split <;> exact .pure _) fun _ => .pure _

theorem quiet_fetchOrderDetailsById (id : String) : Quiet C (fetchOrderDetailsById id) :=
  .tryCatch (.bind (quiet_checkPath id) fun _ => quiet_get plain _) fun _ => .pure _

theorem quiet_getOrderById (id : String) : Quiet C (getOrderById id) :=
  .tryCatch (.bind (quiet_checkPath id) fun _ => quiet_get plain _) fun _ => .pure _

theorem quiet_getOrderStatusByid (id : String) : Quiet C (getOrderStatusByid id) := by
  refine .tryCatch (.bind (quiet_checkPath id) fun _ => .bind (quiet_get plain _) fun r => ?_)
    fun _ => .pure _
  cases r with
  | some o => exact .pure _
  | none => exact .throw _

theorem quiet_getOrderIsRejectByid (id : String) : Quiet C (getOrderIsRejectByid id) := by
  refine .tryCatch (.bind (quiet_checkPath id) fun _ => .bind (quiet_get plain _) fun r => ?_)
    fun _ => .pure _
  cases r with
  | some o => exact .pure _
  | none => exact .throw _

theorem quiet_getProductTotalQty (farmerId productId : String) :
    Quiet C (getProductTotalQty farmerId productId) := by
  refine .tryCatch (.bind (quiet_checkPath _) fun _ => .bind (quiet_checkPath _) fun _ =>
    .bind (quiet_get plain _) fun r => ?_) fun _ => .pure _
  cases r with
  | some p => exact .pure _
  | none => exact .pure _

theorem quiet_getCurrentUserInfoById (uid : Uid) : Quiet C (getCurrentUserInfoById uid) :=
  .tryCatch (quiet_get plain _) fun _ => .pure _

theorem quiet_firstNonempty (uid : Uid) (docs : List String) :
    Quiet C (firstNonempty uid docs) := by
  induction docs with
  | nil => exact .pure _
  | cons farmerId rest ih =>
    refine .bind (quiet_get plain _) fun _ => ?_
    split
    · exact .pure _
    · exact ih

theorem quiet_fetchInitialCart (uid : Uid) : Quiet C (fetchInitialCart uid) := by
  refine .tryCatch (.bind (quiet_get plain _) fun docs => ?_) fun _ => .pure _
  split
  · exact .pure _
  · exact quiet_firstNonempty plain uid docs

theorem quiet_fetchCustomerCartProducts (uid : Uid) (farmerId : String) :
    Quiet C (fetchCustomerCartProducts uid farmerId) := by
  refine .tryCatch (.bind (quiet_fetchInitialCart plain uid) fun r => ?_) fun _ => .pure _
  cases r with
  | some f => exact quiet_get plain _
  | none => exact quiet_get plain _

end Reads

/-- The contract does not depend on the pages of `OrdersController`. -/
structure KeepsDetails (C : Contract World Access) : Prop where
  plain : ∀ s, C.inv s → C.shows .plain s
  details : ∀ v, C.Keeps fun w => { w with details := v }

section Details

open OrdersController

variable (h : KeepsDetails C) (flow : StatusLists) (d : Device)
include h

theorem quiet_setDetails (f : OrdersController → OrdersController) :
    Quiet C (setDetails d f) := .change fun s hs => h.details _ s hs

theorem quiet_getOrdersList (fieldName : OrderField) (uid : String) :
    Quiet C (getOrdersList flow d fieldName uid) := by
  refine .bind (quiet_setDetails h d _) fun _ =>
    .tryCatch (.bind (quiet_fetchOrders h.plain _ _) fun r => ?_) fun _ => .pure _
  cases r with
  | none => exact .pure _
  | some response =>
    refine .bind (quiet_setDetails h d _) fun _ => .bind (.look _) fun page => ?_
    split
    · split
      · exact .bind (quiet_statusAt _ _) fun _ => quiet_setDetails h d _
      · exact .pure _
    · exact quiet_setDetails h d _

theorem quiet_fetchDriverOrders : Quiet C (fetchDriverOrders d) :=
  .tryCatch (.bind (quiet_setDetails h d _) fun _ =>
    .bind (quiet_fetchOrdersWithDriverId h.plain _) fun _ =>
      .bind (quiet_setDetails h d _) fun _ => quiet_setDetails h d _) fun _ => .pure _

theorem quiet_getOrders : Quiet C (getOrders flow d) := by
  unfold getOrders
  split
  · exact .bind (.spawn (quiet_getOrdersList h flow d _ _)) fun _ =>
      .spawn (quiet_fetchDriverOrders h d)
  · exact .spawn (quiet_getOrdersList h flow d _ _)

theorem quiet_sortDriverFarmerAcceptReject :
    Quiet C (sortDriverFarmerAcceptReject flow d) := by
  refine .bind (.look _) fun page => ?_
  split
  · split
    · exact quiet_setDetails h d _
    · split
      · exact .bind (quiet_statusLast _) fun _ => quiet_setDetails h d _
      · split
        · exact .bind (quiet_statusAt _ _) fun _ => quiet_setDetails h d _
        · exact .pure _
  · exact .pure _

theorem quiet_navigateToDetailsPage (order : Order) :
    Quiet C (navigateToDetailsPage flow d order) :=
  .bind (quiet_setDetails h d _) fun _ => .spawn (quiet_sortDriverFarmerAcceptReject h flow d)

theorem quiet_selectOrder (history : Bool) (index : ℕ) :
    Quiet C (selectOrder flow d history index) := by
  refine .bind (.look _) fun page => ?_
  split
  · exact quiet_navigateToDetailsPage h flow d _
  · exact .pure _

theorem quiet_openNotification (orderId : String) :
    Quiet C (openNotification flow d orderId) := by
  unfold openNotification
  split
  · exact .pure _
  · refine .bind (quiet_fetchOrderDetailsById h.plain _) fun r => ?_
    cases r with
    | some order => exact quiet_navigateToDetailsPage h flow d _
    | none => exact .pure _

omit h in
theorem quiet_selectedId : Quiet C (selectedId d) := by
  refine .bind (.look _) fun page => ?_
  split
  · split
    · exact .pure _
    · exact .throw _
  · exact .throw _

theorem quiet_reloadOrders : Quiet C (reloadOrders flow d) := by
  unfold reloadOrders
  split
  · exact .spawn (quiet_getOrdersList h flow d _ _)
  · exact .spawn (quiet_getOrdersList h flow d _ _)

theorem quiet_hideButtons : Quiet C (hideButtons d) := quiet_setDetails h d _

end Details

/-- The contract allows all that farmers and drivers can do. -/
structure KeepsStaff (C : Contract World Access) : Prop extends KeepsDetails C where
  shows : ∀ l s, C.inv s → l.isPost = false → C.shows l s
  homes : ∀ v, C.Keeps fun w => { w with homes := v }
  maps : ∀ v n, C.Keeps fun w => { w with maps := v, mapsOpened := n }
  writes : ∀ (l : Access) id, C.Keeps fun w => (updateOrder id l.apply w).1

section Staff

open OrdersController

variable (h : KeepsStaff C) (flow : StatusLists) (d : Device)
include h

theorem quiet_updateOrderStatus {seen : Access} (id status : String) (isDriver : Bool)
    (hseen : seen = .acceptStatus d id status isDriver ∨
      (∃ shown, seen = .deliveryStatus d id status shown) ∧ isDriver = true) :
    Quiet C (updateOrderStatus seen d.uid id status isDriver) := by
  refine .tryCatch (.bind (quiet_checkPath _) fun _ => ?_) fun _ => .pure _
  rcases hseen with rfl | ⟨⟨shown, rfl⟩, rfl⟩
  · split
    case isTrue hd =>
      subst hd
      exact .call (h.writes (.acceptStatus d id status true) id) fun s hs => h.shows _ s hs rfl
    case isFalse hd =>
      obtain rfl : isDriver = false := by simpa using hd
      exact .call (h.writes (.acceptStatus d id status false) id) fun s hs => h.shows _ s hs rfl
  · rw [if_pos rfl]
    exact .call (h.writes (.deliveryStatus d id status shown) id) fun s hs => h.shows _ s hs rfl

theorem quiet_rejectOrder {seen : Access} (id : String)
    (hseen : seen = .rejectButton d id ∨ ∃ page, seen = .autoReject page id) :
    Quiet C (rejectOrder seen id) := by
  refine .tryCatch (.bind (quiet_checkPath _) fun _ => ?_) fun _ => .pure _
  rcases hseen with rfl | ⟨page, rfl⟩
  · exact .call (h.writes (.rejectButton d id) id) fun s hs => h.shows _ s hs rfl
  · exact .call (h.writes (.autoReject page id) id) fun s hs => h.shows _ s hs rfl

theorem quiet_acceptBtnClick (status : String) (isDriver : Bool) :
    Quiet C (acceptBtnClick flow d status isDriver) :=
  .bind (quiet_selectedId d) fun _ =>
    .bind (quiet_updateOrderStatus h d _ _ _ (.inl rfl)) fun _ =>
      .bind (quiet_hideButtons h.toKeepsDetails d) fun _ => quiet_reloadOrders h.toKeepsDetails _ _

theorem quiet_rejectBtnClick : Quiet C (rejectBtnClick flow d) :=
  .bind (quiet_selectedId d) fun _ =>
    .bind (quiet_rejectOrder h d _ (.inl rfl)) fun _ =>
      .bind (quiet_hideButtons h.toKeepsDetails d) fun _ => quiet_reloadOrders h.toKeepsDetails _ _

theorem quiet_setMap (page : Device × ℕ)
    (f : OrderDetailMapController → OrderDetailMapController) :
    Quiet C (setMap page f) := .change fun s hs => h.maps _ _ s hs

theorem quiet_loadMapOrder (page : Device × ℕ) (orderId : String) :
    Quiet C (loadMapOrder flow page orderId) := by
  refine .tryCatch (.bind (quiet_fetchOrderDetailsById h.plain _) fun r => ?_) fun _ => .pure _
  cases r with
  | some order => exact quiet_setMap h _ _
  | none => exact .pure _

theorem quiet_openMap (order : Option Order) : Quiet C (openMap flow d order) :=
  .bind (.seg fun s hs => h.maps _ _ s hs) fun _ =>
    .bind (.spawn (quiet_loadMapOrder h flow _ _)) fun _ => quiet_setMap h _ _

theorem quiet_setHome (f : HomeController → HomeController) : Quiet C (setHome d f) :=
  .change fun s hs => h.homes _ s hs

theorem quiet_fetchHomeOrders : Quiet C (fetchHomeOrders d) :=
  .bind (quiet_setHome h d _) fun _ => .bind (quiet_fetchOrdersWithDriverId h.plain _) fun _ =>
    .bind (quiet_setHome h d _) fun _ => quiet_setHome h d _

theorem quiet_pressAccept : Quiet C (pressAccept flow d) := by
  refine .bind (.look _) fun page => ?_
  split
  · split
    · exact .bind (quiet_statusAt _ _) fun _ =>
        .bind (quiet_acceptBtnClick h flow d _ _) fun _ =>
          quiet_reloadOrders h.toKeepsDetails _ _
    · exact .bind (quiet_statusAt _ _) fun _ =>
        .bind (quiet_acceptBtnClick h flow d _ _) fun _ =>
          .bind (.look _) fun _ => quiet_openMap h flow d _
  · exact .pure _

theorem quiet_pressReject : Quiet C (pressReject flow d) := by
  refine .bind (.look _) fun page => ?_
  split
  · exact .bind (quiet_rejectBtnClick h flow d) fun _ =>
      .spawn (quiet_getOrdersList h.toKeepsDetails _ _ _ _)
  · exact .pure _

theorem quiet_openHomeOrder (past : Bool) (index : ℕ) :
    Quiet C (openHomeOrder flow d past index) := by
  refine .bind (.look _) fun home => ?_
  split
  · exact quiet_openMap h flow d _
  · exact .pure _

theorem quiet_tapStatus (page index : ℕ) : Quiet C (tapStatus flow d page index) := by
  refine .bind (.look _) fun map => ?_
  split
  · split
    · refine .bind (.bind (quiet_updateOrderStatus h d _ _ _ (.inr ⟨⟨_, rfl⟩, rfl⟩)) fun _ => ?_)
        fun _ => quiet_fetchHomeOrders h d
      exact .bind (quiet_getOrderById h.plain _) fun _ =>
        .bind (quiet_setMap h _ _) fun _ => quiet_setMap h _ _
    · exact .pure _
  · exact .pure _

end Staff

structure KeepsTimers (C : Contract World Access) : Prop where
  shows : ∀ l s, C.inv s → l.isPost = false → C.shows l s
  timers : ∀ v, C.Keeps fun w => { w with timers := v }
  rejects : ∀ id, C.Keeps fun w => (updateOrder id (fun o => { o with isRejected := true }) w).1

section Timers

open OrdersTimerController

variable (h : KeepsTimers C) (flow : StatusLists) (page : ℕ)
include h

theorem quiet_setTimer (f : OrdersTimerController → OrdersTimerController) :
    Quiet C (setTimer page f) := .change fun s hs => h.timers _ s hs

theorem KeepsTimers.plain : ∀ s, C.inv s → C.shows .plain s := fun s hs => h.shows _ s hs rfl

theorem quiet_checkOrderStatus : Quiet C (checkOrderStatus flow page) := by
  refine .tryCatch (.bind (.look _) fun _ => .bind (quiet_getOrderStatusByid h.plain _)
    fun _ => .bind (quiet_getOrderIsRejectByid h.plain _) fun _ =>
      .bind (quiet_statusAt _ _) fun _ => .bind (.note fun s hs => h.shows _ s hs rfl) fun _ => ?_)
      fun _ => .pure _
  split
  · exact quiet_setTimer h page _
  · split
    · exact quiet_setTimer h page _
    · exact .pure _

theorem quiet_autoRejectOrder : Quiet C (autoRejectOrder page) :=
  .bind (.look _) fun _ => .tryCatch (.bind (quiet_checkPath _) fun _ =>
    .call (h.rejects _) fun s hs => h.shows _ s hs rfl) fun _ => .pure _

theorem quiet_tick : Quiet C (tick flow page) := by
  refine .bind (.look _) fun c => ?_
  split
  · split
    · exact .bind (.note fun s hs => h.shows _ s hs rfl) fun _ => .bind (quiet_setTimer h page _) fun _ =>
        .spawn (quiet_autoRejectOrder h page)
    · exact .bind (quiet_setTimer h page _) fun _ =>
        .spawn (quiet_checkOrderStatus h flow page)
  · exact .pure _

end Timers

structure KeepsPages (C : Contract World Access) : Prop where
  plain : ∀ s, C.inv s → C.shows .plain s
  pages : ∀ v, C.Keeps fun w => { w with cartPages := v }

structure KeepsCarts (C : Contract World Access) : Prop extends KeepsPages C where
  shows : ∀ l s, C.inv s → l.target = none → l.isPost = false → C.shows l s
  carts : ∀ v, C.Keeps fun w => { w with carts := v }
  autoIds : C.Keeps fun w => { w with autoIds := w.autoIds + 1 }
  requests : ∀ v, C.Keeps fun w => { w with requested := v }
  validations : ∀ v, C.Keeps fun w => { w with validated := v }

section Pages

variable (h : KeepsPages C) (d : Device)
include h

theorem quiet_setPage (f : MyCartController → MyCartController) :
    Quiet C (MyCartController.setPage d f) := .change fun s hs => h.pages _ s hs

theorem quiet_delay : Quiet C MyCartController.delay :=
  .tryCatch (.call C.keeps_id h.plain) fun _ => .pure _

theorem quiet_clearPage (f f' : MyCartController → MyCartController) : Quiet C (do
    MyCartController.setPage d f
    MyCartController.delay
    MyCartController.setPage d f') :=
  .bind (quiet_setPage h d _) fun _ => .bind (quiet_delay h) fun _ => quiet_setPage h d _

end Pages

section Carts

open MyCartController

theorem quiet_getCustomerDeliveryAddress_of {d : Device} (plain : ∀ s, C.inv s → C.shows .plain s)
    (beside : ∀ f : MyCartController → MyCartController,
      (∀ c, (f c).objects = c.objects ∧ (f c).lists = c.lists ∧ (f c).allocated = c.allocated ∧
        (f c).myCartList = c.myCartList) → Quiet C (MyCartController.setPage d f)) :
    Quiet C (getCustomerDeliveryAddress d) := by
  refine .tryCatch (.bind (quiet_getCurrentUserInfoById plain _) fun data =>
    .bind (quiet_getCurrentUserInfoById plain _) fun userDetails => ?_) fun _ => .pure _
  split
  · refine .bind (beside _ fun _ => ⟨rfl, rfl, rfl, rfl⟩) fun _ => ?_
    split
    · exact beside _ fun _ => ⟨rfl, rfl, rfl, rfl⟩
    · exact .throw _
  · exact .throw _

variable (h : KeepsCarts C) (ids : IdSupply) (d : Device)
include h

theorem quiet_setRequest (uid : Uid) (product : Product) (f : Request → Request) :
    Quiet C (change fun w => w.setRequest uid product f : Program Unit) :=
  .change fun s hs => h.requests _ s hs

theorem quiet_updateCartProduct (uid : Uid) (farmerId id : String) (f : Product → Product) :
    C.Keeps fun w => (updateCartProduct uid farmerId id f w).1 := by
  intro s hs
  simp only [updateCartProduct]
  split
  · exact h.carts _ s hs
  · exact C.keeps_id s hs

theorem quiet_addProductToCart (uid : Uid) (product : Product) :
    Quiet C (addProductToCart ids uid product) := by
  unfold addProductToCart
  split
  · exact .pure _
  · refine .bind (.call (fun s hs => h.carts _ s hs) h.plain) fun _ =>
      .bind (quiet_get h.plain _) fun existing => ?_
    cases existing with
    | nil =>
      refine .bind (.call (fun s hs => ?_) fun s hs => h.shows _ s hs rfl rfl) fun _ =>
        .call (quiet_updateCartProduct h uid _ _ _) h.plain
      obtain ⟨hi, hr⟩ := h.carts _ s hs
      obtain ⟨hi', hr'⟩ := h.autoIds _ hi
      exact ⟨hi', C.trans hr hr'⟩
    | cons doc rest =>
      exact .call (quiet_updateCartProduct h uid _ _ _) fun s hs => h.shows _ s hs rfl rfl

theorem quiet_addProductsToCart (uid : Uid) (products : List Product) :
    Quiet C (addProductsToCart ids uid products) := by
  refine .tryCatch ?_ fun _ => .pure _
  induction products with
  | nil => exact .pure _
  | cons p rest ih => exact .bind (quiet_addProductToCart h ids uid p) fun _ => ih

theorem keeps_recordValidation (uid uid' : Uid) (f : CartStore → CartStore)
    (farmerId id : String) (stock : Option ℤ) :
    C.Keeps fun w => (w.setCart uid f).recordValidation uid' farmerId id stock := by
  intro s hs
  obtain ⟨hi, hr⟩ := h.carts _ s hs
  obtain ⟨hi', hr'⟩ := h.validations _ _ hi
  exact ⟨hi', C.trans hr hr'⟩

theorem keeps_storeCartProduct (seen : Access) (uid : Uid) (product : Product) :
    C.Keeps (storeCartProduct seen uid product) := by
  have plain : C.Keeps (setCartProduct uid product.farmerId product.id product) :=
    fun s hs => h.carts _ s hs
  intro s hs
  unfold storeCartProduct
  split
  · split
    · exact keeps_recordValidation h uid uid _ _ _ _ s hs
    · exact plain s hs
  · exact plain s hs

theorem keeps_foldl_storeCartProduct (seen : Access) (uid : Uid) (lines : List Product) :
    C.Keeps fun w => lines.foldl (fun v p => storeCartProduct seen uid p v) w := by
  induction lines with
  | nil => exact C.keeps_id
  | cons p rest ih =>
    intro s hs
    obtain ⟨hi, hr⟩ := keeps_storeCartProduct h seen uid p s hs
    obtain ⟨hi', hr'⟩ := ih _ hi
    exact ⟨hi', C.trans hr hr'⟩

theorem quiet_helper_updateProductInCart {seen : Access} (hseen : seen.target = none)
    (hpost : seen.isPost = false) (uid : Uid)
    (products : List Product) :
    Quiet C (FirebaseHelper.updateProductInCart seen uid products) := by
  refine .tryCatch ?_ fun _ => .pure _
  split
  · exact .throw _
  · exact .call (fun s hs => keeps_foldl_storeCartProduct h seen uid _ s hs)
      fun s hs => h.shows _ s hs hseen hpost

theorem quiet_helper_removeFromCart (uid : Uid) (farmerId productId : String) :
    Quiet C (FirebaseHelper.removeFromCart uid farmerId productId) :=
  .tryCatch (.bind (quiet_checkPath _) fun _ => .bind (quiet_checkPath _) fun _ =>
    .call (keeps_recordValidation h _ _ _ _ _ _) fun s hs => h.shows _ s hs rfl rfl)
    fun _ => .pure _

theorem quiet_cartDelete (uid : Uid) : Quiet C (cartDelete uid) :=
  .tryCatch (.bind (quiet_get h.plain _) fun _ =>
    .call (fun s hs => h.carts _ s hs) h.plain) fun _ => .pure _

theorem quiet_getCustomerDeliveryAddress : Quiet C (getCustomerDeliveryAddress d) :=
  quiet_getCustomerDeliveryAddress_of h.plain fun f _ => quiet_setPage h.toKeepsPages d f

theorem quiet_validateQuantity (object : ℕ) : Quiet C (validateQuantity d object) :=
  .bind (.look _) fun _ => .bind (quiet_getProductTotalQty h.plain _ _) fun _ =>
    .bind (.look _) fun _ => .bind (.note fun s hs => h.shows _ s hs rfl rfl) fun _ =>
      .bind (quiet_setPage h.toKeepsPages d _) fun _ => .bind (.look _) fun _ =>
        quiet_helper_updateProductInCart h rfl rfl _ _

theorem quiet_validateEach (objects : List ℕ) : Quiet C (validateEach d objects) := by
  induction objects with
  | nil => exact .pure _
  | cons object rest ih =>
    exact .bind (.spawn (quiet_validateQuantity h d object)) fun _ => ih

theorem quiet_removeEach (products : List Product) : Quiet C (removeEach d products) := by
  induction products with
  | nil => exact .pure _
  | cons p rest ih => exact .bind (quiet_helper_removeFromCart h _ _ _) fun _ => ih

theorem quiet_getCartProducts (farmerId : String) : Quiet C (getCartProducts d farmerId) :=
  .bind (quiet_setPage h.toKeepsPages d _) fun _ =>
    .tryCatch (.bind (quiet_fetchCustomerCartProducts h.plain _ _) fun _ =>
      .bind (.note fun s hs => h.shows _ s hs rfl rfl) fun _ =>
        .bind (quiet_setPage h.toKeepsPages d _) fun _ => .bind (.look _) fun _ =>
          .bind (quiet_validateEach h d _) fun _ => .bind (quiet_removeEach h d _) fun _ =>
            .bind (quiet_setPage h.toKeepsPages d _) fun _ =>
              .spawn (quiet_getCustomerDeliveryAddress h d)) fun _ => .pure _

theorem quiet_updateProductInCart (object : ℕ) (previousQty : ℤ) :
    Quiet C (updateProductInCart d object previousQty) :=
  .tryCatch (.bind (.look _) fun _ => .bind (.spawn (quiet_getCartProducts h d _)) fun _ =>
    .bind (.look _) fun _ => quiet_helper_updateProductInCart h rfl rfl _ _) fun _ => .pure _

theorem quiet_addToCart (product : Product) : Quiet C (addToCart ids d product) := by
  have reload := quiet_getCartProducts h d product.farmerId
  refine .tryCatch (.bind (.look _) fun c => ?_) fun _ => .pure _
  dsimp only
  split
  · exact .bind (quiet_setPage h.toKeepsPages d _) fun _ =>
      .bind (quiet_addProductsToCart h ids _ _) fun _ => .spawn reload
  · exact .bind (quiet_setPage h.toKeepsPages d _) fun _ =>
      .bind (quiet_updateProductInCart h d _ _) fun _ => .spawn reload

theorem quiet_removeFromCart (product : Product) : Quiet C (removeFromCart d product) := by
  refine .tryCatch (.bind (.note fun s hs => h.shows _ s hs rfl rfl) fun _ =>
    .bind (.look _) fun c => ?_) fun _ => .pure _
  split
  · exact .bind (quiet_setPage h.toKeepsPages d _) fun _ =>
      .bind (quiet_helper_removeFromCart h _ _ _) fun _ =>
        .bind (quiet_helper_removeFromCart h _ _ _) fun _ => quiet_setPage h.toKeepsPages d _
  · exact .throw _

theorem quiet_updateQuantity (product : Product) (quantity : ℤ) :
    Quiet C (updateQuantity d product quantity) := by
  refine .tryCatch (.bind (.look _) fun c => ?_) fun _ => .pure _
  split
  · refine .bind (quiet_getProductTotalQty h.plain _ _) fun totalQty =>
      .bind (.note fun s hs => h.shows _ s hs rfl rfl) fun _ => ?_
    split
    · exact .pure _
    · split
      · exact .bind (.look _) fun _ => .bind (quiet_setPage h.toKeepsPages d _) fun _ =>
          .bind (quiet_updateProductInCart h d _ _) fun _ =>
            .bind (.look _) fun _ => .spawn (quiet_getCartProducts h d _)
      · exact .bind (.look _) fun _ => .bind (.spawn (quiet_removeFromCart h d _)) fun _ =>
          .bind (.look _) fun _ => .spawn (quiet_getCartProducts h d _)
  · exact .throw _

theorem quiet_orderLines (onShow : List (ℕ × Product)) (list length index todo : ℕ)
    (lines : List OrderLine) :
    Quiet C (orderLines d onShow list length index todo lines) := by
  induction todo generalizing index lines with
  | zero =>
    refine .bind (.look _) fun c => ?_
    split
    · exact .throw _
    · exact .pure _
  | succ todo ih =>
    refine .bind (.look _) fun c => ?_
    split
    · exact .throw _
    · exact .bind (quiet_getProductTotalQty h.plain _ _) fun _ =>
        .bind (.note fun s hs => h.shows _ s hs rfl rfl) fun _ => .bind (.look _) fun _ => ih _ _

theorem quiet_emptyCart (f f' : MyCartController → MyCartController) : Quiet C (do
    cartDelete d.uid
    setPage d f
    delay
    setPage d f') :=
  .bind (quiet_cartDelete h d.uid) fun _ => quiet_clearPage h.toKeepsPages d f f'

end Carts

section Products

variable (h : ∀ products, C.Keeps fun w => { w with products := products })
include h

theorem keeps_updateFarmProduct (farmerId productId : String) (f : FarmProduct → FarmProduct) :
    C.Keeps fun w => (updateFarmProduct farmerId productId f w).1 := by
  intro s hs
  obtain ⟨products, hframe⟩ := updateFarmProduct_frame farmerId productId f s
  dsimp only
  rw [hframe]
  exact h products s hs

theorem keeps_deleteProductDoc (farmerId productId : String) :
    C.Keeps fun w => (deleteProductDoc farmerId productId w).1 := by
  intro s hs
  obtain ⟨products, hframe⟩ := deleteProductDoc_frame farmerId productId s
  dsimp only
  rw [hframe]
  exact h products s hs

end Products

structure KeepsProducts (C : Contract World Access) : Prop where
  plain : ∀ s, C.inv s → C.shows .plain s
  shows : ∀ l s, C.inv s → l.target = none → l.isPost = false → C.shows l s
  stock : ∀ farmerId productId qty (hidden : FarmProduct → Bool), C.Keeps fun w =>
    (updateFarmProduct farmerId productId (fun p => { p with qty := qty, isHidden := hidden p })
      w).1
  deletes : ∀ farmerId productId, C.Keeps fun w => (deleteProductDoc farmerId productId w).1

section Documents

variable (h : KeepsProducts C) (d : Device)
include h

theorem quiet_updateProductQty (farmerId productId : String) (qty : ℤ) :
    Quiet C (updateProductQty farmerId productId qty) := by
  refine .tryCatch (.bind (quiet_checkPath _) fun _ => .bind (quiet_checkPath _) fun _ =>
    .bind (quiet_get h.plain _) fun r => ?_) fun _ => .pure _
  cases r with
  | some p => exact .call (h.stock _ _ _ fun _ => _) fun s hs => h.shows _ s hs rfl rfl
  | none => exact .pure _

theorem quiet_updateProductToFarmer (uid : Uid) (productId : String) (qty : ℤ)
    (isHidden : Bool) : Quiet C (updateProductToFarmer uid productId qty isHidden) :=
  .tryCatch (.bind (quiet_checkPath _) fun _ => .call (h.stock _ _ _ fun _ => _) h.plain)
    fun _ => .pure _

theorem quiet_editProduct (form : ProductForm) :
    Quiet C (AddProdController.updateProduct d form) := by
  refine .bind (.call C.keeps_id h.plain) fun _ => ?_
  split
  · exact .pure _
  · exact quiet_updateProductToFarmer h _ _ _ _

theorem quiet_deleteProduct (productId : String) :
    Quiet C (AddProdController.deleteProduct d productId) :=
  .tryCatch (.bind (quiet_checkPath _) fun _ => .call (h.deletes _ _) h.plain) fun _ => .pure _

end Documents

structure KeepsStock (C : Contract World Access) : Prop extends KeepsProducts C where
  audits : ∀ a, C.Keeps fun w => { w with audits := w.audits ++ [a] }

section Stock

open MyCartController

variable (h : KeepsStock C) (d : Device)
include h

theorem quiet_updateLines (orderId : String) (list length index todo : ℕ)
    (deducted : List (String × ℤ)) :
    Quiet C (updateLines d orderId list length index todo deducted) := by
  induction todo generalizing index deducted with
  | zero => exact .bind (.note fun s hs => h.shows _ s hs rfl rfl) fun _ => .change (h.audits _)
  | succ todo ih =>
    refine .bind (.note fun s hs => h.shows _ s hs rfl rfl) fun _ => .bind (.look _) fun c => ?_
    split
    · exact .change (h.audits _)
    · exact .bind (quiet_updateProductQty h.toKeepsProducts _ _ _) fun _ => ih _ _

theorem quiet_updateProduct : Quiet C (updateProduct d) :=
  .bind (.look _) fun _ => quiet_updateLines h d _ _ _ _ _ _

end Stock

structure KeepsPlacing (flow : StatusLists) (ids : IdSupply) (C : Contract World Access) :
    Prop extends KeepsCarts C, KeepsStock C where
  posts : ∀ d o s, C.inv s → C.shows (.postOrder d o) s
  add : ∀ o : Order, flow.farmer[0]? = some o.status → o.driverId = "" → o.isRejected = false →
    o.orderID = none → C.Keeps fun w => (addOrder ids o w).1
  setID : ∀ id, C.Keeps fun w => (updateOrder id (fun o => { o with orderID := some id }) w).1

section Placing

open MyCartController

variable {flow : StatusLists} {ids : IdSupply} (h : KeepsPlacing flow ids C) (d : Device)
include h

theorem quiet_helper_placeOrder (o : Order) (hstatus : flow.farmer[0]? = some o.status)
    (hdriver : o.driverId = "") (hrejected : o.isRejected = false) :
    Quiet C (FirebaseHelper.placeOrder ids o) :=
  .tryCatch (.bind (.call (h.add _ hstatus hdriver hrejected rfl) fun s hs => h.shows _ s hs rfl rfl)
    fun id => .bind (.call (h.setID id) fun s hs => h.shows _ s hs rfl rfl) fun _ => .pure _)
    fun _ => .pure _

theorem quiet_postOrderComplete : Quiet C (postOrderComplete flow ids d) := by
  refine .tryCatch (.bind (.look _) fun c => ?_) fun _ => .pure _
  split
  · refine .bind (quiet_orderLines h.toKeepsCarts d _ _ _ _ _ _) fun lines =>
      quiet_bind_statusAt fun status hstatus => .bind (.look _) fun now => .bind (.look _)
        fun c => ?_
    split
    · refine .bind (.note (h.posts d _)) fun _ =>
        .bind (quiet_helper_placeOrder h _ hstatus rfl rfl) fun orderId =>
        .bind (quiet_setPage h.toKeepsPages d _) fun _ => .bind (.look _) fun c => ?_
      split
      · exact .throw _
      · exact .pure _
    · exact .throw _
  · exact .pure _

theorem quiet_placeOrder : Quiet C (placeOrder flow ids d) := by
  refine .bind (quiet_postOrderComplete h d) fun isOrdered => ?_
  split
  · exact .bind (.spawn (quiet_updateProduct h.toKeepsStock d)) fun _ =>
      quiet_emptyCart h.toKeepsCarts d _ _
  · exact .pure _

end Placing

inductive EventGroup where
  | staff
  | stock
  | cart
  | order
  deriving DecidableEq

def Event.group : Event → EventGroup
  | .openCart _ _ => .cart
  | .addToCart _ _ => .cart
  | .updateQuantity _ _ _ => .cart
  | .pickDate _ _ => .cart
  | .pickTime _ _ => .cart
  | .pickPayment _ _ => .cart
  | .placeOrder _ => .order
  | .editProduct _ _ => .stock
  | .deleteProduct _ _ => .stock
  | _ => .staff

section Groups

variable (flow : StatusLists) (ids : IdSupply) {e : Event}

theorem quiet_staff (staff : KeepsStaff C) (timers : KeepsTimers C)
    (clock : ∀ now, C.Keeps fun w => { w with now := now }) (he : e.group = .staff) :
    Quiet C (program flow ids e) := by
  cases e with
  | openOrders d => exact quiet_getOrders staff.toKeepsDetails flow d
  | selectOrder d history index =>
    exact quiet_selectOrder staff.toKeepsDetails flow d history index
  | openNotification d orderId => exact quiet_openNotification staff.toKeepsDetails flow d orderId
  | leaveDetails d => exact quiet_setDetails staff.toKeepsDetails d _
  | pressAccept d => exact quiet_pressAccept staff flow d
  | pressReject d => exact quiet_pressReject staff flow d
  | openHome d => exact quiet_fetchHomeOrders staff d
  | openHomeOrder d past index => exact quiet_openHomeOrder staff flow d past index
  | toggleSteps d page => exact quiet_setMap staff _ _
  | tapStatus d page index => exact quiet_tapStatus staff flow d page index
  | openTimer page orderId => exact quiet_setTimer timers page _
  | tick page => exact quiet_tick timers flow page
  | closeTimer page => exact quiet_setTimer timers page _
  | clock now => exact .change (clock now)
  | _ => cases he

theorem quiet_stock (stock : KeepsProducts C) (he : e.group = .stock) :
    Quiet C (program flow ids e) := by
  cases e with
  | editProduct d form => exact quiet_editProduct stock d form
  | deleteProduct d productId => exact quiet_deleteProduct stock d productId
  | _ => cases he

theorem quiet_cart (carts : KeepsCarts C) (he : e.group = .cart) :
    Quiet C (program flow ids e) := by
  cases e with
  | openCart d farmerId => exact quiet_getCartProducts carts d farmerId
  | addToCart d product =>
    exact .bind (quiet_setRequest carts d.uid product _) fun _ =>
      .bind (quiet_addToCart carts ids d product) fun _ => quiet_setRequest carts d.uid product _
  | updateQuantity d product quantity =>
    exact .bind (quiet_setRequest carts d.uid product _) fun _ =>
      .bind (quiet_updateQuantity carts d product quantity) fun _ =>
        quiet_setRequest carts d.uid product _
  | pickDate d date => exact quiet_setPage carts.toKeepsPages d _
  | pickTime d time => exact quiet_setPage carts.toKeepsPages d _
  | pickPayment d paymentMethod => exact quiet_setPage carts.toKeepsPages d _
  | _ => cases he

end Groups

end Gherass
