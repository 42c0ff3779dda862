import Gherass.ProgramFrames

set_option autoImplicit false

/-!
# Placing an order, when nothing happens in between

What the cart page's programs do when they run alone, for every choice of the calls that
go through.
-/
namespace Gherass

open EventLoop EventLoop.Async FirebaseHelper

def World.productAt (w : World) (farmerId productId : String) : Option FarmProduct :=
  if farmerId = "" ∨ productId = "" then none else farmProduct farmerId productId w

def totalQtyRead (ok : Access → Bool) (w : World) (farmerId productId : String) : ℤ :=
  if ok .plain then ((w.productAt farmerId productId).map FarmProduct.stock).getD (-1) else -1

section Helper

variable {ok : Access → Bool} {s : World}

theorem yields_get {α : Type} (hok : ok .plain = true) (f : World → α) :
    Yields ok (get f) s (.ok (f s)) s := .call hok _ _

theorem yields_getProductTotalQty (farmerId productId : String) :
    Yields ok (getProductTotalQty farmerId productId) s
      (.ok (totalQtyRead ok s farmerId productId)) s := by
  by_cases hf : farmerId = ""
  · have : totalQtyRead ok s farmerId productId = -1 := by simp [totalQtyRead, World.productAt, hf]
    rw [this, hf]
    exact .caught (.bind_error yields_checkPath_empty) (.pure _)
  by_cases hp : productId = ""
  · have : totalQtyRead ok s farmerId productId = -1 := by simp [totalQtyRead, World.productAt, hp]
    rw [this, hp]
    exact .caught (.bind (yields_checkPath hf) (.bind_error yields_checkPath_empty)) (.pure _)
  cases hok : ok .plain with
  | false =>
    have : totalQtyRead ok s farmerId productId = -1 := by simp [totalQtyRead, hok]
    rw [this]
    exact .caught (.bind (yields_checkPath hf) (.bind (yields_checkPath hp)
      (.bind_error (.call_lost hok _ _)))) (.pure _)
  | true =>
    refine .tryCatch (.bind (yields_checkPath hf) (.bind (yields_checkPath hp)
      (.bind (yields_get hok _) ?_)))
    have hat : s.productAt farmerId productId = farmProduct farmerId productId s :=
      if_neg (by simp [hf, hp])
    simp only [totalQtyRead, hok, if_true, hat]
    cases farmProduct farmerId productId s with
    | some p => exact .pure _
    | none => exact .pure _

def deductQty (farmerId productId : String) (orderedQty : ℤ) (w : World) : World :=
  match w.productAt farmerId productId with
  | some product =>
    let updatedQty := if product.stock - orderedQty < 0 then 0 else product.stock - orderedQty
    (updateFarmProduct farmerId productId (fun p =>
      { p with
        qty := some updatedQty
        isHidden := if updatedQty = 0 then true else p.isHidden }) w).1
  | none => w

def qtyUpdated (ok : Access → Bool) (farmerId productId : String) (orderedQty : ℤ) (w : World) :
    World :=
  if ok .plain ∧ ok (.updateQty farmerId productId
      (((w.productAt farmerId productId).map FarmProduct.stock).getD 0)) then
    deductQty farmerId productId orderedQty w
  else w

theorem qtyUpdated_nothing {farmerId productId : String} (orderedQty : ℤ)
    (h : s.productAt farmerId productId = none) :
    qtyUpdated ok farmerId productId orderedQty s = s := by
  have hdeduct : deductQty farmerId productId orderedQty s = s := by simp only [deductQty, h]
  rw [qtyUpdated, hdeduct, ite_self]

theorem yields_qtyUpdated (farmerId productId : String) (orderedQty : ℤ) :
    Yields ok (updateProductQty farmerId productId orderedQty) s (.ok ())
      (qtyUpdated ok farmerId productId orderedQty s) := by
  by_cases hf : farmerId = ""
  · rw [qtyUpdated_nothing orderedQty (by simp [World.productAt, hf]), hf]
    exact .caught (.bind_error yields_checkPath_empty) (.pure _)
  by_cases hp : productId = ""
  · rw [qtyUpdated_nothing orderedQty (by simp [World.productAt, hp]), hp]
    exact .caught (.bind (yields_checkPath hf) (.bind_error yields_checkPath_empty)) (.pure _)
  cases hplain : ok .plain with
  | false =>
    rw [qtyUpdated, if_neg (by simp [hplain])]
    exact .caught (.bind (yields_checkPath hf) (.bind (yields_checkPath hp)
      (.bind_error (.call_lost hplain _ _)))) (.pure _)
  | true =>
    have hat : s.productAt farmerId productId = farmProduct farmerId productId s :=
      if_neg (by simp [hf, hp])
    cases hread : farmProduct farmerId productId s with
    | none =>
      rw [qtyUpdated_nothing orderedQty (hat.trans hread)]
      refine .tryCatch (.bind (yields_checkPath hf) (.bind (yields_checkPath hp)
        (.bind (yields_get hplain _) ?_)))
      rw [hread]
      exact .pure _
    | some p =>
      obtain ⟨hstored, hfarmer⟩ := Option.filter_eq_some_iff.1 hread
      have hanswer : ∀ f, (updateFarmProduct farmerId productId f s).2 = .ok () := fun f => by
        simp only [updateFarmProduct, hstored]
        rw [if_pos (by simpa using hfarmer)]
      have hqty : ((s.productAt farmerId productId).map FarmProduct.stock).getD 0 =
          p.qty.getD 0 := by rw [hat, hread]; rfl
      cases hwrite : ok (.updateQty farmerId productId (p.qty.getD 0)) with
      | false =>
        rw [qtyUpdated, hqty, if_neg (by simp [hwrite])]
        have read : Yields ok (get (farmProduct farmerId productId)) s (.ok (some p)) s :=
          hread ▸ yields_get hplain _
        exact .caught (.bind (yields_checkPath hf) (.bind (yields_checkPath hp)
          (.bind read (.call_lost hwrite _ _)))) (.pure _)
      | true =>
        rw [qtyUpdated, hqty, if_pos ⟨hplain, hwrite⟩]
        refine .tryCatch (.bind (yields_checkPath hf) (.bind (yields_checkPath hp)
          (.bind (yields_get hplain _) ?_)))
        simp only [deductQty, hat, hread]
        exact .call_answer hwrite (hanswer _)

theorem yields_updateProductQty (plain : ok .plain = true)
    (write : ∀ farmerId productId currentQty, ok (.updateQty farmerId productId currentQty) = true)
    (farmerId productId : String) (orderedQty : ℤ) :
    Yields ok (updateProductQty farmerId productId orderedQty) s (.ok ())
      (deductQty farmerId productId orderedQty s) := by
  have through : qtyUpdated ok farmerId productId orderedQty s =
    deductQty farmerId productId orderedQty s := if_pos ⟨plain, write _ _ _⟩
  exact through ▸ yields_qtyUpdated farmerId productId orderedQty

def recordID (id : String) (w : World) : World × Except DartError Unit :=
  updateOrder id (fun o => { o with orderID := some id }) w

theorem added_stored (ids : IdSupply) (o : Order) :
    (addOrder ids o s).1.orders[ids.newId s.autoIds s.orders.keys]? = some o :=
  Std.TreeMap.getElem?_insert_self

/-- What `placeOrder` of the helper answers, and the market it leaves. -/
def placed (ok : Access → Bool) (ids : IdSupply) (o : Order) (w : World) : String × World :=
  let id := ids.newId w.autoIds w.orders.keys
  let added := (addOrder ids { o with orderID := none } w).1
  if ok .addOrder then
    if ok .setOrderID then (id, (recordID id added).1) else ("", added)
  else ("", w)

theorem placed_through {ids : IdSupply} {o : Order} (hadd : ok .addOrder = true)
    (hset : ok .setOrderID = true) :
    placed ok ids o s = (ids.newId s.autoIds s.orders.keys,
      (addOrder ids { o with orderID := none } s).1.putOrder (ids.newId s.autoIds s.orders.keys)
        { o with orderID := some (ids.newId s.autoIds s.orders.keys) }) := by
  simp only [placed, hadd, hset, if_true, recordID, updateOrder_stored (added_stored ids _)]

theorem placed_frame (ok : Access → Bool) (ids : IdSupply) (o : Order) (s : World) :
    ∃ orders autoIds,
    (placed ok ids o s).2 = { s with orders := orders, autoIds := autoIds } := by
  cases hadd : ok .addOrder with
  | false =>
    simp only [placed, hadd, if_false, Bool.false_eq_true]
    exact ⟨s.orders, s.autoIds, rfl⟩
  | true =>
    cases hset : ok .setOrderID with
    | false =>
      simp only [placed, hadd, hset, if_true, if_false, Bool.false_eq_true]
      exact ⟨_, _, rfl⟩
    | true =>
      rw [placed_through hadd hset]
      exact ⟨_, _, rfl⟩

theorem yields_placeOrder (ids : IdSupply) (o : Order) :
    Yields ok (FirebaseHelper.placeOrder ids o) s (.ok (placed ok ids o s).1)
      (placed ok ids o s).2 := by
  unfold placed
  cases hadd : ok .addOrder with
  | false => exact .caught (.bind_error (.call_lost hadd _ _)) (.pure _)
  | true =>
    cases hset : ok .setOrderID with
    | false =>
      exact .caught (.bind (.call hadd _ _) (.bind_error (.call_lost hset _ _))) (.pure _)
    | true =>
      refine .tryCatch (.bind (.call hadd _ _) (.bind (b := ()) (.call_answer hset ?_) (.pure _)))
      rw [updateOrder_stored (added_stored ids _)]

end Helper

section CartPage

open MyCartController

variable {ok : Access → Bool} {s : World} {d : Device}

/-- A line of the order, as the loop of `postOrderComplete` builds it. -/
def lineOf (ok : Access → Bool) (w : World) (prod : Product) : OrderLine where
  name := prod.name
  price := prod.price
  productId := prod.prodId
  qty := prod.qty
  totalQty := totalQtyRead ok w prod.farmerId prod.prodId

theorem yields_orderLines {onShow : List (ℕ × Product)} {list length index todo : ℕ}
    {lines : List OrderLine} (hlength : ((s.cartPages d).lists list).length = length)
    (htodo : index + todo = length) :
    Yields ok (orderLines d onShow list length index todo lines) s
      (.ok (lines ++ (((s.cartPages d).lists list).drop index).map
        fun i => lineOf ok s ((s.cartPages d).objects i))) s := by
  induction todo generalizing index lines with
  | zero =>
    refine .bind (.look _) ?_
    rw [if_neg (not_not.2 hlength), List.drop_eq_nil_of_le (by omega), List.map_nil,
      List.append_nil]
    exact .pure _
  | succ todo ih =>
    refine .bind (.look _) ?_
    rw [if_neg (not_not.2 hlength)]
    refine .bind (yields_getProductTotalQty _ _) (.bind (.note _) (.bind (.look _) ?_))
    have hindex : index < ((s.cartPages d).lists list).length := by omega
    rw [List.drop_eq_getElem_cons hindex, List.map_cons, List.append_cons,
      List.getD_eq_getElem?_getD, List.getElem?_eq_getElem hindex, Option.getD_some]
    exact ih (by omega)

def readyToPost (flow : StatusLists) (d : Device) (w : World) : Bool :=
  (w.cartPages d).formComplete && flow.farmer ≠ []

/-- The order that a press on the order button posts, if it comes to that. -/
def posted (flow : StatusLists) (ok : Access → Bool) (d : Device) (w : World) : Option Order :=
  let c := w.cartPages d
  if c.formComplete then
    match flow.farmer[0]?, c.shown with
    | some status, first :: _ =>
      some (postOrder d c first w.now status (c.shown.map (lineOf ok w)))
    | _, _ => none
  else none

theorem posted_isSome (ok : Access → Bool) {flow : StatusLists} :
    (posted flow ok d s).isSome = readyToPost flow d s := by
  unfold posted readyToPost
  cases hform : (s.cartPages d).formComplete with
  | false => simp [hform]
  | true =>
    cases hshown : (s.cartPages d).shown with
    | nil => simp [formComplete, hshown] at hform
    | cons first rest =>
      cases hlist : flow.farmer with
      | nil => simp [hform, hshown]
      | cons status statuses => simp [hform, hshown]

theorem yields_lines {c : MyCartController} (hc : s.cartPages d = c) :
    Yields ok (orderLines d c.onShow c.myCartList (c.lists c.myCartList).length 0
      (c.lists c.myCartList).length []) s (.ok (c.shown.map (lineOf ok s))) s := by
  subst hc
  have lines : (s.cartPages d).shown.map (lineOf ok s) = [] ++
      (((s.cartPages d).lists (s.cartPages d).myCartList).drop 0).map
        fun i => lineOf ok s ((s.cartPages d).objects i) := List.map_map ..
  rw [lines]
  exact yields_orderLines rfl (Nat.zero_add _)

theorem placed_cartPages (ids : IdSupply) (o : Order) :
    (placed ok ids o s).2.cartPages = s.cartPages := by
  obtain ⟨orders, autoIds, h⟩ := placed_frame ok ids o s
  rw [h]

theorem yields_postOrderComplete (flow : StatusLists) (ids : IdSupply) :
    Yields ok (postOrderComplete flow ids d) s (.ok (posted flow ok d s).isSome)
      (match posted flow ok d s with
        | some o => (placed ok ids o s).2.setCartPage d fun c =>
          { c with orderId := (placed ok ids o s).1 }
        | none => s) := by
  by_cases hform : (s.cartPages d).formComplete
  case neg =>
    simp only [posted, hform]
    refine .tryCatch (.bind (.look _) ?_)
    rw [if_neg hform]
    exact .pure _
  case pos =>
  cases hstatus : flow.farmer[0]? with
  | none =>
    simp only [posted, hform, if_true, hstatus]
    refine .caught (e := .range) (.bind (.look _) ?_) (.pure _)
    rw [if_pos hform]
    refine .bind (yields_lines rfl) (.bind_error ?_)
    rw [statusAt, hstatus]
    exact .throw DartError.range
  | some status =>
    cases hshown : (s.cartPages d).shown with
    | nil => simp [formComplete, hshown] at hform
    | cons first rest =>
      simp only [posted, hform, if_true, hstatus, hshown]
      refine .tryCatch (.bind (.look _) ?_)
      rw [if_pos hform]
      refine .bind (yields_lines rfl) ?_
      rw [statusAt, hstatus]
      refine .bind (.pure _) (.bind (.look _) (.bind (.look _) ?_))
      simp only [hshown]
      refine .bind (.note _) (.bind (yields_placeOrder ids _) (.bind (.change _)
        (.bind (.look _) ?_)))
      rw [World.setCartPage_self, placed_cartPages, if_neg]
      · exact .pure _
      · exact hshown ▸ List.cons_ne_nil first rest

def deductLines : List Product → World → World
  | [], w => w
  | p :: rest, w => deductLines rest (deductQty p.farmerId p.prodId p.qty w)

theorem deductQty_frame (farmerId productId : String) (qty : ℤ) (w : World) :
    ∃ products, deductQty farmerId productId qty w = { w with products := products } := by
  unfold deductQty
  split
  · simp only [updateFarmProduct]
    split
    · split
      · exact ⟨_, rfl⟩
      · exact ⟨_, rfl⟩
    · exact ⟨_, rfl⟩
  · exact ⟨_, rfl⟩

theorem deductLines_products (lines : List Product) {v w : World}
    (h : v.products = w.products) :
    (deductLines lines v).products = (deductLines lines w).products := by
  induction lines generalizing v w with
  | nil => exact h
  | cons p rest ih =>
    refine ih ?_
    have hat : v.productAt p.farmerId p.prodId = w.productAt p.farmerId p.prodId := by
      simp only [World.productAt, farmProduct, h]
    unfold deductQty
    rw [hat]
    split
    · simp only [updateFarmProduct, h]
      split
      · split
        · rfl
        · exact h
      · exact h
    · exact h

section Updates

variable (plain : ok .plain = true)
  (write : ∀ farmerId productId currentQty, ok (.updateQty farmerId productId currentQty) = true)
include plain write

theorem yields_updateLines {orderId : String} {list length index todo : ℕ}
    {deducted : List (String × ℤ)} (hlength : ((s.cartPages d).lists list).length = length)
    (htodo : index + todo = length) :
    ∃ t, Yields ok (updateLines d orderId list length index todo deducted) s (.ok ()) t ∧
      t.orders = s.orders ∧ t.products = (deductLines ((((s.cartPages d).lists list).drop
        index).map (s.cartPages d).objects) s).products := by
  induction todo generalizing index deducted s with
  | zero =>
    refine ⟨_, .bind (.note _) (.change _), rfl, ?_⟩
    rw [List.drop_eq_nil_of_le (by omega)]
    rfl
  | succ todo ih =>
    have hindex : index < ((s.cartPages d).lists list).length := by omega
    have hprod : ((s.cartPages d).lists list).getD index 0 =
        ((s.cartPages d).lists list)[index] := by
      rw [List.getD_eq_getElem?_getD, List.getElem?_eq_getElem hindex, Option.getD_some]
    rw [List.drop_eq_getElem_cons hindex, List.map_cons, deductLines]
    generalize hp : (s.cartPages d).objects ((s.cartPages d).lists list)[index] = prod
    obtain ⟨products, hframe⟩ := deductQty_frame prod.farmerId prod.prodId prod.qty s
    have hpages : (deductQty prod.farmerId prod.prodId prod.qty s).cartPages = s.cartPages := by
      rw [hframe]
    have horders : (deductQty prod.farmerId prod.prodId prod.qty s).orders = s.orders := by
      rw [hframe]
    rw [← hpages] at hlength ⊢
    obtain ⟨t, ht, hto, htp⟩ := ih hlength (by omega : index + 1 + todo = length)
    refine ⟨t, .bind (.note _) (.bind (.look _) ?_), hto.trans horders, htp⟩
    rw [hpages] at hlength
    rw [if_neg (not_not.2 hlength), hprod, hp]
    exact .bind (yields_updateProductQty plain write _ _ _) ht

theorem yields_updateProduct : ∃ t, Yields ok (updateProduct d) s (.ok ()) t ∧
    t.orders = s.orders ∧
    t.products = (deductLines (s.cartPages d).shown s).products := by
  obtain ⟨t, ht, ho, hp⟩ := yields_updateLines (d := d) (s := s) plain write rfl
    (Nat.zero_add ((s.cartPages d).lists (s.cartPages d).myCartList).length)
  exact ⟨t, .bind (.look _) ht, ho, hp⟩

end Updates

def sameOrders : Contract World Access := .ofFrame World.orders

def sameProducts : Contract World Access := .ofFrame World.products

theorem keepsCarts_sameOrders : KeepsCarts sameOrders where
  plain _ _ := trivial
  pages _ _ _ := ⟨trivial, rfl⟩
  carts _ _ _ := ⟨trivial, rfl⟩
  shows _ _ _ _ _ := trivial
  autoIds _ _ := ⟨trivial, rfl⟩
  requests _ _ _ := ⟨trivial, rfl⟩
  validations _ _ _ := ⟨trivial, rfl⟩

theorem keepsStock_sameOrders : KeepsStock sameOrders where
  plain _ _ := trivial
  shows _ _ _ _ _ := trivial
  audits _ _ _ := ⟨trivial, rfl⟩
  stock farmerId productId _ _ :=
    keeps_updateFarmProduct (fun _ _ _ => ⟨trivial, rfl⟩) farmerId productId _
  deletes := keeps_deleteProductDoc fun _ _ _ => ⟨trivial, rfl⟩

theorem keepsCarts_sameProducts : KeepsCarts sameProducts where
  plain _ _ := trivial
  pages _ _ _ := ⟨trivial, rfl⟩
  carts _ _ _ := ⟨trivial, rfl⟩
  shows _ _ _ _ _ := trivial
  autoIds _ _ := ⟨trivial, rfl⟩
  requests _ _ _ := ⟨trivial, rfl⟩
  validations _ _ _ := ⟨trivial, rfl⟩

variable {flow : StatusLists} {ids : IdSupply}

/-- What `placeOrder` goes on with beside the stock updates. -/
def emptyCart (d : Device) : Program Unit := do
  cartDelete d.uid
  setPage d fun c => { c with selectedDate := "", selectedTime := "" }
  delay
  setPage d fun c => c.setList fun _ => []

/-- The market when `postOrderComplete` has posted an order. -/
def afterPost (ok : Access → Bool) (ids : IdSupply) (d : Device) (o : Order) (w : World) :
    World :=
  (placed ok ids o w).2.setCartPage d fun c => { c with orderId := (placed ok ids o w).1 }

theorem placeOrder_alone (h : (posted flow ok d s).isNone) :
    (handler flow ids (.placeOrder d)).alone ok s = (none, s) := by
  refine (Yields.task_bind (yields_postOrderComplete flow ids)).trans ?_
  rw [Option.isNone_iff_eq_none.1 h]
  rfl

theorem placeOrder_alone_posted {o : Order} (h : posted flow ok d s = some o) :
    (handler flow ids (.placeOrder d)).alone ok s =
      (spawn (updateProduct d) >>= fun _ => emptyCart d).task.alone ok (afterPost ok ids d o s) := by
  refine (Yields.task_bind (yields_postOrderComplete flow ids)).trans ?_
  rw [h]
  rfl

theorem placeOrder_orders {o : Order} (h : posted flow ok d s = some o) :
    ((handler flow ids (.placeOrder d)).alone ok s).2.orders = (placed ok ids o s).2.orders := by
  rw [placeOrder_alone_posted h]
  exact (Quiet.alone (C := sameOrders)
    (.bind (.spawn (quiet_updateProduct keepsStock_sameOrders d)) fun _ =>
      quiet_emptyCart keepsCarts_sameOrders d _ _) trivial).2

theorem placeOrder_products {o : Order} (h : posted flow ok d s = some o)
    (plain : ok .plain = true)
    (write : ∀ farmerId productId currentQty,
      ok (.updateQty farmerId productId currentQty) = true) :
    ((handler flow ids (.placeOrder d)).alone ok s).2.products =
      (deductLines (s.cartPages d).shown s).products := by
  obtain ⟨t, ht, -, hp⟩ := yields_updateProduct (d := d) (s := afterPost ok ids d o s) plain write
  have emptied : ((emptyCart d).task.alone ok t).2.products = t.products :=
    (Quiet.alone (C := sameProducts) (quiet_emptyCart keepsCarts_sameProducts d _ _)
      trivial).2
  rw [placeOrder_alone_posted h, Yields.task_bind ht.spawned, emptied, hp]
  obtain ⟨orders, autoIds, hframe⟩ := placed_frame ok ids o s
  rw [afterPost, World.setCartPage_self, placed_cartPages]
  exact deductLines_products _ (by rw [World.setCartPage, hframe])

end CartPage

end Gherass
