import Gherass.AddProdController
import Gherass.EventLoopOutcomes
import Gherass.EventLoopSimulation
import Gherass.ShopControllers
import Mathlib.Algebra.Order.Ring.Cast
import Mathlib.Algebra.Order.Ring.Rat

set_option autoImplicit false

/-!
# A product's stock and its map of fields

The market keeps a product's quantity and whether it is hidden, the shop the whole map of its
fields. What both of them model of the helper and of a product's form writes the same stock.
-/
namespace Gherass.StockViews

open EventLoop EventLoop.Async

/-- The two stock fields in a product's map. -/
structure OfFields (farmerId : String) (p : FarmProduct) (m : Shop.Fields) : Prop where
  farmerId : p.farmerId = farmerId
  qty : m "qty" = some (p.qty.elim .null .int)
  isHidden : p.isHidden = true ↔ m.get "isHidden" = .bool true

/-- The two databases hold the same stock of every product. -/
def SameStock (w : World) (s : Shop.ShopWorld) : Prop := ∀ farmerId id,
  Option.Rel (OfFields farmerId) (FirebaseHelper.farmProduct farmerId id w)
    (s.products farmerId)[id]?

theorem same_stock_empty : SameStock {} {} := by
  intro farmerId id
  rw [Std.TreeMap.getElem?_emptyc]
  exact .none

variable {w : World} {s : Shop.ShopWorld} {farmerId id : String}

theorem farmProduct_eq_some {p : FarmProduct} :
    FirebaseHelper.farmProduct farmerId id w = some p ↔
      w.products id = some p ∧ p.farmerId = farmerId := by
  simp [FirebaseHelper.farmProduct, Option.filter_eq_some_iff]

theorem farmProduct_update (p : Option FarmProduct) :
    FirebaseHelper.farmProduct farmerId id
        { w with products := Function.update w.products id p } =
      p.filter fun p => p.farmerId = farmerId := by
  simp [FirebaseHelper.farmProduct]

theorem farmProduct_elsewhere {p' : Option FarmProduct}
    (hold : ∀ p ∈ w.products id, p.farmerId = farmerId)
    (hnew : ∀ p ∈ p', p.farmerId = farmerId) {farmerId' id' : String}
    (hne : (farmerId', id') ≠ (farmerId, id)) :
    FirebaseHelper.farmProduct farmerId' id'
        { w with products := Function.update w.products id p' } =
      FirebaseHelper.farmProduct farmerId' id' w := by
  by_cases hid : id' = id
  · subst hid
    have other : farmerId ≠ farmerId' := fun h => hne (by rw [h])
    have none {q : Option FarmProduct} (hq : ∀ p ∈ q, p.farmerId = farmerId) :
        (q.filter fun p => p.farmerId = farmerId') = none := by
      rw [Option.filter_eq_none_iff]
      intro p hp
      rw [hq p hp]
      simp [other]
    rw [farmProduct_update, none hnew, FirebaseHelper.farmProduct, none hold]
  · simp [FirebaseHelper.farmProduct, Function.update_of_ne hid]

theorem setProducts_elsewhere
    {f : Std.TreeMap String Shop.Fields → Std.TreeMap String Shop.Fields}
    (hf : ∀ id', id' ≠ id → (f (s.products farmerId))[id']? = (s.products farmerId)[id']?)
    {farmerId' id' : String} (hne : (farmerId', id') ≠ (farmerId, id)) :
    ((s.setProducts farmerId f).products farmerId')[id']? = (s.products farmerId')[id']? := by
  by_cases hfarmer : farmerId' = farmerId
  · subst hfarmer
    rw [Shop.ShopWorld.products_setProducts]
    exact hf id' fun h => hne (by rw [h])
  · rw [Shop.ShopWorld.setProducts]
    dsimp only
    rw [Function.update_of_ne hfarmer]

theorem SameStock.write (h : SameStock w s) {p' : Option FarmProduct}
    {f : Std.TreeMap String Shop.Fields → Std.TreeMap String Shop.Fields}
    (hold : ∀ p ∈ w.products id, p.farmerId = farmerId)
    (hf : ∀ id', id' ≠ id → (f (s.products farmerId))[id']? = (s.products farmerId)[id']?)
    (here : Option.Rel (OfFields farmerId) p' (f (s.products farmerId))[id]?) :
    SameStock { w with products := Function.update w.products id p' }
      (s.setProducts farmerId f) := by
  have hnew : ∀ p ∈ p', p.farmerId = farmerId := by
    intro p hp
    obtain rfl := hp
    generalize (f (s.products farmerId))[id]? = m at here
    cases here with
    | some h => exact h.farmerId
  intro farmerId' id'
  by_cases hne : (farmerId', id') = (farmerId, id)
  · obtain ⟨rfl, rfl⟩ := Prod.mk.inj hne
    have own : (p'.filter fun p => p.farmerId = farmerId') = p' := by
      cases p' with
      | none => rfl
      | some p => exact if_pos (decide_eq_true (hnew p rfl))
    rw [farmProduct_update, own, Shop.ShopWorld.products_setProducts]
    exact here
  · rw [farmProduct_elsewhere hold hnew hne, setProducts_elsewhere hf hne]
    exact h farmerId' id'

theorem insert_elsewhere {docs : Std.TreeMap String Shop.Fields} {id' : String} {m : Shop.Fields}
    (hne : id' ≠ id) : (docs.insert id m)[id']? = docs[id']? := by
  rw [Std.TreeMap.getElem?_insert, if_neg]
  simpa using hne.symm

theorem erase_elsewhere {docs : Std.TreeMap String Shop.Fields} {id' : String}
    (hne : id' ≠ id) : (docs.erase id)[id']? = docs[id']? := by
  rw [Std.TreeMap.getElem?_erase, if_neg]
  simpa using hne.symm

theorem SameStock.here (h : SameStock w s) (farmerId id : String) :
    (∃ p m, w.products id = some p ∧ p.farmerId = farmerId ∧
        (s.products farmerId)[id]? = some m ∧ OfFields farmerId p m) ∨
      FirebaseHelper.farmProduct farmerId id w = none ∧ (s.products farmerId)[id]? = none := by
  have here := h farmerId id
  generalize (s.products farmerId)[id]? = m at here
  generalize hp : FirebaseHelper.farmProduct farmerId id w = p at here
  cases here with
  | some hpm =>
    obtain ⟨hproduct, howner⟩ := farmProduct_eq_some.1 hp
    exact .inl ⟨_, _, hproduct, howner, rfl, hpm⟩
  | none => exact .inr ⟨rfl, rfl⟩

theorem owner_of {p : FarmProduct} (hp : w.products id = some p) (howner : p.farmerId = farmerId) :
    ∀ q ∈ w.products id, q.farmerId = farmerId := by
  intro q hq
  rw [hp] at hq
  cases hq
  exact howner

theorem not_owner (h : FirebaseHelper.farmProduct farmerId id w = none) {p : FarmProduct}
    (hp : w.products id = some p) : p.farmerId ≠ farmerId := by
  intro howner
  rw [farmProduct_eq_some.2 ⟨hp, howner⟩] at h
  cases h

theorem updateFarmProduct_missing {f : FarmProduct → FarmProduct}
    (h : FirebaseHelper.farmProduct farmerId id w = none) :
    FirebaseHelper.updateFarmProduct farmerId id f w = (w, .error .firestore) := by
  unfold FirebaseHelper.updateFarmProduct
  split
  case h_1 p hp => exact if_neg (not_owner h hp)
  case h_2 => rfl

theorem deleteProductDoc_missing (h : FirebaseHelper.farmProduct farmerId id w = none) :
    FirebaseHelper.deleteProductDoc farmerId id w = (w, .ok ()) := by
  unfold FirebaseHelper.deleteProductDoc
  split
  case h_1 p hp => exact if_neg (not_owner h hp)
  case h_2 => rfl

theorem deleteProductDoc_ok : (FirebaseHelper.deleteProductDoc farmerId id w).2 = .ok () := by
  unfold FirebaseHelper.deleteProductDoc
  grind

theorem SameStock.update (h : SameStock w s) {f : FarmProduct → FarmProduct}
    {g : Shop.Fields → Shop.Fields}
    (hf : ∀ p m, OfFields farmerId p m → OfFields farmerId (f p) (g m)) :
    SameStock (FirebaseHelper.updateFarmProduct farmerId id f w).1
        (Shop.FirebaseHelper.updateProductDoc farmerId id g s).1 ∧
      Answers (fun _ _ => True) (FirebaseHelper.updateFarmProduct farmerId id f w).2
        (Shop.FirebaseHelper.updateProductDoc farmerId id g s).2 := by
  rw [Shop.FirebaseHelper.updateProductDoc]
  obtain ⟨p, m, hp, howner, hm, hpm⟩ | ⟨hp, hm⟩ := h.here farmerId id
  · rw [FirebaseHelper.updateFarmProduct, hp, hm]
    dsimp only
    rw [if_pos howner]
    refine ⟨h.write (owner_of hp howner) (fun _ => insert_elsewhere) ?_, .ok trivial⟩
    rw [Std.TreeMap.getElem?_insert_self]
    exact .some (hf p m hpm)
  · rw [updateFarmProduct_missing hp, hm]
    exact ⟨h, .error _⟩

theorem SameStock.delete (h : SameStock w s) :
    SameStock (FirebaseHelper.deleteProductDoc farmerId id w).1
      (s.setProducts farmerId (·.erase id)) := by
  obtain ⟨p, m, hp, howner, hm, hpm⟩ | ⟨hp, hm⟩ := h.here farmerId id
  · rw [FirebaseHelper.deleteProductDoc, hp]
    dsimp only
    rw [if_pos howner]
    refine h.write (owner_of hp howner) (fun _ => erase_elsewhere) ?_
    rw [Std.TreeMap.getElem?_erase_self]
    exact .none
  · rw [deleteProductDoc_missing hp]
    intro farmerId' id'
    by_cases hne : (farmerId', id') = (farmerId, id)
    · obtain ⟨rfl, rfl⟩ := Prod.mk.inj hne
      rw [Shop.ShopWorld.products_setProducts, Std.TreeMap.getElem?_erase_self, hp]
      exact .none
    · rw [setProducts_elsewhere (fun _ => erase_elsewhere) hne]
      exact h farmerId' id'

theorem SameStock.add (h : SameStock w s) (hfree : w.products id = none) {uid : Uid} {qty : ℤ}
    {m : Shop.Fields} (hqty : m "qty" = some (.int qty)) (hshown : m "isHidden" = none) :
    SameStock (FirebaseHelper.addProductDoc uid id qty w).1
      (s.setProducts uid (·.insertIfNew id m)) := by
  have missing : (s.products uid)[id]? = none := by
    obtain ⟨p, -, hp, -⟩ | ⟨-, hm⟩ := h.here uid id
    · rw [hfree] at hp
      cases hp
    · exact hm
  refine h.write ?_ ?_ ?_
  · intro p hp
    rw [hfree] at hp
    cases hp
  · intro id' hne
    rw [Std.TreeMap.getElem?_insertIfNew, if_neg]
    simpa using fun heq : id = id' => absurd heq.symm hne
  · have free : id ∉ s.products uid := fun hmem => by
      simpa [missing] using Std.TreeMap.getElem?_eq_some_getElem hmem
    rw [Std.TreeMap.getElem?_insertIfNew, if_pos ⟨Std.ReflCmp.compare_self, free⟩]
    exact .some ⟨rfl, hqty, by simp [Shop.Fields.get, hshown]⟩

theorem inStep_checkPath (path : String) :
    InStep SameStock (fun _ _ => True) (FirebaseHelper.checkPath path)
      (Shop.FirebaseHelper.checkDoc path) := by
  unfold FirebaseHelper.checkPath Shop.FirebaseHelper.checkDoc
  split
  case isTrue => exact .throw _
  case isFalse => exact .pure trivial

theorem currentQty_of {p : FarmProduct} {m : Shop.Fields} (h : OfFields farmerId p m) :
    Shop.FirebaseHelper.currentQty m = pure (p.qty.getD 0) := by
  rw [Shop.FirebaseHelper.currentQty, h.qty]
  cases p.qty with
  | none => rfl
  | some n => rfl

theorem OfFields.deduct {p : FarmProduct} {m : Shop.Fields} (h : OfFields farmerId p m)
    (updatedQty : ℤ) :
    OfFields farmerId
      { p with
        qty := some updatedQty, isHidden := if updatedQty = 0 then true else p.isHidden }
      (m.merge (.ofList (if updatedQty = 0 then
        [("qty", .int updatedQty), ("isHidden", .bool true)]
      else [("qty", .int updatedQty)]))) := by
  split
  case isTrue hempty =>
    refine ⟨h.farmerId, Shop.Fields.merge_of_some rfl, ?_⟩
    rw [Shop.Fields.get, Shop.Fields.merge_of_some rfl]
    simp
  case isFalse hleft =>
    refine ⟨h.farmerId, Shop.Fields.merge_of_some rfl, ?_⟩
    rw [Shop.Fields.get_congr (Shop.Fields.merge_of_none rfl)]
    exact h.isHidden

theorem inStep_updateProductQty (farmerId productId : String) (orderedQty : ℤ) :
    InStep SameStock (fun _ _ => True)
      (FirebaseHelper.updateProductQty farmerId productId orderedQty)
      (Shop.FirebaseHelper.updateProductQty farmerId productId orderedQty) := by
  refine .tryCatch (.bind (inStep_checkPath farmerId) fun _ _ _ =>
    .bind (inStep_checkPath productId) fun _ _ _ =>
    .bind (V := Option.Rel (OfFields farmerId)) (.call fun w s h => ⟨h, .ok (h farmerId productId)⟩)
      fun product snapshot hsame => ?_) fun _ => .pure trivial
  cases hsame with
  | none => exact .pure trivial
  | @some p m hpm =>
    dsimp only
    rw [currentQty_of hpm]
    exact .call fun w s h => h.update fun p m hpm => hpm.deduct _

theorem inStep_updateProductToFarmer (uid : Uid) (productId : String) {qty : ℤ}
    {isHidden : Bool} {data : Shop.Fields} (hqty : data "qty" = some (.int qty))
    (hhidden : data "isHidden" = some (.bool isHidden)) :
    InStep SameStock (fun _ _ => True)
      (FirebaseHelper.updateProductToFarmer uid productId qty isHidden)
      (Shop.FirebaseHelper.updateProductToFarmer uid productId data none) :=
  .tryCatch (.bind (inStep_checkPath productId) fun _ _ _ => .call fun w s h =>
    h.update fun p m hpm => ⟨hpm.farmerId, Shop.Fields.merge_of_some hqty, by
      simp [Shop.Fields.get, Shop.Fields.merge_of_some hhidden]⟩) fun _ => .pure trivial

theorem inStep_deleteFarmProduct (uid : Uid) (productId : String) :
    InStep SameStock (fun _ _ => True) (FirebaseHelper.deleteFarmProduct uid productId)
      (Shop.FirebaseHelper.deleteFarmProduct uid productId) := by
  refine .tryCatch (.bind (inStep_checkPath productId) fun _ _ _ => .call fun w s h =>
    ⟨h.delete, ?_⟩) fun _ => .pure trivial
  rw [deleteProductDoc_ok]
  exact .ok trivial

def stockForm (form : Shop.ProductForm) : ProductForm where
  productId := form.productId
  productName := form.productName
  base64ProdImage := form.base64ProdImage
  productDescription := form.productDescription
  productPrice := form.productPrice
  productQty := form.productQty
  productQuality := form.productQuality

theorem validationError_stockForm (form : Shop.ProductForm) :
    AddProdController.validationError (stockForm form) =
      Shop.AddProdController.validationError form := by
  have price : (form.productPrice : ℚ) ≤ 0 ↔ form.productPrice ≤ 0 := Int.cast_nonpos
  unfold AddProdController.validationError Shop.AddProdController.validationError
  exact if_congr Iff.rfl rfl (if_congr Iff.rfl rfl (if_congr Iff.rfl rfl (if_congr price rfl rfl)))

theorem inStep_updateProduct (d : Device) (form : Shop.ProductForm) :
    InStep SameStock (fun _ _ => True) (AddProdController.updateProduct d (stockForm form))
      (Shop.AddProdController.updateProduct d form) := by
  refine .bind (V := fun _ _ => True) (.call fun w s h => ⟨h, .ok trivial⟩) fun _ _ _ => ?_
  rw [validationError_stockForm]
  cases Shop.AddProdController.validationError form with
  | some error => exact .pure trivial
  | none => exact inStep_updateProductToFarmer d.uid form.productId rfl rfl

inductive StockEvent where
  | order (farmerId productId : String) (orderedQty : ℤ)
  | updateProduct (d : Device) (form : Shop.ProductForm)
  | deleteProduct (d : Device) (productId : String)

def StockEvent.market : StockEvent → Program Unit
  | .order farmerId productId orderedQty =>
    FirebaseHelper.updateProductQty farmerId productId orderedQty
  | .updateProduct d form => AddProdController.updateProduct d (stockForm form)
  | .deleteProduct d productId => AddProdController.deleteProduct d productId

def StockEvent.shop : StockEvent → Shop.ShopEvent
  | .order farmerId productId orderedQty => .order farmerId productId orderedQty
  | .updateProduct d form => .updateProduct d form
  | .deleteProduct d productId => .deleteProduct d productId

variable (table : Char → List Char) (ids : IdSupply)

theorem inStep_events (e : StockEvent) :
    e.market.task.InStep SameStock (Shop.shopHandler table ids e.shop) := by
  cases e with
  | order farmerId productId orderedQty =>
    exact (inStep_updateProductQty farmerId productId orderedQty).task
  | updateProduct d form => exact (inStep_updateProduct d form).task
  | deleteProduct d productId => exact (inStep_deleteFarmProduct d.uid productId).task

/-- From the same stock, orders, edits and deletions go the same way in the market and in the
shop, in any order of their calls and whichever of these are lost. -/
theorem same_stock (h : SameStock w s) (ms : List (Move StockEvent)) :
    Option.Rel (Pool.InStep SameStock)
      (exec (fun e : StockEvent => e.market.task) (⟨w, []⟩ : Pool World Access Bool) ms)
      (exec (fun e : StockEvent => Shop.shopHandler table ids e.shop) ⟨s, []⟩ ms) :=
  Pool.InStep.exec (inStep_events table ids) ⟨h, .nil⟩ ms

theorem OfFields.recordId {p : FarmProduct} {m : Shop.Fields} (h : OfFields farmerId p m)
    (docRef : String) : OfFields farmerId p (m.set "id" (.text docRef)) := by
  have kept {k : String} (hk : k ≠ "id") : m.set "id" (.text docRef) k = m k :=
    Shop.Fields.set_of_ne hk
  refine ⟨h.farmerId, (kept (by decide)).trans h.qty, ?_⟩
  rw [Shop.Fields.get_congr (kept (by decide))]
  exact h.isHidden

theorem inStep_recordId (uid : Uid) (docRef : String) :
    InStep SameStock (fun _ _ => True)
      (call .plain (FirebaseHelper.updateFarmProduct uid docRef fun p => p) .firestore :
        Program Unit)
      (call .plain (Shop.FirebaseHelper.updateProductDoc uid docRef (·.set "id" (.text docRef)))
        .firestore : Shop.ShopProgram Unit) :=
  .call fun _ _ h => h.update fun _ _ hpm => hpm.recordId docRef

/-- A new product, under an id that no product has. -/
theorem same_stock_post (h : SameStock w s) (hfree : w.products id = none) (d : Device)
    (form : Shop.ProductForm) (o : List Bool) :
    SameStock ((AddProdController.postProducts d (stockForm form) id).task.told o w).1
      ((Shop.AddProdController.postProducts d form id).task.told o s).1 := by
  unfold AddProdController.postProducts Shop.AddProdController.postProducts
  simp only [Async.task, bind_run, call_run, Task.told]
  split
  case isFalse => exact h
  case isTrue =>
    rw [validationError_stockForm]
    cases Shop.AddProdController.validationError form with
    | some error => exact h
    | none =>
      unfold FirebaseHelper.addProductToFarmer Shop.FirebaseHelper.addProductToFarmer
      simp only [tryCatch_run, bind_run, call_run, Task.told]
      split
      case isFalse => exact h
      case isTrue => exact ((inStep_recordId d.uid id).task.told _ (h.add hfree rfl rfl)).1

end Gherass.StockViews
