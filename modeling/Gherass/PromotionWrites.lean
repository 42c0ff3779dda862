import Gherass.ShopControllers

set_option autoImplicit false

/-!
# What a promotion writes into its product

A promotion writes the whole record of the product back, as it was when it was loaded.
-/
namespace Gherass.Shop

open EventLoop EventLoop.Async Gherass.Shop.FirebaseHelper

def SameRest (m m' : Fields) : Prop := ∀ k ∉ discountFields, m' k = m k

def PromotionWrite.Current (r : PromotionWrite) : Prop :=
  ∀ k ∉ discountFields, ∀ v, r.loaded k = some v → r.before k = some v

/-- The maps at hand are the loaded ones but for the discount, and a write that changed nothing
    else was made from a current one. -/
structure DiscountOnly (w : ShopWorld) : Prop where
  maps : ∀ d, ∀ m ∈ (w.apps d).maps, SameRest m.loaded m.fields
  writes : ∀ r ∈ w.promotionWrites, SameRest r.before r.after ↔ r.Current

def discountOnly : Contract ShopWorld ShopAccess where
  inv := DiscountOnly
  rel _ _ := True
  shows _ _ := True
  refl _ := trivial
  trans _ _ := trivial

theorem SameRest.refl (m : Fields) : SameRest m m := fun _ _ => rfl

theorem keeps_same {f : ShopWorld → ShopWorld} (happs : ∀ w, (f w).apps = w.apps)
    (hwrites : ∀ w, (f w).promotionWrites = w.promotionWrites) : discountOnly.Keeps f :=
  fun w hw => ⟨⟨happs w ▸ hw.maps, hwrites w ▸ hw.writes⟩, trivial⟩

theorem keeps_setApp (d : Device) {f : FarmerApp → FarmerApp}
    (hf : ∀ a : FarmerApp, (∀ m ∈ a.maps, SameRest m.loaded m.fields) →
      ∀ m ∈ (f a).maps, SameRest m.loaded m.fields) :
    discountOnly.Keeps fun w => w.setApp d f := by
  refine fun w hw => ⟨⟨fun d' m hm => ?_, hw.writes⟩, trivial⟩
  by_cases hd : d' = d
  · subst hd
    simp only [ShopWorld.setApp, Function.update_self] at hm
    exact hf _ (hw.maps d') m hm
  · simp only [ShopWorld.setApp, Function.update_of_ne hd] at hm
    exact hw.maps d' m hm

theorem keeps_setPromotions (d : Device) (f : PromotionsController → PromotionsController) :
    discountOnly.Keeps fun w => w.setPromotions d f := keeps_setApp d fun _ h => h

theorem keeps_updateProductDoc (farmerId productId : String) (f : Fields → Fields) :
    discountOnly.Keeps fun w => (updateProductDoc farmerId productId f w).1 := by
  refine keeps_same (fun w => ?_) fun w => ?_
  · unfold updateProductDoc
    split
    · rfl
    · rfl
  · unfold updateProductDoc
    split
    · rfl
    · rfl

theorem keeps_updatePromotionDoc (uid docId : String) (f : PromotionDoc → PromotionDoc) :
    discountOnly.Keeps fun w => (updatePromotionDoc uid docId f w).1 := by
  refine keeps_same (fun w => ?_) fun w => ?_
  · unfold updatePromotionDoc
    split
    · rfl
    · rfl
  · unfold updatePromotionDoc
    split
    · rfl
    · rfl

theorem keeps_withDiscount (d : Device) (ref : ℕ) (c : PromotionsController) :
    discountOnly.Keeps fun w => w.setMap d ref (PromotionsController.withDiscount c) := by
  refine keeps_setApp d fun a ha m hm => ?_
  obtain ⟨i, hi⟩ := List.mem_iff_getElem?.1 hm
  rw [List.getElem?_modify] at hi
  obtain ⟨m', hm', rfl⟩ := Option.map_eq_some_iff.1 hi
  have loaded := ha m' (List.mem_of_getElem? hm')
  split
  case isTrue =>
    intro k hk
    have hprice : k ≠ "discount_price" := fun h => hk (by simp [h, discountFields])
    have hends : k ≠ "discount_end_date" := fun h => hk (by simp [h, discountFields])
    have same : PromotionsController.withDiscount c m'.fields k = m'.fields k :=
      (Fields.set_of_ne hends).trans (Fields.set_of_ne hprice)
    exact same.trans (loaded k hk)
  case isFalse => exact loaded

section Quiet

variable {α : Type}

theorem quiet_query (l : ShopAccess) (f : ShopWorld → α) : Quiet discountOnly (query l f) :=
  .call (Contract.keeps_id _) fun _ _ => trivial

theorem quiet_checkDoc (id : String) : Quiet discountOnly (checkDoc id) := by
  unfold checkDoc
  split
  · exact .throw _
  · exact .pure ()

theorem quiet_swallow {m : ShopProgram Unit} (h : Quiet discountOnly m) :
    Quiet discountOnly (tryCatch m fun _ => pure ()) := h.tryCatch fun _ => .pure ()

theorem quiet_getCurrentUserInfoById (userId : Uid) (userTypeId : LogInType) :
    Quiet discountOnly (getCurrentUserInfoById userId userTypeId) :=
  (quiet_query _ _).tryCatch fun _ => .pure none

theorem quiet_fetchFarmerProducts (farmerId : String) :
    Quiet discountOnly (fetchFarmerProducts farmerId) := by
  refine .tryCatch (.bind (quiet_checkDoc _) fun _ => .bind (quiet_query _ _) fun docs => ?_)
    fun _ => .pure none
  split
  · exact .pure none
  · exact .pure _

theorem quiet_clearEach (uid : Uid) (ids : List String) :
    Quiet discountOnly (clearEach uid ids) := by
  induction ids with
  | nil => exact .pure ()
  | cons id ids ih =>
    exact .bind (.call (keeps_updateProductDoc _ _ _) fun _ _ => trivial) fun _ => ih

theorem quiet_removeExpiredFields (uid : Uid) (date : String) :
    Quiet discountOnly (removeExpiredFields uid date) :=
  .bind (quiet_query _ _) fun docs => quiet_clearEach uid docs

theorem quiet_deleteEach (uid : Uid) (ids : List String) :
    Quiet discountOnly (deleteEach uid ids) := by
  induction ids with
  | nil => exact .pure ()
  | cons id ids ih =>
    exact .bind (.call (keeps_same (fun _ => rfl) fun _ => rfl) fun _ _ => trivial) fun _ => ih

theorem quiet_fetchFarmerPromotions (farmerId : Uid) :
    Quiet discountOnly (fetchFarmerPromotions farmerId) := by
  refine .tryCatch (.bind (quiet_query _ _) fun docs => ?_) fun _ => .pure none
  split
  · exact .pure none
  · exact .pure _

theorem quiet_getPromotionsList (d : Device) :
    Quiet discountOnly (PromotionsController.getPromotionsList d) := by
  refine quiet_swallow (.bind (.look _) fun date => .bind
    (.bind (quiet_query _ _) fun docs => quiet_deleteEach d.uid docs) fun _ =>
      .bind (quiet_fetchFarmerPromotions _) fun response => ?_)
  cases response with
  | some docs => exact .change (keeps_setPromotions d _)
  | none => exact .pure ()

theorem quiet_getFarmerProducts (table : Char → List Char) (p : ℕ) (d : Device) :
    Quiet discountOnly (ProductController.getFarmerProducts table p d) := by
  refine quiet_swallow (.bind (.look _) fun farmerId => ?_)
  split
  case isTrue => exact .pure ()
  case isFalse =>
    refine .bind (.bind (quiet_getCurrentUserInfoById _ _) fun _ =>
      .change (keeps_same (fun _ => rfl) fun _ => rfl)) fun _ => .bind (.look _) fun date =>
        .bind (quiet_removeExpiredFields _ _) fun _ => .bind (.look _) fun farmerId' =>
          .bind (quiet_fetchFarmerProducts _) fun response => ?_
    cases response with
    | some docs => exact .change (keeps_same (fun _ => rfl) fun _ => rfl)
    | none => exact .pure ()

theorem quiet_getInventoryProducts (d : Device) :
    Quiet discountOnly (InventoryController.getInventoryProducts d) := by
  refine quiet_swallow (.bind (quiet_fetchFarmerProducts _) fun response => ?_)
  cases response with
  | some docs =>
    refine .change (keeps_setApp d fun a ha m hm => ?_)
    rcases List.mem_append.1 hm with hm | hm
    · exact ha m hm
    · obtain ⟨m', -, rfl⟩ := List.mem_map.1 hm
      exact .refl m'
  | none => exact .pure ()

theorem quiet_updateProductQty (farmerId productId : String) (orderedQty : ℤ) :
    Quiet discountOnly (updateProductQty farmerId productId orderedQty) := by
  refine quiet_swallow (.bind (quiet_checkDoc _) fun _ => .bind (quiet_checkDoc _) fun _ =>
    .bind (quiet_query _ _) fun snapshot => ?_)
  cases snapshot with
  | none => exact .pure ()
  | some productSnapshot =>
    refine .bind ?_ fun qty => .call (keeps_updateProductDoc _ _ _) fun _ _ => trivial
    unfold currentQty
    split
    · exact .throw _
    · exact .pure _
    · exact .pure _
    · exact .throw _

theorem quiet_postProducts (d : Device) (form : ProductForm) (id : String) :
    Quiet discountOnly (AddProdController.postProducts d form id) := by
  refine .bind (.call (Contract.keeps_id _) fun _ _ => trivial) fun _ => ?_
  split
  · exact .pure ()
  · exact quiet_swallow (.bind (.call (keeps_same (fun _ => rfl) fun _ => rfl) fun _ _ => trivial)
      fun _ => .call (keeps_updateProductDoc _ _ _) fun _ _ => trivial)

theorem quiet_updateProduct (d : Device) (form : ProductForm) :
    Quiet discountOnly (AddProdController.updateProduct d form) := by
  refine .bind (.call (Contract.keeps_id _) fun _ _ => trivial) fun _ => ?_
  split
  · exact .pure ()
  · exact quiet_swallow (.bind (quiet_checkDoc _) fun _ =>
      .call (keeps_updateProductDoc _ _ _) fun _ _ => trivial)

theorem quiet_deletePromotion (d : Device) :
    Quiet discountOnly (PromotionsController.deletePromotion d) :=
  quiet_swallow (.bind (.look _) fun _ => .bind
    (quiet_swallow (.bind (quiet_checkDoc _) fun _ =>
      .call (keeps_same (fun _ => rfl) fun _ => rfl) fun _ _ => trivial)) fun _ =>
    .bind (.change (keeps_setPromotions d _)) fun _ => .spawn (quiet_getPromotionsList d))

end Quiet

section Writes

variable {g : Guard ShopWorld ShopAccess ShopEvent}

theorem merge_sameRest {m data loaded : Fields} (hdata : SameRest loaded data) :
    SameRest m (m.merge data) ↔ PromotionWrite.Current ⟨loaded, m, m.merge data⟩ := by
  constructor
  · intro h k hk v hv
    have stored : m.merge data k = some v := Fields.merge_of_some ((hdata k hk).trans hv)
    exact (h k hk).symm.trans stored
  · intro h k hk
    cases hk' : data k with
    | none => exact Fields.merge_of_none hk'
    | some v =>
      have before : m k = some v := h k hk v ((hdata k hk).symm.trans hk')
      rw [Fields.merge_of_some hk', before]

theorem keeps_promoteDoc (uid productId : String) {data loaded : Fields}
    (hdata : SameRest loaded data) :
    discountOnly.Keeps fun w => (promoteDoc uid productId data loaded w).1 := by
  refine fun w hw => ⟨?_, trivial⟩
  dsimp only [promoteDoc]
  split
  case h_2 => exact hw
  case h_1 m hm =>
    refine ⟨hw.maps, fun r hr => ?_⟩
    rcases List.mem_cons.1 hr with rfl | hr
    · exact merge_sameRest hdata
    · exact hw.writes r hr

theorem quiet_writeProduct (uid : Uid) (productId : String) {data loaded : Fields}
    (hdata : SameRest loaded data) :
    Quiet discountOnly (updateProductToFarmer uid productId data (some loaded)) :=
  quiet_swallow (.bind (quiet_checkDoc _) fun _ =>
    .call (keeps_promoteDoc uid productId hdata) fun _ _ => trivial)

theorem spec_writeSelected (d : Device) :
    Spec discountOnly g (fun _ => True) (PromotionsController.writeSelected d)
      (fun _ _ => True) fun _ _ => True := by
  refine .bind (Quiet.look _).spec fun c => .bind
    (R := fun selected _ => SameRest selected.loaded selected.fields)
    (.look fun s hs _ => ?_) fun selected => ?_
  · cases hm : s.map? d c.selectedProduct with
    | none => exact .refl _
    | some m => exact hs.maps d m (List.mem_of_getElem? hm)
  · -- the record of the selected product is fixed from here on
    intro k h s hs hsel hk hh
    refine Quiet.spec (P := fun _ => True) ?_ k h s hs trivial hk hh
    exact .bind (quiet_writeProduct d.uid c.selectedProductId hsel) fun _ =>
      .bind (.spawn (quiet_getPromotionsList d)) fun _ => .change (keeps_setPromotions d _)

theorem spec_create (ids : IdSupply) (d : Device) :
    Spec discountOnly g (fun _ => True) (PromotionsController.createPromotion ids d)
      (fun _ _ => True) fun _ _ => True := by
  refine .bind (Quiet.look _).spec fun c => ?_
  split
  · exact .pure fun _ h => h
  · refine .bind (Quiet.change (keeps_withDiscount d _ c)).spec fun _ =>
      .tryCatch (F := fun _ _ => True) (.bind ?_ fun _ => spec_writeSelected d)
        fun _ => .pure fun _ h => h
    exact (quiet_swallow (.bind (.call (keeps_same (fun _ => rfl) fun _ => rfl) fun _ _ => trivial)
      fun _ => .call (keeps_updatePromotionDoc _ _ _) fun _ _ => trivial)).spec

theorem spec_update (d : Device) :
    Spec discountOnly g (fun _ => True) (PromotionsController.updatePromotions d)
      (fun _ _ => True) fun _ _ => True := by
  refine .bind (Quiet.look _).spec fun c => ?_
  split
  · exact .pure fun _ h => h
  · refine .bind (Quiet.change (keeps_withDiscount d _ c)).spec fun _ =>
      .tryCatch (F := fun _ _ => True) (.bind ?_ fun _ => spec_writeSelected d)
        fun _ => .pure fun _ h => h
    exact (quiet_swallow (.bind (quiet_checkDoc _) fun _ =>
      .call (keeps_updatePromotionDoc _ _ _) fun _ _ => trivial)).spec

theorem shopHandler_safe (table : Char → List Char) (ids : IdSupply) (e : ShopEvent)
    {s : ShopWorld} (hs : DiscountOnly s) :
    (shopHandler table ids e).Safe discountOnly g s := by
  have quiet {m : ShopProgram Unit} (h : Quiet discountOnly m) :
      m.task.Safe discountOnly g s := h.safe hs
  cases e with
  | createPromotion d => exact (spec_create ids d).safe hs trivial
  | updatePromotions d => exact (spec_update d).safe hs trivial
  | openFarm p d farmerId =>
    exact quiet (.bind (.change (keeps_same (fun _ => rfl) fun _ => rfl)) fun _ =>
      quiet_getFarmerProducts table p d)
  | getInventoryProducts d => exact quiet (quiet_getInventoryProducts d)
  | buildItem d index =>
    refine quiet (.change (keeps_setApp d fun a ha m hm => ha m ?_))
    unfold InventoryController.buildItem at hm
    split at hm
    · split at hm
      · exact hm
      · exact hm
    · exact hm
  | selectItem d index =>
    refine quiet (.change (keeps_setApp d fun a ha m hm => ha m ?_))
    unfold InventoryController.selectItem at hm
    split at hm
    · exact hm
    · exact hm
  | getPromotionsList d => exact quiet (quiet_getPromotionsList d)
  | newPromotion d => exact quiet (.change (keeps_setPromotions d _))
  | openPromotion d index => exact quiet (.change (keeps_setPromotions d _))
  | fillForm d startDate endDate promotionDescription promotionNewPrice =>
    exact quiet (.change (keeps_setPromotions d _))
  | deletePromotion d => exact quiet (quiet_deletePromotion d)
  | order farmerId productId orderedQty =>
    exact quiet (quiet_updateProductQty farmerId productId orderedQty)
  | postProducts d form id => exact quiet (quiet_postProducts d form id)
  | updateProduct d form => exact quiet (quiet_updateProduct d form)
  | deleteProduct d productId =>
    exact quiet (quiet_swallow (.bind (quiet_checkDoc _) fun _ =>
      .call (keeps_same (fun _ => rfl) fun _ => rfl) fun _ _ => trivial))
  | nextDay now => exact quiet (.change (keeps_same (fun _ => rfl) fun _ => rfl))

end Writes

/-- The promotions that were written changed nothing but the discount of their product. -/
def discountsOnly (w : ShopWorld) : Prop := ∀ r ∈ w.promotionWrites, SameRest r.before r.after

/-- They were written from records that their product had not overtaken. -/
def recordsCurrent (w : ShopWorld) : Prop := ∀ r ∈ w.promotionWrites, r.Current

/-- In every run, promotions change nothing but the discount exactly if each of them is written
    from a record that its product has not overtaken. -/
theorem promotions_write_discount {table : Char → List Char} {ids : IdSupply} {u : ShopWorld}
    (happs : ∀ d, u.apps d = {}) (hwrites : u.promotionWrites = [])
    {w : Pool ShopWorld ShopAccess Bool}
    (run : Run (shopHandler table ids) .free ⟨u, []⟩ w) :
    discountsOnly w.state ↔ recordsCurrent w.state := by
  have start : DiscountOnly u := by
    refine ⟨fun d m hm => ?_, fun r hr => ?_⟩
    · rw [happs] at hm
      obtain rfl := List.mem_singleton.1 hm
      exact .refl _
    · rw [hwrites] at hr
      cases hr
  have safe : Pool.Safe discountOnly (Guard.free : Guard ShopWorld ShopAccess ShopEvent)
      (⟨u, []⟩ : Pool ShopWorld ShopAccess Bool) := ⟨start, fun _ hx => by cases hx⟩
  have writes := (run.safe (fun e s hs _ => shopHandler_safe table ids e hs) safe).1.1.writes
  exact forall₂_congr writes

def figsInStock : Fields :=
  .ofList [("id", .text "figs"), ("name", .text "Figs"), ("price", .int 8), ("qty", .int 5)]

def figShop : ShopWorld where
  products := fun farmerId => if farmerId = "farmer" then .ofList [("figs", figsInStock)] else ∅

def figSeller : Device := ⟨⟨"farmer", farmer_ne_empty⟩, .farmer, 0⟩

def figsSelected : List (Move ShopEvent) :=
  [.start (.getInventoryProducts figSeller), .serve 0, .resume 0, .start (.selectItem figSeller 0),
    .start (.fillForm figSeller "2025-01-01" "2025-02-01" "Sale" "4")]

def figsPromoted : List (Move ShopEvent) :=
  [.start (.createPromotion figSeller), .serve 0, .resume 0, .serve 0, .resume 0, .serve 0]

def figsSold : List (Move ShopEvent) :=
  [.start (.order "farmer" "figs" 2), .serve 0, .resume 0, .serve 0, .resume 0]

def figRun (moves : List (Move ShopEvent)) : ShopWorld :=
  ((⟨figShop, []⟩ : Pool ShopWorld ShopAccess Bool).after (shopHandler (fun c => [c])
    IdSupply.longer) moves).state

theorem promotions_write_discount_figs :
    (figRun (figsSelected ++ figsPromoted)).promotionWrites.length = 1 ∧
      (discountsOnly (figRun (figsSelected ++ figsPromoted)) ↔
        recordsCurrent (figRun (figsSelected ++ figsPromoted))) :=
  ⟨by decide +kernel, promotions_write_discount (fun _ => rfl) rfl
    (Run.after_free (by decide +kernel))⟩

/-- The promotion brings back the two kilos that were sold in between. -/
theorem promotion_restores_stock : ¬ ∀ (table : Char → List Char) (ids : IdSupply) (u : ShopWorld)
    (moves : List (Move ShopEvent)) (w : Pool ShopWorld ShopAccess Bool), (∀ d, u.apps d = {}) →
    u.promotionWrites = [] → exec (shopHandler table ids) ⟨u, []⟩ moves = some w →
    discountsOnly w.state := by
  intro h
  have only : discountsOnly (figRun (figsSelected ++ figsSold ++ figsPromoted)) :=
    h _ _ figShop _ _ (fun _ => rfl) rfl (exec_after (by decide +kernel))
  have restored : (figRun (figsSelected ++ figsSold ++ figsPromoted)).promotionWrites.any
      (fun r => r.after "qty" ≠ r.before "qty") = true := by decide +kernel
  obtain ⟨r, hr, hqty⟩ := List.any_eq_true.1 restored
  exact of_decide_eq_true hqty (only r hr "qty" (by decide))

end Gherass.Shop
