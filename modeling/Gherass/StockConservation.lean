import Gherass.StockAccounts

set_option autoImplicit false

/-!
# Stock supplied, stored and ordered

Events happen one after another. An order takes its quantities from the stock, as far as
there is any, and nothing gives them back.
-/
namespace Gherass

open EventLoop EventLoop.Async FirebaseHelper

def Event.supply (productId : String) (s t : World) : Event → ℤ
  | .editProduct _ _ => t.stock productId - s.stock productId
  | .deleteProduct _ _ => t.stock productId - s.stock productId
  | _ => 0

/-- What the edits and deletions of a run add to the supply of a product. -/
def restocked (handler : Event → Task World Access Bool) (productId : String) :
    World → List (Event × (Access → Bool)) → ℤ
  | _, [] => 0
  | s, turn :: turns =>
    let t := ((handler turn.1).alone turn.2 s).2
    turn.1.supply productId s t + restocked handler productId t turns

def orderWithinStock (flow : StatusLists) : Event → (Access → Bool) → World → Prop
  | .placeOrder d, ok, s =>
    readyToPost flow d s → (∀ l, ok l = true) ∧ covered (s.cartPages d).shown s
  | _, _, _ => True

def orderAvailable (flow : StatusLists) : Event → (Access → Bool) → World → Prop
  | .placeOrder d, ok, s => readyToPost flow d s →
    (∀ l, ok l = true) ∧ covered (s.cartPages d).shown s ∧ ∀ p ∈ (s.cartPages d).shown, 0 ≤ p.qty
  | _, _, _ => True

theorem orderAvailable.withinStock {flow : StatusLists} {e : Event} {ok : Access → Bool}
    {s : World} (h : orderAvailable flow e ok s) : orderWithinStock flow e ok s := by
  cases e with
  | placeOrder d => exact fun hready => ⟨(h hready).1, (h hready).2.1⟩
  | _ => trivial

section Editing

def stockNonneg : Contract World Access :=
  ⟨fun w => ∀ id, 0 ≤ w.stock id, fun _ _ => True, fun _ _ => True, fun _ => trivial,
    fun _ _ => trivial⟩

def sameOrdered : Contract World Access := .ofFrame World.ordered

theorem keepsStock_sameOrdered : KeepsStock sameOrdered where
  plain _ _ := trivial
  shows _ _ _ _ _ := trivial
  audits _ _ _ := ⟨trivial, rfl⟩
  stock farmerId productId _ _ :=
    keeps_updateFarmProduct (fun _ _ _ => ⟨trivial, rfl⟩) farmerId productId _
  deletes := keeps_deleteProductDoc fun _ _ _ => ⟨trivial, rfl⟩

theorem quiet_editProduct_nonneg (d : Device) (form : ProductForm) :
    Quiet stockNonneg (AddProdController.updateProduct d form) := by
  refine .bind (.call stockNonneg.keeps_id fun _ _ => trivial) fun _ => ?_
  cases hform : AddProdController.validationError form with
  | some error => exact .pure _
  | none =>
    refine .tryCatch (.bind (quiet_checkPath _) fun _ =>
      .call (fun s hs => ⟨fun id => ?_, trivial⟩) fun _ _ => trivial) fun _ => .pure _
    have hold := hs id
    simp only [updateFarmProduct]
    split
    · split
      · simp only [World.stock, Function.update_apply]
        split
        · exact Int.le_of_lt (AddProdController.validationError_qty hform)
        · exact hold
      · exact hold
    · exact hold

theorem quiet_deleteProduct_nonneg (d : Device) (productId : String) :
    Quiet stockNonneg (AddProdController.deleteProduct d productId) := by
  refine .tryCatch (.bind (quiet_checkPath _) fun _ =>
    .call (fun s hs => ⟨fun id => ?_, trivial⟩) fun _ _ => trivial) fun _ => .pure _
  have hold := hs id
  simp only [deleteProductDoc]
  split
  · split
    · simp only [World.stock, Function.update_apply]
      split
      · exact Int.le_refl 0
      · exact hold
    · exact hold
  · exact hold

end Editing

section Runs

variable {flow : StatusLists} {ids : IdSupply} {ok : Access → Bool} {s : World}

theorem turn_edit (ok : Access → Bool) (d : Device) (form : ProductForm)
    (hs : ∀ id, 0 ≤ s.stock id) (id : String) :
    0 ≤ ((handler flow ids (.editProduct d form)).alone ok s).2.stock id ∧
      ((handler flow ids (.editProduct d form)).alone ok s).2.ordered id = s.ordered id :=
  ⟨((quiet_editProduct_nonneg d form).alone hs).1 id,
    congrFun ((quiet_editProduct keepsStock_sameOrdered.toKeepsProducts d form).alone trivial).2 id⟩

theorem turn_delete (ok : Access → Bool) (d : Device) (productId : String)
    (hs : ∀ id, 0 ≤ s.stock id) (id : String) :
    0 ≤ ((handler flow ids (.deleteProduct d productId)).alone ok s).2.stock id ∧
      ((handler flow ids (.deleteProduct d productId)).alone ok s).2.ordered id = s.ordered id :=
  ⟨((quiet_deleteProduct_nonneg d productId).alone hs).1 id,
    congrFun ((quiet_deleteProduct keepsStock_sameOrdered.toKeepsProducts d productId).alone trivial).2 id⟩

theorem turn_place (d : Device) (hs : ∀ id, 0 ≤ s.stock id)
    (h : orderWithinStock flow (.placeOrder d) ok s) (id : String) {t : World}
    (ht : ((handler flow ids (.placeOrder d)).alone ok s).2 = t) :
    0 ≤ t.stock id ∧ t.stock id + t.ordered id ≤ s.stock id + s.ordered id ∧
      (orderAvailable flow (.placeOrder d) ok s →
        t.stock id + t.ordered id = s.stock id + s.ordered id) := by
  cases hposted : posted flow ok d s with
  | none =>
    rw [placeOrder_alone (by rw [hposted]; rfl)] at ht
    subst ht
    exact ⟨hs id, Int.le_refl _, fun _ => rfl⟩
  | some o =>
    have hready : readyToPost flow d s := by
      rw [← posted_isSome ok, hposted]
      rfl
    obtain ⟨through, hcovered⟩ := h hready
    have hstock : t.stock id = (deductLines (s.cartPages d).shown s).stock id := by
      rw [World.stock, World.stock, ← ht,
        placeOrder_products hposted (through _) fun _ _ _ => through _]
    have hordered : t.ordered id = cartQty id (s.cartPages d).shown + s.ordered id := by
      rw [World.ordered, ← ht, placeOrder_orders hposted, ← World.ordered,
        placed_ordered (through _), posted_details hposted, linesQty_lineOf]
    obtain ⟨hle, heq⟩ := deductLines_covered hcovered id
    rw [hstock, hordered]
    refine ⟨deductLines_nonneg (hs id), by omega, fun hall => ?_⟩
    have := heq (hall hready).2.2
    omega

theorem turn_accounts (ids : IdSupply) (e : Event) (hs : ∀ id, 0 ≤ s.stock id)
    (h : orderWithinStock flow e ok s) (id : String) {t : World}
    (ht : ((handler flow ids e).alone ok s).2 = t) : 0 ≤ t.stock id ∧
      t.stock id + t.ordered id ≤ s.stock id + s.ordered id + e.supply id s t ∧
      (orderAvailable flow e ok s →
        t.stock id + t.ordered id = s.stock id + s.ordered id + e.supply id s t) := by
  have quiet : e.MovesNoStock → e.supply id s t = 0 → 0 ≤ t.stock id ∧
      t.stock id + t.ordered id ≤ s.stock id + s.ordered id + e.supply id s t ∧
      (orderAvailable flow e ok s →
        t.stock id + t.ordered id = s.stock id + s.ordered id + e.supply id s t) :=
    fun he hsupply => by
      obtain ⟨hp, ho⟩ := sameAccounts_alone flow ids ok s he
      have hstock : t.stock id = s.stock id := by rw [← ht, World.stock, hp, World.stock]
      have hordered : t.ordered id = s.ordered id := by rw [← ht, ho]
      have := hs id
      rw [hstock, hordered, hsupply]
      exact ⟨this, by omega, fun _ => by omega⟩
  cases e with
  | placeOrder d =>
    obtain ⟨hpos, hle, heq⟩ := turn_place d hs h id ht
    simp only [Event.supply, add_zero]
    exact ⟨hpos, hle, heq⟩
  | editProduct d form =>
    obtain ⟨hpos, hordered⟩ := turn_edit ok d form hs id
    rw [ht] at hpos hordered
    simp only [Event.supply, hordered]
    exact ⟨hpos, by omega, fun _ => by omega⟩
  | deleteProduct d productId =>
    obtain ⟨hpos, hordered⟩ := turn_delete ok d productId hs id
    rw [ht] at hpos hordered
    simp only [Event.supply, hordered]
    exact ⟨hpos, by omega, fun _ => by omega⟩
  | _ => exact quiet trivial rfl

theorem run_accounts {turns : List (Event × (Access → Bool))} {u : World}
    (hu : ∀ id, 0 ≤ u.stock id)
    (h : EachMeets (handler flow ids) (orderWithinStock flow) u turns) (id : String) {v : World}
    (hv : runEach (handler flow ids) u turns = v) : 0 ≤ v.stock id ∧
      v.stock id + v.ordered id ≤
        u.stock id + u.ordered id + restocked (handler flow ids) id u turns ∧
      (EachMeets (handler flow ids) (orderAvailable flow) u turns → v.stock id + v.ordered id =
        u.stock id + u.ordered id + restocked (handler flow ids) id u turns) := by
  induction turns generalizing u with
  | nil =>
    subst hv
    simp only [runEach, restocked, add_zero]
    exact ⟨hu id, Int.le_refl _, fun _ => trivial⟩
  | cons turn turns ih =>
    obtain ⟨-, hle, heq⟩ := turn_accounts ids turn.1 hu h.1 id rfl
    obtain ⟨hpos, hle', heq'⟩ := ih (fun i => (turn_accounts ids turn.1 hu h.1 i rfl).1) h.2 hv
    simp only [restocked]
    refine ⟨hpos, by omega, fun hall => ?_⟩
    have := heq hall.1
    have := heq' hall.2
    omega

end Runs

/-- No more of a product is ordered than was in stock and has been supplied since, if every
    order is posted when its lines are within the stock. -/
theorem ordered_le_supplied {flow : StatusLists} {ids : IdSupply}
    {turns : List (Event × (Access → Bool))} {u : World} (hu : ∀ id, 0 ≤ u.stock id)
    (h : EachMeets (handler flow ids) (orderWithinStock flow) u turns) (id : String) :
    (runEach (handler flow ids) u turns).ordered id ≤
      u.stock id + u.ordered id + restocked (handler flow ids) id u turns := by
  obtain ⟨hpos, hle, -⟩ := run_accounts hu h id rfl
  omega

theorem stock_datesMarket (id : String) : 0 ≤ datesMarket.stock id := by
  unfold World.stock datesMarket
  dsimp only
  split
  · decide
  · decide

def moreDates : ProductForm :=
  ⟨"dates", "Dates", "image", "Fresh dates", 4, 12, "A"⟩

def restockedBetween : List Event :=
  fillCart aCustomer 3 ++ [.placeOrder aCustomer, .editProduct aFarmer moreDates] ++
    fillCart anotherCustomer 8 ++ [.placeOrder anotherCustomer]

theorem orderWithinStock_restocked :
    EachMeets smallHandler (orderWithinStock smallFlow.toStatusLists) datesMarket
      (undisturbed restockedBetween) :=
  ⟨trivial, trivial, trivial, fun _ => ⟨fun _ => rfl, by decide +kernel⟩, trivial, trivial,
    trivial, trivial, fun _ => ⟨fun _ => rfl, by decide +kernel⟩, trivial⟩

theorem ordered_le_supplied_restocked :
    (runEach smallHandler datesMarket (undisturbed restockedBetween)).ordered "dates" ≤
      datesMarket.stock "dates" + datesMarket.ordered "dates" +
        restocked smallHandler "dates" datesMarket (undisturbed restockedBetween) :=
  ordered_le_supplied stock_datesMarket orderWithinStock_restocked "dates"

/-- Both carts are filled while there are ten kilos; the second order for eight comes when
    two are left. -/
theorem oversold : ¬ ∀ (u : World) (events : List Event), (∀ id, 0 ≤ u.stock id) →
    ∀ id, (runEach smallHandler u (undisturbed events)).ordered id ≤
      u.stock id + u.ordered id + restocked smallHandler id u (undisturbed events) := by
  intro h
  have := h datesMarket (fillCart aCustomer 8 ++ fillCart anotherCustomer 8 ++
    [.placeOrder aCustomer, .placeOrder anotherCustomer]) stock_datesMarket "dates"
  exact absurd this (by decide +kernel)

/-- Stock and orders, whatever has become of them, add up to what was supplied. -/
theorem stock_conserved {flow : StatusLists} {ids : IdSupply}
    {turns : List (Event × (Access → Bool))} {u : World} (hu : ∀ id, 0 ≤ u.stock id)
    (h : EachMeets (handler flow ids) (orderAvailable flow) u turns) (id : String) :
    (runEach (handler flow ids) u turns).stock id +
      (runEach (handler flow ids) u turns).ordered id =
        u.stock id + u.ordered id + restocked (handler flow ids) id u turns :=
  (run_accounts hu (h.mono fun _ _ _ => orderAvailable.withinStock) id rfl).2.2 h

def orderedAndRejected : List Event :=
  fillCart aCustomer 3 ++ [.placeOrder aCustomer, .openOrders aFarmer,
    .selectOrder aFarmer false 0, .pressReject aFarmer]

theorem orderAvailable_rejected :
    EachMeets smallHandler (orderAvailable smallFlow.toStatusLists) datesMarket
      (undisturbed orderedAndRejected) :=
  ⟨trivial, trivial, trivial, fun _ => ⟨fun _ => rfl, by decide +kernel, by decide +kernel⟩,
    trivial, trivial, trivial, trivial⟩

theorem stock_conserved_rejected :
    (runEach smallHandler datesMarket (undisturbed orderedAndRejected)).stock "dates" +
      (runEach smallHandler datesMarket (undisturbed orderedAndRejected)).ordered "dates" =
        datesMarket.stock "dates" + datesMarket.ordered "dates" +
          restocked smallHandler "dates" datesMarket (undisturbed orderedAndRejected) :=
  stock_conserved stock_datesMarket orderAvailable_rejected "dates"

/-- The quantity of a product in the orders that are not rejected. -/
def World.notRejected (w : World) (productId : String) : ℤ :=
  ((w.orders.toList.filter fun o => !o.2.isRejected).map fun o =>
    linesQty productId o.2.orderDetails).sum

/-- The rejected three kilos are neither in stock nor in an order that still stands. -/
theorem rejected_stock_lost : ¬ ∀ (u : World) (events : List Event), (∀ id, 0 ≤ u.stock id) →
    EachMeets smallHandler (orderAvailable smallFlow.toStatusLists) u (undisturbed events) →
    ∀ id, (runEach smallHandler u (undisturbed events)).stock id +
        (runEach smallHandler u (undisturbed events)).notRejected id =
      u.stock id + u.notRejected id + restocked smallHandler id u (undisturbed events) := by
  intro h
  have := h datesMarket orderedAndRejected stock_datesMarket orderAvailable_rejected "dates"
  exact absurd this (by decide +kernel)

end Gherass
