import Gherass.OrderPlacement

set_option autoImplicit false

/-!
# What a placed order holds

The loop over the lines and the posting that follows it, for any contract that knows at
every await what the order is to hold.
-/
namespace Gherass

open EventLoop EventLoop.Async FirebaseHelper MyCartController

def World.EveryOrder (w : World) (good : Order → Prop) : Prop :=
  ∀ (id : String) (o : Order), w.orders[id]? = some o → good o

namespace World.EveryOrder

variable {w : World} {good : Order → Prop}

theorem put (h : w.EveryOrder good) (id : String) {o : Order} (ho : good o) :
    (w.putOrder id o).EveryOrder good := by
  intro i p hp
  rw [putOrder_get] at hp
  split at hp
  · cases hp
    exact ho
  · exact h i p hp

theorem update (h : w.EveryOrder good) (id : String) {f : Order → Order}
    (hf : ∀ o, good o → good (f o)) : (updateOrder id f w).1.EveryOrder good := by
  unfold updateOrder
  cases ho : w.orders[id]? with
  | none => exact h
  | some o => exact h.put id (hf o (h id o ho))

theorem add (h : w.EveryOrder good) (ids : IdSupply) {o : Order} (ho : good o) :
    (addOrder ids o w).1.EveryOrder good := h.put _ ho

end World.EveryOrder

theorem updateOrder_frame (id : String) (f : Order → Order) (w : World) :
    ∃ orders, (updateOrder id f w).1 = { w with orders := orders } := by
  unfold updateOrder
  split
  · exact ⟨_, rfl⟩
  · exact ⟨_, rfl⟩

/-- What is written to an order once it is placed leaves this as it was posted. -/
structure Order.SameContent (o p : Order) : Prop where
  orderDetails : p.orderDetails = o.orderDetails
  totalAmount : p.totalAmount = o.totalAmount
  farmerId : p.farmerId = o.farmerId

theorem sameContent_apply (l : Access) (o : Order) : o.SameContent (l.apply o) := by
  cases l with
  | acceptStatus d id status isDriver =>
    cases isDriver with
    | false | true => exact ⟨rfl, rfl, rfl⟩
  | _ => exact ⟨rfl, rfl, rfl⟩

namespace MyCartController

variable (c : MyCartController)

theorem onShow_products : c.onShow.map (·.2) = c.shown := List.map_map ..

theorem onShow_objects : c.onShow.map (·.1) = c.lists c.myCartList := by
  simp only [onShow, List.map_map, Function.comp_def, List.map_id']

theorem onShow_length : c.onShow.length = (c.lists c.myCartList).length := List.length_map ..

theorem shown_length : c.shown.length = (c.lists c.myCartList).length := List.length_map ..

theorem head_onShow {c : MyCartController} {first : Product} (h : first ∈ c.shown.head?) :
    ∃ entry ∈ c.onShow.head?, entry.2 = first := by
  rw [← onShow_products, List.head?_map] at h
  exact Option.map_eq_some_iff.1 h

end MyCartController

variable {C : Contract World Access} {g : Guard World Access Event} {d : Device}

/-- `line prod totalQty`, as the loop adds it -/
def MyCartController.orderLine (prod : Product) (totalQty : ℤ) : OrderLine where
  name := prod.name
  price := prod.price
  productId := prod.prodId
  qty := prod.qty
  totalQty := totalQty

/-- What a contract knows on the way. `lines c index list` holds when the loop that began
    with the page `c` has come to `index` and has collected `list`; `good o` holds of the
    order from then on. -/
structure Posting (C : Contract World Access) (g : Guard World Access Event) (d : Device) where
  lines : MyCartController → ℕ → List OrderLine → World → Prop
  good : Order → World → Prop
  enter : ∀ s, C.inv s → (s.cartPages d).formComplete → lines (s.cartPages d) 0 [] s
  line : ∀ c index list s t totalQty, C.inv s → lines c index list s →
    ((s.cartPages d).lists c.myCartList).length = (c.lists c.myCartList).length →
    index < (c.lists c.myCartList).length → C.inv t → C.rel s t →
    g.access (.orderLine d c.myCartList c.onShow) t →
    lines c (index + 1) (list ++ [orderLine ((t.cartPages d).objects
      (((s.cartPages d).lists c.myCartList).getD index 0)) totalQty]) t
  post : ∀ c list s first rest now status, C.inv s →
    lines c (c.lists c.myCartList).length list s →
    ((s.cartPages d).lists c.myCartList).length = (c.lists c.myCartList).length →
    (s.cartPages d).shown = first :: rest →
    C.shows (.postOrder d (postOrder d (s.cartPages d) first now status list)) s ∧
      good (postOrder d (s.cartPages d) first now status list) s
  add : ∀ ids o s t, good o s → C.inv t → C.rel s t →
    C.inv (addOrder ids { o with orderID := none } t).1 ∧
      C.rel t (addOrder ids { o with orderID := none } t).1

namespace Posting

variable (P : Posting C g d) {flow : StatusLists} {ids : IdSupply}
  (shows : ∀ l s, C.inv s → l.target = none → l.isPost = false → C.shows l s)
include shows

theorem spec_orderLines (c : MyCartController) (index todo : ℕ) (list : List OrderLine)
    (htodo : index + todo = (c.lists c.myCartList).length) :
    Spec C g (P.lines c index list)
      (orderLines d c.onShow c.myCartList (c.lists c.myCartList).length index todo list)
      (fun r s => P.lines c (c.lists c.myCartList).length r s ∧
        ((s.cartPages d).lists c.myCartList).length = (c.lists c.myCartList).length)
      fun _ _ => True := by
  induction todo generalizing index list with
  | zero =>
    refine .bind (R := fun page s => page = s.cartPages d ∧ P.lines c index list s)
      (.look fun s _ h => ⟨rfl, h⟩) fun page => ?_
    split
    · exact .throw fun _ _ => trivial
    · rename_i hlength
      refine .pure fun s ⟨hpage, h⟩ => ?_
      subst hpage
      obtain rfl : index = (c.lists c.myCartList).length := htodo
      exact ⟨h, not_not.1 hlength⟩
  | succ todo ih =>
    -- What was seen of the page is carried over the read as a fact about the past.
    have later : ∀ page object, Spec C g
        (fun s => ∃ s₀, C.inv s₀ ∧ C.rel s₀ s ∧ P.lines c index list s₀ ∧ page = s₀.cartPages d ∧
          (page.lists c.myCartList).length = (c.lists c.myCartList).length ∧
          object = (page.lists c.myCartList).getD index 0)
        (do
          let totalQty ← fetchTotalQty (page.objects object)
          note (.orderLine d c.myCartList c.onShow)
          let prod := (← MyCartController.page d).objects object
          orderLines d c.onShow c.myCartList (c.lists c.myCartList).length (index + 1) todo
            (list ++ [orderLine prod totalQty]))
        (fun r s => P.lines c (c.lists c.myCartList).length r s ∧
          ((s.cartPages d).lists c.myCartList).length = (c.lists c.myCartList).length)
        fun _ _ => True := by
      intro page object
      have read : Quiet C (fetchTotalQty (page.objects object)) :=
        quiet_getProductTotalQty (fun s hs => shows _ s hs rfl rfl) _ _
      refine .bind ((read.spec.keeping (fun s h => h) ?_).weaken (fun _ h => h)
        (fun _ _ h => h.2) fun _ _ h => h) fun totalQty => ?_
      · rintro s t hr ⟨s₀, hs₀, hr₀, rest⟩
        exact ⟨s₀, hs₀, C.trans hr₀ hr, rest⟩
      refine .bind (R := fun _ t => P.lines c (index + 1) (list ++ [orderLine
          ((t.cartPages d).objects object) totalQty]) t)
        (.note fun t ht ⟨s₀, hs₀, hr₀, hlines, hpage, hlength, hobject⟩ hl => ?_) fun _ => ?_
      · refine ⟨shows _ t ht rfl rfl, ?_⟩
        subst hpage hobject
        exact P.line c index list s₀ t totalQty hs₀ hlines hlength (by omega) ht hr₀ hl
      · exact .bind (R := fun page t => P.lines c (index + 1) (list ++ [orderLine
            (page.objects object) totalQty]) t) (.look fun t _ h => h) fun page =>
          ih (index + 1) _ (by omega)
    refine .bind (R := fun page s => ∃ s₀, C.inv s₀ ∧ C.rel s₀ s ∧ P.lines c index list s₀ ∧
      page = s₀.cartPages d) (.look fun s hs h => ⟨s, hs, C.refl s, h, rfl⟩) fun page => ?_
    split
    · exact .throw fun _ _ => trivial
    · rename_i hlength
      refine (later page _).weaken (fun s h => ?_) (fun _ _ h => h) fun _ _ h => h
      obtain ⟨s₀, hs₀, hr₀, hlines, hpage⟩ := h
      exact ⟨s₀, hs₀, hr₀, hlines, hpage, not_not.1 hlength, rfl⟩

variable (setID : ∀ id, C.Keeps fun w =>
  (updateOrder id (fun o => { o with orderID := some id }) w).1)
include setID

theorem spec_helper_placeOrder (o : Order) :
    Spec C g (P.good o) (FirebaseHelper.placeOrder ids o) (fun _ _ => True) fun _ _ => True := by
  refine .tryCatch (F := fun _ _ => True) (.bind (R := fun _ _ => True) (.call
    (fun s t _ hgood ht hr _ => ?_) fun _ _ _ _ _ _ _ _ _ _ => trivial) fun id =>
      .bind (R := fun _ _ => True) (Quiet.spec (.call (setID id) fun s hs =>
        shows _ s hs rfl rfl)) fun _ => .pure fun _ _ => trivial) fun _ => .pure fun _ _ => trivial
  obtain ⟨hi, hr'⟩ := P.add ids o s t hgood ht hr
  exact ⟨shows _ t ht rfl rfl, hi, hr', fun u _ _ => trivial⟩

variable (record : ∀ orderId, Quiet C (setPage d fun c => { c with orderId := orderId }))
include record

include P in
theorem spec_postOrderComplete :
    Spec C g (fun _ => True) (postOrderComplete flow ids d) (fun _ _ => True)
      fun _ _ => True := by
  refine .tryCatch (F := fun _ _ => True) (.bind
    (R := fun c s => c.formComplete = true → P.lines c 0 [] s) (.look fun s hs _ => P.enter s hs)
    fun c => ?_) fun _ => .pure fun _ _ => trivial
  split
  case isFalse => exact .pure fun _ _ => trivial
  case isTrue hform =>
  refine .bind ((P.spec_orderLines shows c 0 _ [] (Nat.zero_add _)).weaken (fun s h => h hform)
    (fun _ _ h => h) fun _ _ h => h) fun list => ?_
  cases hlist : flow.farmer[0]? with
  | none =>
    rw [statusAt, hlist]
    exact .bind (R := fun _ _ => False) (.throw fun _ _ => trivial) fun _ _ _ _ _ h => h.elim
  | some initial =>
  set collected : World → Prop := fun s => P.lines c (c.lists c.myCartList).length list s ∧
    ((s.cartPages d).lists c.myCartList).length = (c.lists c.myCartList).length
  rw [statusAt, hlist]
  refine .bind (R := fun _ => collected) (.pure fun _ h => h) fun status =>
    .bind (R := fun _ => collected) (.look fun _ _ h => h) fun now =>
      .bind (R := fun after s => after = s.cartPages d ∧ collected s)
        (.look fun s _ h => ⟨rfl, h⟩) fun after => ?_
  cases hshown : after.shown with
  | nil => exact .throw fun _ _ => trivial
  | cons first rest =>
  refine .bind (R := fun _ s => P.good (postOrder d after first now status list) s)
    (.note fun s hs hposted _ => ?_) fun _ =>
      .bind (P.spec_helper_placeOrder shows setID _) fun orderId => ?_
  · obtain ⟨rfl, hlines, hlength⟩ := hposted
    exact P.post c list s first rest now status hs hlines hlength hshown
  refine Quiet.spec (.bind (record orderId) fun _ =>
    .bind (.look _) fun last => ?_)
  split
  · exact .throw _
  · exact .pure _

include P in
theorem spec_placeOrder (stock : Quiet C (updateProduct d)) (empty : Quiet C (emptyCart d)) :
    Spec C g (fun _ => True) (MyCartController.placeOrder flow ids d) (fun _ _ => True)
      fun _ _ => True := by
  refine .bind (P.spec_postOrderComplete shows setID record) fun isOrdered => ?_
  split
  · exact Quiet.spec (.bind (.spawn stock) fun _ => empty)
  · exact .pure fun _ _ => trivial

end Posting

end Gherass
