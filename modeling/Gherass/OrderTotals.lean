import Gherass.OrderContent
import Mathlib.Algebra.Ring.Rat

set_option autoImplicit false

/-!
# Totals and lines

The lines of an order are copied one at a time, and the total is taken from the page when
the last of them is there.
-/
namespace Gherass

open EventLoop EventLoop.Async FirebaseHelper MyCartController

def linesPrice (lines : List OrderLine) : ℚ :=
  (lines.map fun line => line.price * (line.qty : ℚ)).sum

/-- The total is that of the lines, and no product is in two of them. -/
structure Order.Balanced (o : Order) : Prop where
  total : o.totalAmount = linesPrice o.orderDetails + deliveryCharge
  once : (o.orderDetails.map (·.productId)).Nodup

instance (o : Order) : Decidable o.Balanced :=
  decidable_of_iff (o.totalAmount = linesPrice o.orderDetails + deliveryCharge ∧
    (o.orderDetails.map (·.productId)).Nodup) ⟨fun h => ⟨h.1, h.2⟩, fun h => ⟨h.1, h.2⟩⟩

def listsCart : Access → World → Bool
  | .postOrder d o, w => o.orderDetails.map (·.productId) = (w.cartPages d).shown.map (·.prodId)
  | _, _ => true

/-- When the stock of a line has been read, the list that is walked and the one on show hold
    the products that were on show when the order began, each of them once; or the list that
    is walked has another length, and the loop is about to stop. -/
def cartUnchanged : Access → World → Bool
  | .orderLine d list onShow, w =>
    let c := w.cartPages d
    (c.lists list).length ≠ onShow.length ||
      ((c.lists list).map fun i => (i, c.objects i)) = onShow && c.shown = onShow.map (·.2) &&
        (onShow.map (·.2.prodId)).Nodup
  | _, _ => true

def OrderLine.copied (line : OrderLine) : String × ℚ × ℤ := (line.productId, line.price, line.qty)

def Product.copied (p : Product) : String × ℚ × ℤ := (p.prodId, p.price, p.qty)

theorem totalPrice_eq (c : MyCartController) :
    c.totalPrice = (c.shown.map fun p => p.price * (p.qty : ℚ)).sum := by
  have fold : ∀ (products : List Product) (total : ℚ),
      products.foldl (fun total p => total + p.price * (p.qty : ℚ)) total =
        total + (products.map fun p => p.price * (p.qty : ℚ)).sum := by
    intro products
    induction products with
    | nil => intro total; simp
    | cons p rest ih =>
      intro total
      rw [List.foldl_cons, ih, List.map_cons, List.sum_cons, add_assoc]
  rw [totalPrice, fold, zero_add]

theorem balanced_postOrder (d : Device) {c : MyCartController} (first : Product) (now : ℕ)
    (status : String) {lines : List OrderLine}
    (hlines : lines.map OrderLine.copied = c.shown.map Product.copied)
    (hnodup : (c.shown.map (·.prodId)).Nodup) :
    (postOrder d c first now status lines).orderDetails.map (·.productId) =
        c.shown.map (·.prodId) ∧
      (postOrder d c first now status lines).Balanced := by
  have ids : lines.map (·.productId) = c.shown.map (·.prodId) := by
    have := congrArg (List.map Prod.fst) hlines
    rwa [List.map_map, List.map_map] at this
  have prices : linesPrice lines = (c.shown.map fun p => p.price * (p.qty : ℚ)).sum := by
    have := congrArg (fun copies : List (String × ℚ × ℤ) =>
      (copies.map fun copy => copy.2.1 * (copy.2.2 : ℚ)).sum) hlines
    simp only [List.map_map] at this
    exact this
  refine ⟨ids, ?_, ?_⟩
  · change c.totalPrice + deliveryCharge = linesPrice lines + deliveryCharge
    rw [prices, totalPrice_eq]
  · exact ids ▸ hnodup

def totalsContract : Contract World Access :=
  ⟨fun w => w.EveryOrder Order.Balanced, fun _ _ => True, fun l w => listsCart l w,
    fun _ => trivial, fun _ _ => trivial⟩

theorem Order.Balanced.of_sameContent {o p : Order} (h : o.Balanced) (hp : o.SameContent p) :
    p.Balanced :=
  ⟨by rw [hp.totalAmount, hp.orderDetails]; exact h.total, by rw [hp.orderDetails]; exact h.once⟩

section Frames

theorem shows_totals (l : Access) (s : World) (hl : l.isPost = false) :
    totalsContract.shows l s := by
  cases l with
  | postOrder => cases hl
  | _ => rfl

theorem keeps_totals {f : World → World} (hf : ∀ w, (f w).orders = w.orders) :
    totalsContract.Keeps f := by
  intro s hs
  refine ⟨fun id o ho => hs id o ?_, trivial⟩
  rw [hf] at ho
  exact ho

theorem keepsStaff_totals : KeepsStaff totalsContract where
  plain _ _ := rfl
  shows l s _ hl := shows_totals l s hl
  details _ := keeps_totals fun _ => rfl
  homes _ := keeps_totals fun _ => rfl
  maps _ _ := keeps_totals fun _ => rfl
  writes l id _ hs := ⟨hs.update id fun o ho => ho.of_sameContent (sameContent_apply l o), trivial⟩

theorem keepsTimers_totals : KeepsTimers totalsContract where
  shows l s _ hl := shows_totals l s hl
  timers _ := keeps_totals fun _ => rfl
  rejects id _ hs := ⟨hs.update id fun _ ho => ho.of_sameContent ⟨rfl, rfl, rfl⟩, trivial⟩

theorem keepsCarts_totals : KeepsCarts totalsContract where
  plain _ _ := rfl
  pages _ := keeps_totals fun _ => rfl
  shows l s _ _ hl := shows_totals l s hl
  carts _ := keeps_totals fun _ => rfl
  autoIds := keeps_totals fun _ => rfl
  requests _ := keeps_totals fun _ => rfl
  validations _ := keeps_totals fun _ => rfl

theorem keepsStock_totals : KeepsStock totalsContract where
  plain _ _ := rfl
  shows l s _ _ hl := shows_totals l s hl
  stock farmerId productId _ _ :=
    keeps_updateFarmProduct (fun _ => keeps_totals fun _ => rfl) farmerId productId _
  deletes := keeps_deleteProductDoc fun _ => keeps_totals fun _ => rfl
  audits _ := keeps_totals fun _ => rfl

end Frames

def totalsPosting (d : Device) :
    Posting totalsContract (.landing cartUnchanged : Guard World Access Event) d where
  lines c index list s := c.shown ≠ [] ∧
    (((s.cartPages d).lists c.myCartList).length = (c.lists c.myCartList).length →
      (s.cartPages d).lists c.myCartList = c.lists c.myCartList ∧
      (s.cartPages d).shown = c.shown ∧
      list.map OrderLine.copied = (c.shown.take index).map Product.copied ∧
      (0 < index → (c.shown.map (·.prodId)).Nodup))
  good o _ := o.Balanced
  enter s _ hform := by
    refine ⟨?_, fun _ => ⟨rfl, rfl, rfl, fun h => absurd h (Nat.lt_irrefl 0)⟩⟩
    simp only [formComplete, decide_eq_true_eq] at hform
    exact hform.1
  line c index list s t totalQty _ h hlength hindex _ _ hl := by
    obtain ⟨hne, hlines⟩ := h
    obtain ⟨hlist, -, hcopied, -⟩ := hlines hlength
    refine ⟨hne, fun hlength' => ?_⟩
    have unchanged : (((t.cartPages d).lists c.myCartList).map fun i =>
        (i, (t.cartPages d).objects i)) = c.onShow ∧ (t.cartPages d).shown = c.onShow.map (·.2) ∧
          (c.onShow.map (·.2.prodId)).Nodup := by
      change cartUnchanged _ t = true at hl
      simp only [cartUnchanged, onShow_length, hlength', ne_eq, not_true_eq_false, decide_false,
        Bool.false_or, Bool.and_eq_true, decide_eq_true_eq] at hl
      exact ⟨hl.1.1, hl.1.2, hl.2⟩
    obtain ⟨hobjects, hshown, hnodup⟩ := unchanged
    have refs : (t.cartPages d).lists c.myCartList = c.lists c.myCartList := by
      have := congrArg (List.map Prod.fst) hobjects
      simpa only [onShow, List.map_map, Function.comp_def, List.map_id'] using this
    refine ⟨refs, hshown.trans c.onShow_products, ?_, fun _ => ?_⟩
    · have hindex' : index < c.shown.length := by rwa [c.shown_length]
      have values : (c.lists c.myCartList).map (t.cartPages d).objects = c.shown := by
        have := congrArg (List.map Prod.snd) hobjects
        rwa [onShow_products, List.map_map, refs] at this
      have copy : (t.cartPages d).objects (((s.cartPages d).lists c.myCartList).getD index 0) =
          c.shown[index] := by
        simp only [hlist, ← values, List.getElem_map, List.getD_eq_getElem?_getD,
          List.getElem?_eq_getElem hindex, Option.getD_some]
      rw [List.take_succ_eq_append_getElem hindex', List.map_append, List.map_append, hcopied, copy]
      rfl
    · rw [← onShow_products, List.map_map]
      exact hnodup
  post c list s first rest now status _ h hlength _ := by
    obtain ⟨hne, hlines⟩ := h
    obtain ⟨-, hshown, hcopied, hnodup⟩ := hlines hlength
    have pos : 0 < (c.lists c.myCartList).length := c.shown_length ▸ List.length_pos_iff.2 hne
    rw [← shown_length, List.take_length] at hcopied
    rw [← hshown] at hcopied hnodup
    obtain ⟨hids, hbalanced⟩ := balanced_postOrder d first now status hcopied (hnodup pos)
    refine ⟨?_, hbalanced⟩
    change listsCart _ s = true
    simpa only [listsCart, decide_eq_true_eq] using hids
  add ids o s t hgood ht _ := ⟨ht.add ids (hgood.of_sameContent ⟨rfl, rfl, rfl⟩), trivial⟩

theorem handler_totals (flow : StatusLists) (ids : IdSupply) (e : Event) (s : World)
    (hs : totalsContract.inv s) :
    (handler flow ids e).Safe totalsContract
      (.landing cartUnchanged : Guard World Access Event) s := by
  have carts := keepsCarts_totals
  suffices Spec totalsContract (.landing cartUnchanged : Guard World Access Event) (fun _ => True)
      (program flow ids e) (fun _ _ => True) fun _ _ => True from this.safe hs trivial
  cases hg : e.group with
  | staff =>
    exact (quiet_staff flow ids keepsStaff_totals keepsTimers_totals
      (fun _ => keeps_totals fun _ => rfl) hg).spec
  | stock => exact (quiet_stock flow ids keepsStock_totals.toKeepsProducts hg).spec
  | cart => exact (quiet_cart flow ids carts hg).spec
  | order =>
    cases e with
    | placeOrder d =>
      exact (totalsPosting d).spec_placeOrder (fun l s _ _ hl => shows_totals l s hl)
        (fun id s hs => ⟨hs.update id fun _ ho => ho.of_sameContent ⟨rfl, rfl, rfl⟩, trivial⟩)
        (fun _ => quiet_setPage carts.toKeepsPages d _) (quiet_updateProduct keepsStock_totals d)
        (quiet_emptyCart carts d _ _)
    | _ => cases hg

/-- Every order that is placed balances and lists the products on show, in every run in which
    the cart is unchanged whenever the stock of a line has been read. -/
theorem totals_match {flow : StatusLists} {ids : IdSupply} {u v : Market} {ms : List (Move Event)}
    (hu : u.slots = []) (hgood : u.state.EveryOrder Order.Balanced)
    (hm : Meeting (handler flow ids) (.landing cartUnchanged) u ms)
    (hx : exec (handler flow ids) u ms = some v) :
    v.state.EveryOrder Order.Balanced ∧
      Meeting (handler flow ids) (.landing listsCart) u ms := by
  have idle : u.Safe totalsContract (.landing cartUnchanged : Guard World Access Event) :=
    ⟨hgood, fun x hx => by rw [hu] at hx; cases hx⟩
  obtain ⟨hv, -, hshow⟩ := Meeting.safe (fun e s hs _ => handler_totals flow ids e s hs) hm hx idle
  exact ⟨hv.1, hshow⟩

def datesAndFigs : World :=
  let dates : Product := { id := "1", farmerId := "farmer", prodId := "dates", price := 4, qty := 3 }
  let figs : Product := { id := "2", farmerId := "farmer", prodId := "figs", price := 5, qty := 1 }
  { products := fun id =>
      if id = "dates" then some { someDates with qty := some 2 }
      else if id = "figs" then some someDates
      else none
    cartPages := fun _ =>
      { objects := fun i => if i = 0 then dates else figs
        lists := fun _ => [0, 1]
        allocated := 2
        currentDeliveryAddress := some {}
        selectedTime := "10:00"
        selectedDate := "2025-05-01" }
    carts := fun _ =>
      { docs := (∅ : Std.TreeSet String).insert "farmer"
        products := fun farmerId =>
          if farmerId = "farmer" then
            ((∅ : Std.TreeMap String Product).insert "1" dates).insert "2" figs
          else ∅ } }

def orderedAtOnce : List (Move Event) :=
  [.start (.placeOrder aCustomer), .serve 0, .resume 0, .serve 0, .resume 0, .serve 0]

theorem totals_match_fruits :
    ((⟨datesAndFigs, []⟩ : Market).after smallHandler orderedAtOnce).state.EveryOrder
        Order.Balanced ∧
      Meeting smallHandler (.landing listsCart) ⟨datesAndFigs, []⟩ orderedAtOnce :=
  totals_match rfl (fun id o ho => by simp [datesAndFigs] at ho) (by decide +kernel)
    (exec_after (by decide +kernel))

def clampedBetween : List (Move Event) :=
  [.start (.openCart aCustomer "farmer"), .serve 0, .resume 0, .serve 0, .resume 0, .serve 0,
    .resume 0, .start (.pickDate aCustomer "2025-05-01"), .start (.pickTime aCustomer "10:00"),
    .start (.placeOrder aCustomer), .serve 3, .resume 3, .serve 0, .resume 0, .serve 2, .resume 2,
    .serve 3]

theorem total_of_other_quantities : ¬ ∀ (u v : Market) (ms : List (Move Event)), u.slots = [] →
    u.state.EveryOrder Order.Balanced → exec smallHandler u ms = some v →
    v.state.EveryOrder Order.Balanced ∧ Meeting smallHandler (.landing listsCart) u ms := by
  intro h
  have run : (exec smallHandler ⟨datesAndFigs, []⟩ clampedBetween).isSome := by decide +kernel
  have orders := (h _ _ _ rfl (fun id o ho => by simp [datesAndFigs] at ho)
    (exec_after run)).1
  have posted : (((⟨datesAndFigs, []⟩ : Market).after smallHandler
      clampedBetween).state.orders["x"]?.map fun o => decide o.Balanced) = some false := by
    decide +kernel
  obtain ⟨o, ho, hfalse⟩ := Option.map_eq_some_iff.1 posted
  exact of_decide_eq_false hfalse (orders "x" o ho)

end Gherass
