import Gherass.CartFlow

set_option autoImplicit false

/-!
# Whose products an order holds

An order takes its farmer from the first product on show when it is posted, and its lines
from the list that was on show when it was begun.
-/
namespace Gherass

open EventLoop EventLoop.Async FirebaseHelper MyCartController

abbrev Catalog := String → Option FarmProduct

/-- The product, if it is one, is of the farmer it names. -/
def Product.NamesFarmer (catalog : Catalog) (p : Product) : Prop :=
  ∀ fp, catalog p.prodId = some fp → fp.farmerId = p.farmerId

def Order.OfOneFarmer (catalog : Catalog) (o : Order) : Prop :=
  ∀ line ∈ o.orderDetails, ∀ fp, catalog line.productId = some fp → fp.farmerId = o.farmerId

def Event.namesFarmer (catalog : Catalog) : Event → Bool
  | .addToCart _ p => (catalog p.prodId).all fun fp => fp.farmerId = p.farmerId
  | _ => true

/-- When the stock of a line has been read, the products of the list that is walked and the
    first one on show are of the farmer of the first product that was on show when the order
    began, and the list has the objects it had; or it has another length, and the loop is
    about to stop. -/
def oneFarmerOnList : Access → World → Bool
  | .orderLine d list onShow, w =>
    let c := w.cartPages d
    (c.lists list).length ≠ onShow.length ||
      c.lists list = onShow.map (·.1) && (c.contents list ++ c.shown.take 1).all fun p =>
        onShow.head?.all fun first => p.farmerId = first.2.farmerId
  | _, _ => true

def farmersContract (catalog : Catalog) : Contract World Access :=
  ⟨fun w => w.EveryOrder (Order.OfOneFarmer catalog), fun _ _ => True, fun _ _ => True,
    fun _ => trivial, fun _ _ => trivial⟩

variable {catalog : Catalog}

theorem Order.OfOneFarmer.of_sameContent {o p : Order} (h : o.OfOneFarmer catalog)
    (hp : o.SameContent p) : p.OfOneFarmer catalog := by
  intro line hline fp hfp
  rw [hp.orderDetails] at hline
  rw [hp.farmerId]
  exact h line hline fp hfp

section Frames

theorem keeps_farmers {f : World → World} (hf : ∀ w, (f w).orders = w.orders) :
    (farmersContract catalog).Keeps f := by
  intro s hs
  refine ⟨fun id o ho => hs id o ?_, trivial⟩
  rw [hf] at ho
  exact ho

theorem keepsStaff_farmers : KeepsStaff (farmersContract catalog) where
  plain _ _ := trivial
  shows _ _ _ _ := trivial
  details _ := keeps_farmers fun _ => rfl
  homes _ := keeps_farmers fun _ => rfl
  maps _ _ := keeps_farmers fun _ => rfl
  writes l id _ hs := ⟨hs.update id fun o ho => ho.of_sameContent (sameContent_apply l o), trivial⟩

theorem keepsTimers_farmers : KeepsTimers (farmersContract catalog) where
  shows _ _ _ _ := trivial
  timers _ := keeps_farmers fun _ => rfl
  rejects id _ hs := ⟨hs.update id fun _ ho => ho.of_sameContent ⟨rfl, rfl, rfl⟩, trivial⟩

theorem keepsCarts_farmers : KeepsCarts (farmersContract catalog) where
  plain _ _ := trivial
  pages _ := keeps_farmers fun _ => rfl
  shows _ _ _ _ _ := trivial
  carts _ := keeps_farmers fun _ => rfl
  autoIds := keeps_farmers fun _ => rfl
  requests _ := keeps_farmers fun _ => rfl
  validations _ := keeps_farmers fun _ => rfl

theorem keepsStock_farmers : KeepsStock (farmersContract catalog) where
  plain _ _ := trivial
  shows _ _ _ _ _ := trivial
  stock farmerId productId _ _ :=
    keeps_updateFarmProduct (fun _ => keeps_farmers fun _ => rfl) farmerId productId _
  deletes := keeps_deleteProductDoc fun _ => keeps_farmers fun _ => rfl
  audits _ := keeps_farmers fun _ => rfl

end Frames

/-- The runs in which customers add listed products and the lists stay with one farmer. -/
def oneFarmerGuard (catalog : Catalog) : Guard World Access Event :=
  .starting (Event.namesFarmer catalog) oneFarmerOnList

instance (catalog : Catalog) : (oneFarmerGuard catalog).Checks :=
  inferInstanceAs (Guard.starting _ _).Checks

theorem cartFlow_farmers :
    CartFlow (Product.NamesFarmer catalog) (farmersContract catalog) (oneFarmerGuard catalog) :=
  .of_keepsCarts keepsCarts_farmers (fun _ _ hp => hp) (fun _ _ hp => hp) fun d p s hstart fp hfp => by
    change Event.namesFarmer catalog (.addToCart d p) = true at hstart
    simp only [Event.namesFarmer, hfp, Option.all_some, decide_eq_true_eq] at hstart
    exact hstart

def farmersPosting (catalog : Catalog) (d : Device) :
    Posting (cartsHold (Product.NamesFarmer catalog) (farmersContract catalog))
      (oneFarmerGuard catalog) d where
  lines c index list s := c.shown ≠ [] ∧
    (((s.cartPages d).lists c.myCartList).length = (c.lists c.myCartList).length →
      (s.cartPages d).lists c.myCartList = c.lists c.myCartList ∧
      ∀ first ∈ c.shown.head?, (index = 0 ∧ list = []) ∨
        (∀ p ∈ (s.cartPages d).shown.head?, p.farmerId = first.farmerId) ∧
          ∀ line ∈ list, ∀ fp, catalog line.productId = some fp → fp.farmerId = first.farmerId)
  good o _ := o.OfOneFarmer catalog
  enter s _ hform := by
    refine ⟨?_, fun _ => ⟨rfl, fun _ _ => .inl ⟨rfl, rfl⟩⟩⟩
    simp only [formComplete, decide_eq_true_eq] at hform
    exact hform.1
  line c index list s t totalQty _ h hlength hindex ht _ hl := by
    obtain ⟨hne, hlines⟩ := h
    obtain ⟨hlist, hcopied⟩ := hlines hlength
    refine ⟨hne, fun hlength' => ?_⟩
    have allowed : (t.cartPages d).lists c.myCartList = c.lists c.myCartList ∧
        ∀ p ∈ (t.cartPages d).contents c.myCartList ++ (t.cartPages d).shown.take 1,
          ∀ first ∈ c.onShow.head?, p.farmerId = first.2.farmerId := by
      change oneFarmerOnList _ t = true at hl
      simp only [oneFarmerOnList, onShow_length, hlength', ne_eq, not_true_eq_false, decide_false,
        Bool.false_or, Bool.and_eq_true, decide_eq_true_eq, List.all_eq_true, onShow_objects,
        Option.all_eq_true] at hl
      exact hl
    obtain ⟨hlist', hfarmer⟩ := allowed
    refine ⟨hlist', fun first hfirst => .inr ⟨fun p hp => ?_, fun line hline fp hfp => ?_⟩⟩
    · obtain ⟨entry, hentry, rfl⟩ := head_onShow hfirst
      refine hfarmer p (List.mem_append_right _ ?_) entry hentry
      cases hshown : (t.cartPages d).shown with
      | nil => rw [hshown] at hp; cases hp
      | cons q rest =>
        rw [hshown] at hp
        obtain rfl : q = p := Option.some.inj hp
        exact List.mem_singleton_self q
    · rcases List.mem_append.1 hline with hline | hline
      · rcases hcopied first hfirst with ⟨-, hnil⟩ | ⟨-, hlines⟩
        · rw [hnil] at hline
          cases hline
        · exact hlines line hline fp hfp
      · obtain rfl := List.mem_singleton.1 hline
        rw [hlist, List.getD_eq_getElem?_getD, List.getElem?_eq_getElem hindex,
          Option.getD_some] at hfp
        set object := (c.lists c.myCartList)[index] with hobject
        have onList : object ∈ (t.cartPages d).lists c.myCartList :=
          hlist' ▸ List.getElem_mem hindex
        obtain ⟨entry, hentry, rfl⟩ := head_onShow hfirst
        have names := ht.1.listed d c.myCartList object onList fp hfp
        rw [names]
        exact hfarmer _ (List.mem_append_left _ (List.mem_map_of_mem onList)) entry hentry
  post c list s first rest now status _ h hlength hshown := by
    obtain ⟨hne, hlines⟩ := h
    obtain ⟨-, hcopied⟩ := hlines hlength
    obtain ⟨began, others, hbegan⟩ := List.exists_cons_of_ne_nil hne
    refine ⟨trivial, fun line hline fp hfp => ?_⟩
    rcases hcopied began (by rw [hbegan]; rfl) with ⟨-, hnil⟩ | ⟨hfirst, hall⟩
    · rw [postOrder, hnil] at hline
      cases hline
    · rw [hall line hline fp hfp]
      exact (hfirst first (by rw [hshown]; rfl)).symm
  add ids o s t hgood ht _ := by
    have placed : (farmersContract catalog).Keeps fun w =>
        (addOrder ids { o with orderID := none } w).1 := fun w hw =>
      ⟨World.EveryOrder.add hw ids (hgood.of_sameContent ⟨rfl, rfl, rfl⟩), trivial⟩
    exact keeps_cartsHold placed (fun _ => ⟨rfl, rfl⟩) t ht

theorem spec_placeOrder_farmers {flow : StatusLists} (ids : IdSupply) (d : Device) :
    Spec (cartsHold (Product.NamesFarmer catalog) (farmersContract catalog))
      (oneFarmerGuard catalog) (fun _ => True) (MyCartController.placeOrder flow ids d)
      (fun _ _ => True) fun _ _ => True := by
  have setID : ∀ id, (farmersContract catalog).Keeps fun w =>
      (updateOrder id (fun o => { o with orderID := some id }) w).1 := fun id s hs =>
    ⟨World.EveryOrder.update hs id fun _ ho => ho.of_sameContent ⟨rfl, rfl, rfl⟩, trivial⟩
  exact (farmersPosting catalog d).spec_placeOrder (fun _ _ _ _ _ => trivial)
    (fun id => keeps_updateOrder (setID id))
    (fun orderId => cartFlow_farmers.quiet_besideLists (f := fun c => { c with orderId := orderId })
      d fun _ => ⟨rfl, rfl⟩)
    (quiet_updateProduct (keepsStock_cartsHold keepsStock_farmers) d)
    (cartFlow_farmers.quiet_emptyCart d)

/-- Every placed order is of one farmer, in every run in which customers add products as they
    are listed and the lists that are walked stay with the farmer they began with. -/
theorem orders_of_one_farmer {flow : StatusLists} {ids : IdSupply} {u v : Market}
    (hu : u.slots = []) (hcarts : u.state.CartsHold (Product.NamesFarmer u.state.products))
    (horders : u.state.EveryOrder (Order.OfOneFarmer u.state.products))
    (huv : Run (handler flow ids) (oneFarmerGuard u.state.products) u v) :
    v.state.EveryOrder (Order.OfOneFarmer u.state.products) := by
  have idle : u.Safe (cartsHold (Product.NamesFarmer u.state.products)
      (farmersContract u.state.products)) (oneFarmerGuard u.state.products) :=
    ⟨⟨hcarts, horders⟩, fun x hx => by rw [hu] at hx; cases hx⟩
  exact (Run.safe (cartFlow_farmers.handler_safe keepsStaff_farmers keepsTimers_farmers
    keepsStock_farmers (fun _ => keeps_farmers fun _ => rfl) ids (spec_placeOrder_farmers ids))
    huv idle).1.1.2

def datesBesideHoney : World := { datesCart with products := twoFarmsMarket.products }

theorem cartsHold_datesBesideHoney :
    datesBesideHoney.CartsHold (Product.NamesFarmer datesBesideHoney.products) := by
  have names : ((datesPage 3).objects 0).NamesFarmer datesBesideHoney.products := by
    intro fp hfp
    cases hfp
    rfl
  refine ⟨fun uid farmerId id p hp => ?_, fun _ _ _ _ => names⟩
  simp only [CartStore.line, datesBesideHoney, datesCart] at hp
  split at hp
  · rw [Std.TreeMap.getElem?_insert] at hp
    split at hp
    · cases hp
      exact names
    · simp at hp
  · simp at hp

theorem orders_of_one_farmer_dates :
    ((⟨datesBesideHoney, []⟩ : Market).after smallHandler
      [.start (.placeOrder aCustomer), .serve 0, .resume 0, .serve 0]).state.EveryOrder
        (Order.OfOneFarmer datesBesideHoney.products) :=
  orders_of_one_farmer rfl cartsHold_datesBesideHoney
    (fun id o ho => by simp [datesBesideHoney, datesCart, datesMarket] at ho)
    (Run.after (by decide +kernel) (by decide +kernel))

def orderedBeforeReload : List (Move Event) :=
  [.start (.addToCart aCustomer someHoney), .start (.placeOrder aCustomer), .serve 1, .resume 1,
    .serve 1, .resume 1, .serve 1]

theorem order_of_two_farmers : ¬ ∀ u v : Market, u.slots = [] →
    u.state.CartsHold (Product.NamesFarmer u.state.products) →
    u.state.EveryOrder (Order.OfOneFarmer u.state.products) → Run smallHandler .free u v →
    v.state.EveryOrder (Order.OfOneFarmer u.state.products) := by
  intro h
  have orders := h ⟨datesBesideHoney, []⟩
    ((⟨datesBesideHoney, []⟩ : Market).after smallHandler orderedBeforeReload) rfl
    cartsHold_datesBesideHoney
    (fun id o ho => by simp [datesBesideHoney, datesCart, datesMarket] at ho)
    (Run.after_free (by decide +kernel))
  have posted : (((⟨datesBesideHoney, []⟩ : Market).after smallHandler
      orderedBeforeReload).state.orders["x"]?.map fun o =>
        (o.farmerId, o.orderDetails.map (·.productId))) = some ("farmer", ["dates", "honey"]) := by
    decide +kernel
  obtain ⟨o, ho, hcontent⟩ := Option.map_eq_some_iff.1 posted
  obtain ⟨hfarmer, hids⟩ := Prod.mk.inj hcontent
  have honey : "honey" ∈ o.orderDetails.map (·.productId) := by
    rw [hids]
    decide
  obtain ⟨line, hline, hid⟩ := List.mem_map.1 honey
  have := orders "x" o ho line hline { farmerId := "other farmer", qty := some 10 } (by
    rw [hid]
    rfl)
  rw [hfarmer] at this
  exact absurd this (by decide)

end Gherass
