import Gherass.CartPage
import Gherass.Marketplace

set_option autoImplicit false

/-!
# What additions leave to be read

A customer adds products one after another, on any of the customer's devices. A read
returns the first farmer's products, whatever farmer it is asked for.
-/
namespace Gherass

open EventLoop EventLoop.Async FirebaseHelper

def CartStore.Carries (c : CartStore) (farmerId : String) : Prop :=
  ∃ id p, c.line farmerId id = some p

def CartStore.Grows (c c' : CartStore) : Prop :=
  ∀ f id p, c.line f id = some p → ∃ p', c'.line f id = some p' ∧ p'.key = p.key

/-- The objects on show that have an id stand for stored lines. -/
structure PageShape (c : CartStore) (m : MyCartController) : Prop where
  allocated : ∀ i ∈ m.lists m.myCartList, i < m.allocated
  stored : ∀ i ∈ m.lists m.myCartList, (m.objects i).id ≠ "" →
    ∃ p, c.line (m.objects i).farmerId (m.objects i).id = some p ∧ p.key = (m.objects i).key

namespace CartStore

variable {c c' c'' : CartStore}

theorem Grows.trans (h : c.Grows c') (h' : c'.Grows c'') : c.Grows c'' := by
  intro f id p hp
  obtain ⟨p', hp', hkey⟩ := h f id p hp
  obtain ⟨p'', hp'', hkey'⟩ := h' f id p' hp'
  exact ⟨p'', hp'', hkey'.trans hkey⟩

theorem SameKeys.grows (h : c.SameKeys c') : c.Grows c' := by
  intro f id p hp
  have hline := h.line f id
  rw [hp, Option.map_some] at hline
  exact Option.map_eq_some_iff.1 hline

theorem SameKeys.carries (h : c.SameKeys c') (f : String) : c'.Carries f ↔ c.Carries f := by
  constructor
  · rintro ⟨id, p, hp⟩
    have hline := h.line f id
    rw [hp, Option.map_some] at hline
    obtain ⟨q, hq, -⟩ := Option.map_eq_some_iff.1 hline.symm
    exact ⟨id, q, hq⟩
  · rintro ⟨id, p, hp⟩
    obtain ⟨q, hq, -⟩ := h.grows f id p hp
    exact ⟨id, q, hq⟩

theorem grows_addLine (p : Product) {id : String}
    (hfree : c.line p.farmerId id = none) : c.Grows (c.addLine id p) := by
  intro f i q hq
  cases hlines : c.linesOf p.farmerId p.prodId with
  | nil =>
    refine ⟨q, ?_, rfl⟩
    rw [line_addLine_new hlines, if_neg, hq]
    rintro ⟨rfl, rfl⟩
    rw [hfree] at hq
    cases hq
  | cons doc rest =>
    rw [line_addLine_old hlines]
    split
    case isTrue hpath =>
      obtain ⟨rfl, rfl⟩ := hpath
      have hline := (mem_linesOf.1 (hlines ▸ List.mem_cons_self ..)).1
      rw [hq] at hline
      exact ⟨_, rfl, by rw [Option.some.inj hline]; rfl⟩
    case isFalse => exact ⟨q, hq, rfl⟩

theorem carries_addLine (p : Product) (id f : String) :
    (c.addLine id p).Carries f ↔ c.Carries f ∨ f = p.farmerId := by
  cases hlines : c.linesOf p.farmerId p.prodId with
  | nil =>
    constructor
    · rintro ⟨i, q, hq⟩
      rw [line_addLine_new hlines] at hq
      split at hq
      case isTrue hpath => exact .inr hpath.1.symm
      case isFalse => exact .inl ⟨i, q, hq⟩
    · rintro (⟨i, q, hq⟩ | rfl)
      · by_cases hpath : p.farmerId = f ∧ id = i
        · exact ⟨i, _, by rw [line_addLine_new hlines, if_pos hpath]⟩
        · exact ⟨i, q, by rw [line_addLine_new hlines, if_neg hpath, hq]⟩
      · exact ⟨id, _, by rw [line_addLine_new hlines, if_pos ⟨rfl, rfl⟩]⟩
  | cons doc rest =>
    have hline := (mem_linesOf.1 (hlines ▸ List.mem_cons_self ..)).1
    constructor
    · rintro ⟨i, q, hq⟩
      rw [line_addLine_old hlines] at hq
      split at hq
      case isTrue hpath => exact .inr hpath.1.symm
      case isFalse => exact .inl ⟨i, q, hq⟩
    · rintro (⟨i, q, hq⟩ | rfl)
      · by_cases hpath : p.farmerId = f ∧ doc.1 = i
        · exact ⟨i, _, by rw [line_addLine_old hlines, if_pos hpath]⟩
        · exact ⟨i, q, by rw [line_addLine_old hlines, if_neg hpath, hq]⟩
      · exact ⟨doc.1, _, by rw [line_addLine_old hlines, if_pos ⟨rfl, rfl⟩]⟩

end CartStore

theorem PageShape.grows {c c' : CartStore} {m : MyCartController} (h : PageShape c m)
    (hc : c.Grows c') : PageShape c' m := by
  refine ⟨h.allocated, fun i hi hid => ?_⟩
  obtain ⟨p, hp, hkey⟩ := h.stored i hi hid
  obtain ⟨p', hp', hkey'⟩ := hc _ _ p hp
  exact ⟨p', hp', hkey'.trans hkey⟩

section Additions

open MyCartController

variable {ok : Access → Bool} {ids : IdSupply} {s t : World} {d : Device}

theorem Reloaded.pageShape (h : Reloaded d s t) (hs : CartShape (s.carts d.uid)) :
    PageShape (t.carts d.uid) (t.cartPages d) := by
  refine ⟨h.allocated, fun i hi _ => ?_⟩
  have hmem : ((t.cartPages d).objects i).key ∈ (t.cartPages d).shown.map Product.key :=
    List.mem_map_of_mem (List.mem_map_of_mem hi)
  rw [h.shown] at hmem
  obtain ⟨p, hp, hkey⟩ := List.mem_map.1 hmem
  obtain ⟨-, hline, -, -⟩ := hs.read_line hp
  obtain ⟨p', hp', hkey'⟩ := h.cart.grows _ _ p hline
  have hpath := hkey
  simp only [Product.key, Prod.mk.injEq] at hpath
  rw [← hpath.1, ← hpath.2.1]
  exact ⟨p', hp', hkey'.trans hkey⟩

structure Added (d : Device) (p : Product) (s t : World) : Prop where
  shape : CartShape (t.carts d.uid)
  grows : (s.carts d.uid).Grows (t.carts d.uid)
  carries : ∀ f, (t.carts d.uid).Carries f ↔
    (s.carts d.uid).Carries f ∨ f = p.farmerId ∧ f ≠ ""
  page : PageShape (t.carts d.uid) (t.cartPages d)
  others : ∀ d', d' ≠ d → t.cartPages d' = s.cartPages d'

variable (ids) in
theorem yields_addProductsToCart (through : ∀ l, ok l = true) (uid : Uid) (p : Product) :
    ∃ t, Yields ok (addProductsToCart ids uid [p]) s (.ok ()) t ∧ t.cartPages = s.cartPages ∧
      t.carts uid = if p.farmerId = "" then s.carts uid
        else ((s.carts uid).openDoc p.farmerId).addLine (s.lineId ids uid p.farmerId) p := by
  by_cases hp : p.farmerId = ""
  · have hskip : Yields ok (addProductToCart ids uid p) s (.ok ()) s := by
      rw [addProductToCart, if_pos hp]
      exact .pure ()
    exact ⟨s, .tryCatch (.bind hskip (.pure ())), rfl, (if_pos hp).symm⟩
  · obtain ⟨n, hadd⟩ := yields_addProductToCart ids (s := s) through uid hp
    exact ⟨_, .tryCatch (.bind hadd (.pure ())), rfl, (Function.update_self ..).trans
      (if_neg hp).symm⟩

variable (ids) in
theorem yields_addNew (through : ∀ l, ok l = true) (hs : CartShape (s.carts d.uid))
    (p : Product) : ∃ t, Yields ok (do
      setPage d fun c => c.addObject p
      addProductsToCart ids d.uid [p]
      spawn (getCartProducts d p.farmerId)) s (.ok ()) t ∧ Added d p s t := by
  set listed := s.setCartPage d fun c => c.addObject p with hlisted
  obtain ⟨added, hadded, hpages, hcart⟩ := yields_addProductsToCart ids (s := listed)
    through d.uid p
  have hcarts : listed.carts = s.carts := rfl
  have hid : listed.lineId ids d.uid p.farmerId = s.lineId ids d.uid p.farmerId := rfl
  rw [hcarts, hid] at hcart
  have hshape : CartShape (added.carts d.uid) := by
    rw [hcart]
    split
    · exact hs
    case isFalse hf =>
      exact (hs.openDoc _).addLine (((s.carts d.uid).mem_openDoc _ _).2 (.inl rfl)) hf
        (ids.nonempty _ _)
  have hgrows : (s.carts d.uid).Grows (added.carts d.uid) := by
    rw [hcart]
    split
    · exact fun _ _ q hq => ⟨q, hq, rfl⟩
    · exact CartStore.grows_addLine (c := (s.carts d.uid).openDoc p.farmerId) p
        (lineId_free s ids d.uid p.farmerId)
  have hcarries : ∀ f, (added.carts d.uid).Carries f ↔
      (s.carts d.uid).Carries f ∨ f = p.farmerId ∧ f ≠ "" := by
    intro f
    rw [hcart]
    split
    case isTrue hf =>
      refine ⟨.inl, fun h => h.resolve_right ?_⟩
      rintro ⟨rfl, hne⟩
      exact hne hf
    case isFalse hf =>
      rw [CartStore.carries_addLine]
      refine or_congr .rfl ⟨?_, And.left⟩
      rintro rfl
      exact ⟨rfl, hf⟩
  obtain ⟨t, ht, hreload⟩ := yields_getCartProducts through hshape p.farmerId
  refine ⟨t, .bind (.change _) (.bind hadded (.spawned ht)), ?_⟩
  refine ⟨hshape.of_sameKeys hreload.cart, hgrows.trans hreload.cart.grows, fun f => ?_,
    hreload.pageShape hshape, fun d' hd => ?_⟩
  · rw [hreload.cart.carries, hcarries]
  · rw [hreload.others d' hd, hpages, setCartPage_of_ne hd]

theorem yields_addShown (through : ∀ l, ok l = true) (hs : CartShape (s.carts d.uid))
    (hpage : PageShape (s.carts d.uid) (s.cartPages d)) {object : ℕ}
    (hobject : object ∈ (s.cartPages d).lists (s.cartPages d).myCartList) {p : Product}
    (hid : ((s.cartPages d).objects object).id ≠ "")
    (hfarmer : ((s.cartPages d).objects object).farmerId = p.farmerId) (qty previousQty : ℤ) :
    ∃ t, Yields ok (do
      setPage d fun c => c.setQty object ((c.objects object).qty + qty)
      MyCartController.updateProductInCart d object previousQty
      spawn (getCartProducts d p.farmerId)) s (.ok ()) t ∧ Added d p s t := by
  set changed := s.setCartPage d fun c => c.setQty object ((c.objects object).qty + qty)
    with hchanged
  have hsame : s.SameKeys d changed := by
    refine ⟨.refl _, ?_, fun d' hd => setCartPage_of_ne hd _⟩
    rw [World.setCartPage_self]
    exact sameKeys_setQty _ _ _
  obtain ⟨line, hline, hkey⟩ := hpage.stored object hobject hid
  obtain ⟨-, hf, -, -, -⟩ := hs.placed _ _ _ hline
  have hstores : changed.StoresObject d object :=
    World.StoresObject.later ⟨by rw [hline, Option.map_some, hkey], hf, hid⟩ hsame
  have hshape : CartShape (changed.carts d.uid) := hs
  obtain ⟨first, hfirst, hreload⟩ := yields_getCartProducts through hshape
    ((changed.cartPages d).objects object).farmerId
  -- the object is older than the reload, so it still stands for its line
  have hstill : first.StoresObject d object := by
    have hold := hreload.older object (hsame.page.allocated ▸ hpage.allocated object hobject)
    obtain ⟨hl, hf', hi'⟩ := hstores
    have hpath := hold
    simp only [Product.key, Prod.mk.injEq] at hpath
    refine ⟨?_, hpath.1 ▸ hf', hpath.2.1 ▸ hi'⟩
    rw [hpath.1, hpath.2.1, hreload.cart.line, hl, hold]
  obtain ⟨stored, hstored, hwrite⟩ := yields_storeObject through
    (.storeLine d.uid ((first.cartPages d).objects object) previousQty) hstill
  have hcart : (s.carts d.uid).SameKeys (stored.carts d.uid) := hreload.cart.trans hwrite.cart
  have hshape' : CartShape (stored.carts d.uid) := hs.of_sameKeys hcart
  obtain ⟨t, ht, hreload'⟩ := yields_getCartProducts through hshape' p.farmerId
  have update : Yields ok (MyCartController.updateProductInCart d object previousQty) changed
      (.ok ()) stored :=
    .tryCatch (.bind (.look _) (.bind (.spawned hfirst) (.bind (.look _) hstored)))
  have hall : (s.carts d.uid).SameKeys (t.carts d.uid) := hcart.trans hreload'.cart
  refine ⟨t, .bind (.change _) (.bind update (.spawned ht)), hs.of_sameKeys hall,
    hall.grows, fun f => ?_, hreload'.pageShape hshape', fun d' hd => ?_⟩
  · rw [hall.carries]
    refine ⟨.inl, fun h => h.elim id ?_⟩
    rintro ⟨rfl, -⟩
    exact ⟨_, line, hfarmer ▸ hline⟩
  · rw [hreload'.others d' hd, hwrite.others d' hd, hreload.others d' hd, hsame.others d' hd]

variable (ids) in
theorem yields_addToCart (through : ∀ l, ok l = true) (hs : CartShape (s.carts d.uid))
    (hpage : PageShape (s.carts d.uid) (s.cartPages d)) (p : Product) :
    ∃ t, Yields ok (addToCart ids d p) s (.ok ()) t ∧ Added d p s t := by
  set existing := ((s.cartPages d).lists (s.cartPages d).myCartList).find? fun i =>
    ((s.cartPages d).objects i).prodId = p.prodId ∧
      ((s.cartPages d).objects i).farmerId = p.farmerId with hexisting
  cases hfound : existing.filter fun i => ((s.cartPages d).objects i).id ≠ "" with
  | none =>
    obtain ⟨t, ht, hadded⟩ := yields_addNew ids through hs p
    refine ⟨t, .tryCatch (.bind (.look _) ?_), hadded⟩
    dsimp only
    rw [← hexisting, hfound]
    exact ht
  | some object =>
    obtain ⟨hsome, hid⟩ := Option.filter_eq_some_iff.1 hfound
    have hmem := List.mem_of_find?_eq_some hsome
    have hmatch := List.find?_some hsome
    simp only [decide_eq_true_eq] at hmatch hid
    obtain ⟨t, ht, hadded⟩ := yields_addShown through hs hpage hmem hid hmatch.2 p.qty
      ((s.cartPages d).objects object).qty
    refine ⟨t, .tryCatch (.bind (.look _) ?_), hadded⟩
    dsimp only
    rw [← hexisting, hfound]
    exact ht

end Additions

def completedAddition (uid : Uid) : Event → (Access → Bool) → World → Prop
  | .addToCart d _, ok, _ => d.uid = uid ∧ ∀ l, ok l = true
  | _, _, _ => False

def additions : List (Event × (Access → Bool)) → List Product
  | [] => []
  | (.addToCart _ p, _) :: turns => p :: additions turns
  | _ :: turns => additions turns

structure FreshCart (uid : Uid) (w : World) : Prop where
  line : ∀ f id, (w.carts uid).line f id = none
  shown : ∀ d, d.uid = uid → (w.cartPages d).lists (w.cartPages d).myCartList = []

structure CustomerShape (uid : Uid) (w : World) : Prop where
  cart : CartShape (w.carts uid)
  pages : ∀ d, d.uid = uid → PageShape (w.carts uid) (w.cartPages d)

theorem FreshCart.shape {uid : Uid} {w : World} (h : FreshCart uid w) : CustomerShape uid w := by
  refine ⟨⟨fun f id p hp => ?_, fun f i _ p _ hp => ?_⟩, fun d hd => ⟨fun i hi => ?_, fun i hi => ?_⟩⟩
  · rw [h.line] at hp
    cases hp
  · rw [h.line] at hp
    cases hp
  · rw [h.shown d hd] at hi
    cases hi
  · rw [h.shown d hd] at hi
    cases hi

section Runs

variable {flow : StatusLists} {ids : IdSupply} {uid : Uid} {s : World}

variable (flow ids) in
theorem addition_turn {d : Device} (hs : CustomerShape d.uid s) {ok : Access → Bool}
    (through : ∀ l, ok l = true) (p : Product) :
    CustomerShape d.uid ((handler flow ids (.addToCart d p)).alone ok s).2 ∧
      ∀ f, (((handler flow ids (.addToCart d p)).alone ok s).2.carts d.uid).Carries f ↔
        (s.carts d.uid).Carries f ∨ f = p.farmerId ∧ f ≠ "" := by
  set asked := s.request d.uid p (· + p.qty) with hasked
  obtain ⟨t, ht, hadded⟩ := yields_addToCart ids (s := asked) through hs.cart
    (hs.pages d rfl) p
  have run : Yields ok (program flow ids (.addToCart d p)) s (.ok ()) (t.requestOver d.uid p) :=
    .bind (.change _) (.bind ht (.change _))
  rw [handler, run.task]
  refine ⟨⟨hadded.shape, fun d' hd' => ?_⟩, hadded.carries⟩
  by_cases hd : d' = d
  · subst hd
    exact hadded.page
  · have others : (t.requestOver d.uid p).cartPages d' = s.cartPages d' := hadded.others d' hd
    rw [others]
    exact (hs.pages d' hd').grows hadded.grows

theorem additions_run {turns : List (Event × (Access → Bool))}
    (hm : EachMeets (handler flow ids) (completedAddition uid) s turns)
    (hs : CustomerShape uid s) :
    CustomerShape uid (runEach (handler flow ids) s turns) ∧
      ∀ f, ((runEach (handler flow ids) s turns).carts uid).Carries f ↔
        (s.carts uid).Carries f ∨ ∃ p ∈ additions turns, f = p.farmerId ∧ f ≠ "" := by
  induction turns generalizing s with
  | nil => exact ⟨hs, fun f => by simp [runEach, additions]⟩
  | cons turn turns ih =>
    obtain ⟨e, ok⟩ := turn
    obtain ⟨hturn, hrest⟩ := hm
    cases e with
    | addToCart d p =>
      obtain ⟨rfl, through⟩ := hturn
      obtain ⟨hshape, hcarries⟩ := addition_turn flow ids hs through p
      obtain ⟨hfinal, hall⟩ := ih hrest hshape
      refine ⟨hfinal, fun f => (hall f).trans ?_⟩
      rw [hcarries, additions]
      simp only [List.mem_cons, exists_eq_or_imp, or_assoc]
    | _ => cases hturn

end Runs

/-- A read for the farmer returns the farmer's products in the cart and nothing else. -/
def ReadsHonour (uid : Uid) (farmerId : String) (w : World) : Prop :=
  ∀ p, readsBack uid farmerId p w ↔ ∃ id, (w.carts uid).line farmerId id = some p

def reloaded (flow : StatusLists) (ids : IdSupply) (d : Device) (farmerId : String) (w : World) :
    World := ((handler flow ids (.openCart d farmerId)).alone (fun _ => true) w).2

/-- After a reload every product in the cart is on show once. -/
def ListedOnce (flow : StatusLists) (ids : IdSupply) (d : Device) (farmerId : String) (w : World) :
    Prop :=
  ∀ f id p, ((reloaded flow ids d farmerId w).carts d.uid).line f id = some p →
    ((reloaded flow ids d farmerId w).cartPages d).shown.countP
      (fun q => q.farmerId = f ∧ q.prodId = p.prodId) = 1

section Completeness

variable {flow : StatusLists} {ids : IdSupply} {uid : Uid} {w : World} {d : Device}

theorem mem_toList_of_line {c : CartStore} {f id : String} {p : Product}
    (h : c.line f id = some p) : (c.products f).toList ≠ [] :=
  List.ne_nil_of_mem (Std.TreeMap.mem_toList_iff_getElem?_eq_some.2 h)

theorem CartShape.first {c : CartStore} (h : CartShape c) {f : String} (hf : c.Carries f) :
    ∃ first, c.firstFarmer = some first ∧ c.Carries first := by
  obtain ⟨id, p, hp⟩ := hf
  have hdoc := (h.placed f id p hp).1
  cases hfirst : c.firstFarmer with
  | none =>
    have := List.find?_eq_none.1 hfirst f (Std.TreeSet.mem_toList.2 hdoc)
    simp only [ne_eq, decide_eq_true_eq, not_not] at this
    exact absurd this (mem_toList_of_line hp)
  | some first =>
    have hne := List.find?_some hfirst
    simp only [ne_eq, decide_eq_true_eq] at hne
    obtain ⟨doc, hdoc⟩ := List.exists_mem_of_ne_nil _ hne
    exact ⟨first, rfl, doc.1, doc.2, Std.TreeMap.mem_toList_iff_getElem?_eq_some.1 hdoc⟩

variable (flow ids) in
theorem reloaded_spec (hs : CartShape (w.carts d.uid)) (farmerId : String) :
    Reloaded d w (reloaded flow ids d farmerId w) := by
  obtain ⟨t, ht, hreload⟩ := yields_getCartProducts (fun _ : Access => rfl) hs farmerId
  have run : reloaded flow ids d farmerId w = t := ht.task
  exact run ▸ hreload

theorem Reloaded.countP {t : World} (h : Reloaded d w t) (f prodId : String) :
    (t.cartPages d).shown.countP (fun q => q.farmerId = f ∧ q.prodId = prodId) =
      (w.carts d.uid).read.countP fun q => q.farmerId = f ∧ q.prodId = prodId := by
  have hkeys := congrArg (List.countP fun k : String × String × String =>
    decide (k.1 = f ∧ k.2.2 = prodId)) h.shown
  rw [List.countP_map, List.countP_map] at hkeys
  exact hkeys

theorem readsHonour_of_only (hs : CartShape (w.carts uid)) {f : String}
    (honly : ∀ g, (w.carts uid).Carries g → g = f) : ReadsHonour uid f w := by
  intro p
  rw [readsBack_iff]
  constructor
  · intro hp
    obtain ⟨-, hline, -, -⟩ := hs.read_line hp
    obtain rfl := honly _ ⟨_, p, hline⟩
    exact ⟨p.id, hline⟩
  · rintro ⟨id, hline⟩
    obtain ⟨first, hfirst, hcarries⟩ := hs.first ⟨id, p, hline⟩
    obtain rfl := honly _ hcarries
    exact (CartStore.read_of_first hfirst p).2 ⟨id, hline⟩

theorem listedOnce_of_only (hs : CartShape (w.carts d.uid)) {f : String}
    (honly : ∀ g, (w.carts d.uid).Carries g → g = f) : ListedOnce flow ids d f w := by
  have hreload := reloaded_spec flow ids hs f
  intro g id p hp
  obtain rfl := honly g ((hreload.cart.carries g).1 ⟨id, p, hp⟩)
  have hold := hreload.cart.line g id
  rw [hp, Option.map_some] at hold
  obtain ⟨q, hq, hkey⟩ := Option.map_eq_some_iff.1 hold.symm
  have hprod : q.prodId = p.prodId := congrArg (·.2.2) hkey
  obtain ⟨first, hfirst, hcarries⟩ := hs.first ⟨id, q, hq⟩
  obtain rfl := honly _ hcarries
  have hread : q ∈ (w.carts d.uid).read := (CartStore.read_of_first hfirst q).2 ⟨id, hq⟩
  have hfarmers : ∀ r ∈ (w.carts d.uid).read, r.farmerId = first := fun r hr => by
    have := (hs.read_line hr).1
    rw [hfirst] at this
    exact (Option.some.inj this).symm
  rw [hreload.countP]
  calc (w.carts d.uid).read.countP (fun r => r.farmerId = first ∧ r.prodId = p.prodId)
      = (w.carts d.uid).read.countP (fun r => r.prodId == p.prodId) :=
        List.countP_congr fun r hr => by simp [hfarmers r hr]
    _ = ((w.carts d.uid).read.map (·.prodId)).count p.prodId := by
        rw [List.count, List.countP_map]
        rfl
    _ = 1 := List.count_eq_one_of_mem hs.nodup_read (List.mem_map.2 ⟨q, hread, hprod⟩)

theorem only_of_complete (hs : CartShape (w.carts d.uid)) {f : String}
    (hread : ReadsHonour d.uid f w) (hlist : ListedOnce flow ids d f w) {g : String}
    (hg : (w.carts d.uid).Carries g) : g = f := by
  by_contra hne
  obtain ⟨first, hfirst, id, p, hp⟩ := hs.first hg
  have hfarmer := (hs.placed first id p hp).2.2.2.1
  by_cases hff : first = f
  · -- nothing of `g` is on show
    subst hff
    obtain ⟨i, q, hq⟩ := hg
    have hreload := reloaded_spec flow ids hs first
    obtain ⟨q', hq', -⟩ := hreload.cart.grows g i q hq
    have hone := hlist g i q' hq'
    rw [hreload.countP] at hone
    have hzero : (w.carts d.uid).read.countP
        (fun r => r.farmerId = g ∧ r.prodId = q'.prodId) = 0 := by
      refine List.countP_eq_zero.2 fun r hr => ?_
      have := (hs.read_line hr).1
      rw [hfirst] at this
      have hr' : r.farmerId = first := (Option.some.inj this).symm
      simp only [decide_eq_true_eq, not_and]
      exact fun h _ => hne (h.symm.trans hr')
    omega
  · -- the read for `f` returns a product of `first`
    have hp' : p ∈ (w.carts d.uid).read := (CartStore.read_of_first hfirst p).2 ⟨id, hp⟩
    obtain ⟨j, hj⟩ := (hread p).1 (readsBack_iff.2 hp')
    exact hff (hfarmer.symm.trans (hs.placed f j p hj).2.2.2.1)

end Completeness

/-- After any additions, reads for a farmer and reloads show all there is exactly when
    only products of that farmer were added. -/
theorem reads_complete_iff {flow : StatusLists} {ids : IdSupply} {d : Device} {u : World}
    {turns : List (Event × (Access → Bool))} (hu : FreshCart d.uid u)
    (hm : EachMeets (handler flow ids) (completedAddition d.uid) u turns) (f : String) :
    (ReadsHonour d.uid f (runEach (handler flow ids) u turns) ∧
        ListedOnce flow ids d f (runEach (handler flow ids) u turns)) ↔
      ∀ p ∈ additions turns, p.farmerId ≠ "" → p.farmerId = f := by
  obtain ⟨hshape, hcarries⟩ := additions_run hm hu.shape
  constructor
  · rintro ⟨hread, hlist⟩ p hp hne
    exact only_of_complete hshape.cart hread hlist
      ((hcarries p.farmerId).2 (.inr ⟨p, hp, rfl, hne⟩))
  · intro hall
    have honly : ∀ g, ((runEach (handler flow ids) u turns).carts d.uid).Carries g → g = f := by
      intro g hg
      rcases (hcarries g).1 hg with ⟨id, q, hq⟩ | ⟨p, hp, rfl, hne⟩
      · rw [hu.line] at hq
        cases hq
      · exact hall p hp hne
    exact ⟨readsHonour_of_only hshape.cart honly, listedOnce_of_only hshape.cart honly⟩

theorem reads_complete_honey :
    ReadsHonour aCustomer.uid "other farmer"
      (runEach smallHandler twoFarmsMarket (undisturbed [.addToCart aCustomer someHoney])) ∧
    ListedOnce smallFlow.toStatusLists .longer aCustomer "other farmer"
      (runEach smallHandler twoFarmsMarket (undisturbed [.addToCart aCustomer someHoney])) := by
  have hmeets : EachMeets smallHandler (completedAddition aCustomer.uid) twoFarmsMarket
      (undisturbed [.addToCart aCustomer someHoney]) := ⟨⟨rfl, fun _ => rfl⟩, trivial⟩
  refine (reads_complete_iff ⟨fun _ _ => Std.TreeMap.getElem?_emptyc, fun _ _ => rfl⟩ hmeets
    "other farmer").2 fun p hp _ => ?_
  obtain rfl := List.mem_singleton.1 hp
  rfl

def Event.inStock (s : World) : Event → Bool
  | .addToCart _ p => (s.productAt p.farmerId p.prodId).any fun q => p.qty ≤ q.stock
  | _ => true

/-- Honey, then dates: a read for the honey's farmer returns the dates. -/
theorem dates_for_honey : ¬ ∀ (d : Device) (u : World) (turns : List (Event × (Access → Bool)))
    (f : String), FreshCart d.uid u → EachMeets smallHandler (completedAddition d.uid) u turns →
    EachMeets smallHandler (fun e _ s => e.inStock s) u turns →
    ReadsHonour d.uid f (runEach smallHandler u turns) ∧
      ListedOnce smallFlow.toStatusLists .longer d f (runEach smallHandler u turns) := by
  intro h
  let dates : Product :=
    { farmerId := "farmer", prodId := "dates", name := "Dates", price := 4, qty := 3 }
  have hread := (h aCustomer twoFarmsMarket
    (undisturbed [.addToCart aCustomer someHoney, .addToCart aCustomer dates]) "other farmer"
    ⟨fun _ _ => Std.TreeMap.getElem?_emptyc, fun _ _ => rfl⟩
    ⟨⟨rfl, fun _ => rfl⟩, ⟨rfl, fun _ => rfl⟩, trivial⟩
    ⟨by decide +kernel, by decide +kernel, trivial⟩).1 { someHoney with id := "x" }
  exact absurd (hread.2 ⟨"x", by decide +kernel⟩) (by decide +kernel)

end Gherass
