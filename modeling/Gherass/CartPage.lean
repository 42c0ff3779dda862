import Gherass.CartLines

set_option autoImplicit false

/-!
# The cart page, when nothing happens in between

Which lines are on show and which are stored after a reload, quantities apart.
-/
namespace Gherass

open EventLoop EventLoop.Async FirebaseHelper

def Product.key (p : Product) : String × String × String := (p.farmerId, p.id, p.prodId)

structure CartStore.SameKeys (c c' : CartStore) : Prop where
  docs : c'.docs = c.docs
  line : ∀ f id, (c'.line f id).map Product.key = (c.line f id).map Product.key

theorem CartStore.SameKeys.refl (c : CartStore) : c.SameKeys c := ⟨rfl, fun _ _ => rfl⟩

theorem CartStore.SameKeys.trans {c c' c'' : CartStore} (h : c.SameKeys c')
    (h' : c'.SameKeys c'') : c.SameKeys c'' :=
  ⟨h'.docs.trans h.docs, fun f id => (h'.line f id).trans (h.line f id)⟩

namespace MyCartController

def listPart (c : MyCartController) : (ℕ → Product) × (ℕ → List ℕ) × ℕ × ℕ :=
  (c.objects, c.lists, c.allocated, c.myCartList)

theorem listPart_eq {c c' : MyCartController} (h : c'.objects = c.objects ∧ c'.lists = c.lists ∧
    c'.allocated = c.allocated ∧ c'.myCartList = c.myCartList) : c'.listPart = c.listPart := by
  simp only [listPart, h]

structure SameKeys (c c' : MyCartController) : Prop where
  lists : c'.lists = c.lists
  allocated : c'.allocated = c.allocated
  myCartList : c'.myCartList = c.myCartList
  objects : ∀ i, (c'.objects i).key = (c.objects i).key

theorem SameKeys.trans {c c' c'' : MyCartController} (h : c.SameKeys c') (h' : c'.SameKeys c'') :
    c.SameKeys c'' :=
  ⟨h'.lists.trans h.lists, h'.allocated.trans h.allocated, h'.myCartList.trans h.myCartList,
    fun i => (h'.objects i).trans (h.objects i)⟩

theorem SameKeys.of_listPart {c c' : MyCartController} (h : c'.listPart = c.listPart) :
    c.SameKeys c' := by
  simp only [listPart, Prod.mk.injEq] at h
  exact ⟨h.2.1, h.2.2.1, h.2.2.2, fun i => by rw [h.1]⟩

theorem sameKeys_setQty (c : MyCartController) (object : ℕ) (qty : ℤ) :
    c.SameKeys (c.setQty object qty) := by
  refine ⟨rfl, rfl, rfl, fun i => ?_⟩
  by_cases h : i = object
  · subst h
    simp [setQty, Product.key]
  · simp [setQty, h]

theorem SameKeys.shown {c c' : MyCartController} (h : c.SameKeys c') :
    c'.shown.map Product.key = c.shown.map Product.key := by
  simp only [MyCartController.shown, contents, List.map_map, h.lists, h.myCartList]
  exact List.map_congr_left fun i _ => h.objects i

theorem shown_replaceList (c : MyCartController) (products : List Product) :
    (c.replaceList products).shown = products := by
  refine List.ext_getElem ?_ fun i hi hi' => ?_
  · simp [MyCartController.shown, contents, replaceList]
  · simp [MyCartController.shown, contents, replaceList, hi']

theorem objects_replaceList (c : MyCartController) (products : List Product) {i : ℕ}
    (h : i < c.allocated) : (c.replaceList products).objects i = c.objects i := by
  simp [replaceList, Nat.not_le.2 h]

theorem lt_replaceList (c : MyCartController) (products : List Product) {i : ℕ}
    (h : i ∈ (c.replaceList products).lists (c.replaceList products).myCartList) :
    i < (c.replaceList products).allocated := by
  simp only [replaceList, Function.update_self, List.mem_map, List.mem_range] at h ⊢
  obtain ⟨j, hj, rfl⟩ := h
  omega

theorem splitProducts_nodup {products : List Product} (h : (products.map (·.prodId)).Nodup) :
    splitProducts products = (products, []) := by
  have general : ∀ (done rest : List Product), ((done ++ rest).map (·.prodId)).Nodup →
      rest.foldl (fun acc p =>
        if acc.1.any fun q => q.prodId = p.prodId then (acc.1, acc.2 ++ [p])
        else (acc.1 ++ [p], acc.2)) (done, ([] : List Product)) = (done ++ rest, []) := by
    intro done rest hnodup
    induction rest generalizing done with
    | nil => simp
    | cons p rest ih =>
      have hnew : ¬ done.any fun q => q.prodId = p.prodId := by
        rw [List.map_append, List.nodup_append] at hnodup
        simp only [List.any_eq_true, decide_eq_true_eq, not_exists, not_and]
        intro q hq heq
        exact hnodup.2.2 q.prodId (List.mem_map.2 ⟨q, hq, rfl⟩) p.prodId (by simp) heq
      rw [List.foldl_cons, if_neg hnew, ih, List.append_assoc, List.singleton_append]
      rwa [List.append_assoc, List.singleton_append]
  exact general [] products h

end MyCartController

structure World.SameKeys (d : Device) (s t : World) : Prop where
  cart : (s.carts d.uid).SameKeys (t.carts d.uid)
  page : (s.cartPages d).SameKeys (t.cartPages d)
  others : ∀ d', d' ≠ d → t.cartPages d' = s.cartPages d'

theorem World.SameKeys.trans {d : Device} {s t u : World} (h : s.SameKeys d t)
    (h' : t.SameKeys d u) : s.SameKeys d u :=
  ⟨h.cart.trans h'.cart, h.page.trans h'.page,
    fun d' hd => (h'.others d' hd).trans (h.others d' hd)⟩

theorem World.SameKeys.of_lists {d : Device} {s t : World} (hcarts : t.carts = s.carts)
    (hpage : (t.cartPages d).listPart = (s.cartPages d).listPart)
    (hothers : ∀ d', d' ≠ d → t.cartPages d' = s.cartPages d') : s.SameKeys d t :=
  ⟨by rw [hcarts]; exact .refl _, .of_listPart hpage, hothers⟩

section Programs

open MyCartController

variable {ok : Access → Bool} {s : World} {d : Device}

theorem setCartPage_of_ne {d' : Device} (h : d' ≠ d) (f : MyCartController → MyCartController) :
    (s.setCartPage d f).cartPages d' = s.cartPages d' := Function.update_of_ne h ..

/-- The cart page of `d` alone may change, and only beside its list. -/
def besideList (d : Device) : Contract World Access :=
  .ofFrame fun w => (w.carts, (w.cartPages d).listPart, fun d' : { d' // d' ≠ d } => w.cartPages d')

theorem keeps_setCartPage {f : MyCartController → MyCartController}
    (hf : ∀ c, (f c).listPart = c.listPart) :
    (besideList d).Keeps fun w => w.setCartPage d f := by
  refine fun s _ => ⟨trivial, Prod.ext rfl (Prod.ext ?_ ?_)⟩
  · simp only [World.setCartPage_self, hf]
  · funext d'
    exact setCartPage_of_ne d'.2 f

theorem quiet_getCustomerDeliveryAddress_beside :
    Quiet (besideList d) (getCustomerDeliveryAddress d) :=
  quiet_getCustomerDeliveryAddress_of (fun _ _ => trivial) fun _ hf =>
    .change (keeps_setCartPage fun c => listPart_eq (hf c))

theorem besideList_sameKeys {t : World} (h : (besideList d).rel s t) : s.SameKeys d t := by
  obtain ⟨hcarts, hpage, hothers⟩ := Prod.mk.inj h |>.imp_right Prod.mk.inj
  exact .of_lists hcarts hpage fun d' hd => congrFun hothers ⟨d', hd⟩

def World.StoresObject (w : World) (d : Device) (object : ℕ) : Prop :=
  let p := (w.cartPages d).objects object
  ((w.carts d.uid).line p.farmerId p.id).map Product.key = some p.key ∧ p.farmerId ≠ "" ∧ p.id ≠ ""

theorem World.StoresObject.later {t : World} {object : ℕ} (h : s.StoresObject d object)
    (hst : s.SameKeys d t) : t.StoresObject d object := by
  obtain ⟨hline, hf, hid⟩ := h
  have hkey := hst.page.objects object
  simp only [Product.key, Prod.mk.injEq] at hkey
  obtain ⟨hfarmer, hi, hprod⟩ := hkey
  refine ⟨?_, hfarmer ▸ hf, hi ▸ hid⟩
  simp only [hst.cart.line, hfarmer, hi, hline, Product.key, hprod]

theorem putLine_sameKeys {c : CartStore} {p : Product}
    (h : (c.line p.farmerId p.id).map Product.key = some p.key) :
    c.SameKeys (c.putLine p.farmerId p.id p) := by
  refine ⟨rfl, fun f id => ?_⟩
  rw [CartStore.line_putLine]
  split
  case isTrue hpath =>
    obtain ⟨rfl, rfl⟩ := hpath
    rw [h, Option.map_some]
  case isFalse => rfl

theorem yields_storeObject (through : ∀ l, ok l = true) (seen : Access) {object : ℕ}
    (h : s.StoresObject d object) :
    ∃ t, Yields ok (FirebaseHelper.updateProductInCart seen d.uid
        [(s.cartPages d).objects object]) s (.ok ()) t ∧ s.SameKeys d t := by
  obtain ⟨hline, hf, hid⟩ := h
  generalize (s.cartPages d).objects object = p at hline hf hid
  obtain ⟨v, run⟩ := yields_helper_updateProductInCart (s := s) (through seen) d.uid [p]
  have hbatch : batchLines [p] = [p] := by simp [batchLines, hf]
  rw [hbatch, if_neg (by simp [hid])] at run
  refine ⟨_, run, ?_, ⟨rfl, rfl, rfl, fun _ => rfl⟩, fun _ _ => rfl⟩
  change (s.carts d.uid).SameKeys ((s.setCart d.uid fun c => c.putLines [p]).carts d.uid)
  rw [World.setCart_self]
  exact putLine_sameKeys hline

theorem yields_validateQuantity (through : ∀ l, ok l = true) {object : ℕ}
    (h : s.StoresObject d object) :
    ∃ t, Yields ok (validateQuantity d object) s (.ok ()) t ∧ s.SameKeys d t := by
  set clamp : MyCartController → MyCartController := fun c =>
    if (c.objects object).qty > totalQtyRead ok s ((s.cartPages d).objects object).farmerId
        ((s.cartPages d).objects object).prodId then
      c.setQty object (totalQtyRead ok s ((s.cartPages d).objects object).farmerId
        ((s.cartPages d).objects object).prodId)
    else c with hclamp
  have clamped : s.SameKeys d (s.setCartPage d clamp) := by
    refine ⟨.refl _, ?_, fun d' hd => setCartPage_of_ne hd _⟩
    rw [World.setCartPage_self, hclamp]
    dsimp only
    split
    · exact sameKeys_setQty _ _ _
    · exact .of_listPart rfl
  obtain ⟨t, ht, hkeys⟩ := yields_storeObject through _ (h.later clamped)
  exact ⟨t, .bind (.look _) (.bind (yields_getProductTotalQty _ _) (.bind (.look _)
    (.bind (.note _) (.bind (.change _) (.bind (.look _) ht))))), clamped.trans hkeys⟩

theorem yields_validateEach (through : ∀ l, ok l = true) {objects : List ℕ}
    (h : ∀ i ∈ objects, s.StoresObject d i) :
    ∃ t, Yields ok (validateEach d objects) s (.ok ()) t ∧ s.SameKeys d t := by
  induction objects generalizing s with
  | nil => exact ⟨s, .pure (), .refl _, .of_listPart rfl, fun _ _ => rfl⟩
  | cons object rest ih =>
    obtain ⟨t, ht, hkeys⟩ := yields_validateQuantity through (h object (List.mem_cons_self ..))
    obtain ⟨u, hu, hkeys'⟩ := ih fun i hi => (h i (List.mem_cons_of_mem _ hi)).later hkeys
    exact ⟨u, .bind (.spawned ht) hu, hkeys.trans hkeys'⟩

/-- The lines of a cart are where they say, below open documents, one to a product. -/
structure CartShape (c : CartStore) : Prop where
  placed : ∀ f id p, c.line f id = some p →
    f ∈ c.docs ∧ f ≠ "" ∧ id ≠ "" ∧ p.farmerId = f ∧ p.id = id
  single : ∀ f i j p q, c.line f i = some p → c.line f j = some q → p.prodId = q.prodId → i = j

theorem CartShape.read_line {c : CartStore} (h : CartShape c) {p : Product} (hp : p ∈ c.read) :
    c.firstFarmer = some p.farmerId ∧ c.line p.farmerId p.id = some p ∧ p.farmerId ≠ "" ∧
      p.id ≠ "" := by
  cases hfirst : c.firstFarmer with
  | none =>
    rw [CartStore.read, hfirst] at hp
    cases hp
  | some first =>
    obtain ⟨id, hline⟩ := (CartStore.read_of_first hfirst p).1 hp
    obtain ⟨-, hf, hid, rfl, rfl⟩ := h.placed first id p hline
    exact ⟨rfl, hline, hf, hid⟩

theorem CartShape.nodup_read {c : CartStore} (h : CartShape c) :
    (c.read.map (·.prodId)).Nodup := by
  cases hfirst : c.firstFarmer with
  | none => simp [CartStore.read, hfirst]
  | some first =>
    rw [CartStore.read, hfirst, List.map_map]
    refine List.pairwise_map.2 (Std.TreeMap.distinct_keys_toList.imp_of_mem ?_)
    intro a b ha hb hne heq
    refine hne (Std.LawfulEqCmp.compare_eq_iff_eq.2 (h.single first a.1 b.1 a.2 b.2 ?_ ?_ heq))
    · exact Std.TreeMap.mem_toList_iff_getElem?_eq_some.1 ha
    · exact Std.TreeMap.mem_toList_iff_getElem?_eq_some.1 hb

structure Reloaded (d : Device) (s t : World) : Prop where
  cart : (s.carts d.uid).SameKeys (t.carts d.uid)
  shown : (t.cartPages d).shown.map Product.key = (s.carts d.uid).read.map Product.key
  allocated : ∀ i ∈ (t.cartPages d).lists (t.cartPages d).myCartList, i < (t.cartPages d).allocated
  older : ∀ i < (s.cartPages d).allocated,
    ((t.cartPages d).objects i).key = ((s.cartPages d).objects i).key
  others : ∀ d', d' ≠ d → t.cartPages d' = s.cartPages d'

theorem yields_getCartProducts (through : ∀ l, ok l = true) (h : CartShape (s.carts d.uid))
    (farmerId : String) :
    ∃ t, Yields ok (getCartProducts d farmerId) s (.ok ()) t ∧ Reloaded d s t := by
  set response := (s.carts d.uid).read with hresponse
  set cleared := s.setCartPage d fun c => c.setList fun _ => [] with hcleared
  set filled := cleared.setCartPage d fun c => c.replaceList response with hfilled
  have hpage : filled.cartPages d = (cleared.cartPages d).replaceList response :=
    World.setCartPage_self ..
  have hread : Yields ok (fetchCustomerCartProducts d.uid farmerId) cleared (.ok response)
      cleared := by
    have read : Yields ok (fetchCustomerCartProducts d.uid farmerId) cleared
        (.ok (if ok .plain then (cleared.carts d.uid).read else [])) cleared :=
      yields_fetchCustomerCartProducts d.uid farmerId
    rwa [through, if_pos rfl] at read
  have hstores : ∀ i ∈ (filled.cartPages d).lists (filled.cartPages d).myCartList,
      filled.StoresObject d i := by
    intro i hi
    have hmem : (filled.cartPages d).objects i ∈ response := by
      rw [← shown_replaceList (cleared.cartPages d) response, ← hpage]
      exact List.mem_map.2 ⟨i, hi, rfl⟩
    obtain ⟨-, hline, hf, hid⟩ := h.read_line hmem
    exact ⟨congrArg _ hline, hf, hid⟩
  obtain ⟨valid, hvalid, hkeys⟩ := yields_validateEach through hstores
  set dated := valid.setCartPage d fun c => { c with selectedDate := "", selectedTime := "" }
  have hdated : valid.SameKeys d dated := by
    refine ⟨.refl _, .of_listPart ?_, fun d' hd => setCartPage_of_ne hd _⟩
    rw [World.setCartPage_self]
    rfl
  set t := ((getCustomerDeliveryAddress d).task.alone ok dated).2 with ht
  have haddress : dated.SameKeys d t :=
    besideList_sameKeys (quiet_getCustomerDeliveryAddress_beside.alone trivial).2
  have hall : filled.SameKeys d t := hkeys.trans (hdated.trans haddress)
  have hsplit : splitProducts response = (response, []) := splitProducts_nodup h.nodup_read
  refine ⟨t, ?_, ?_⟩
  · refine .bind (.change _) (.tryCatch (.bind hread ?_))
    rw [hsplit]
    exact .bind (.note _) (.bind (.change _) (.bind (.look _) (.bind hvalid (.bind (.pure ())
      (.bind (.change _) (.spawn _))))))
  · have hlists : (t.cartPages d).lists (t.cartPages d).myCartList =
        (filled.cartPages d).lists (filled.cartPages d).myCartList := by
      rw [hall.page.lists, hall.page.myCartList]
    refine ⟨hall.cart, ?_, fun i hi => ?_, fun i hi => ?_, fun d' hd => ?_⟩
    · rw [hall.page.shown, hpage, shown_replaceList]
    · rw [hlists, hpage] at hi
      rw [hall.page.allocated, hpage]
      exact lt_replaceList _ _ hi
    · rw [hall.page.objects i, hpage, hcleared, World.setCartPage_self,
        objects_replaceList ((s.cartPages d).setList fun _ => []) response hi]
      rfl
    · rw [hall.others d' hd, setCartPage_of_ne hd, setCartPage_of_ne hd]

theorem CartShape.openDoc {c : CartStore} (h : CartShape c) (farmerId : String) :
    CartShape (c.openDoc farmerId) := by
  refine ⟨fun f id p hp => ?_, h.single⟩
  obtain ⟨hdoc, hrest⟩ := h.placed f id p hp
  exact ⟨(c.mem_openDoc farmerId f).2 (.inr hdoc), hrest⟩

theorem CartShape.putLine {c : CartStore} (h : CartShape c) {f id : String} {p : Product}
    (hdoc : f ∈ c.docs) (hf : f ≠ "") (hid : id ≠ "") (hfarmer : p.farmerId = f) (hpid : p.id = id)
    (honly : ∀ i q, c.line f i = some q → q.prodId = p.prodId → i = id) :
    CartShape (c.putLine f id p) := by
  constructor
  · intro g i q hq
    rw [CartStore.line_putLine] at hq
    split at hq
    case isTrue hpath =>
      obtain ⟨rfl, rfl⟩ := hpath
      obtain rfl := Option.some.inj hq
      exact ⟨hdoc, hf, hid, hfarmer, hpid⟩
    case isFalse => exact h.placed g i q hq
  · intro g i j q r hq hr hprod
    rw [CartStore.line_putLine] at hq hr
    split at hq
    case isTrue hi =>
      obtain ⟨rfl, rfl⟩ := hi
      obtain rfl := Option.some.inj hq
      split at hr
      case isTrue hj => exact hj.2
      case isFalse => exact (honly j r hr hprod.symm).symm
    case isFalse =>
      split at hr
      case isTrue hj =>
        obtain ⟨rfl, rfl⟩ := hj
        obtain rfl := Option.some.inj hr
        exact honly i q hq hprod
      case isFalse => exact h.single g i j q r hq hr hprod

theorem CartShape.congr {c c' : CartStore} (h : CartShape c) (hdocs : c'.docs = c.docs)
    (hline : ∀ f i, c'.line f i = c.line f i) : CartShape c' :=
  ⟨fun f i p hp => hdocs ▸ h.placed f i p (hline f i ▸ hp), fun f i j p q hp hq =>
    h.single f i j p q (hline f i ▸ hp) (hline f j ▸ hq)⟩

theorem CartShape.addLine {c : CartStore} (h : CartShape c) {p : Product} {id : String}
    (hdoc : p.farmerId ∈ c.docs) (hf : p.farmerId ≠ "") (hid : id ≠ "") :
    CartShape (c.addLine id p) := by
  cases hlines : c.linesOf p.farmerId p.prodId with
  | nil =>
    have put : CartShape (c.putLine p.farmerId id { p with id := id }) := by
      refine h.putLine hdoc hf hid rfl rfl fun i q hq hprod => ?_
      have : (i, q) ∈ c.linesOf p.farmerId p.prodId := CartStore.mem_linesOf.2 ⟨hq, hprod⟩
      rw [hlines] at this
      cases this
    refine put.congr CartStore.docs_addLine fun f i => ?_
    rw [CartStore.line_addLine_new hlines, CartStore.line_putLine]
  | cons doc rest =>
    obtain ⟨hline, hprod⟩ := CartStore.mem_linesOf.1 (hlines ▸ List.mem_cons_self ..)
    obtain ⟨-, -, hdid, hfarmer, hpid⟩ := h.placed _ _ _ hline
    have put : CartShape (c.putLine p.farmerId doc.1 { doc.2 with qty := doc.2.qty + p.qty }) :=
      h.putLine hdoc hf hdid hfarmer hpid fun i q hq hq' => h.single _ _ _ _ _ hq hline hq'
    refine put.congr CartStore.docs_addLine fun f i => ?_
    rw [CartStore.line_addLine_old hlines, CartStore.line_putLine]

theorem CartShape.of_sameKeys {c c' : CartStore} (h : CartShape c) (hkeys : c.SameKeys c') :
    CartShape c' := by
  have old : ∀ f id p, c'.line f id = some p →
      ∃ q, c.line f id = some q ∧ q.key = p.key := by
    intro f id p hp
    have := hkeys.line f id
    rw [hp, Option.map_some] at this
    exact Option.map_eq_some_iff.1 this.symm
  constructor
  · intro f id p hp
    obtain ⟨q, hq, hkey⟩ := old f id p hp
    simp only [Product.key, Prod.mk.injEq] at hkey
    rw [hkeys.docs, ← hkey.1, ← hkey.2.1]
    exact h.placed f id q hq
  · intro f i j p p' hp hp' hprod
    obtain ⟨q, hq, hkey⟩ := old f i p hp
    obtain ⟨q', hq', hkey'⟩ := old f j p' hp'
    simp only [Product.key, Prod.mk.injEq] at hkey hkey'
    exact h.single f i j q q' hq hq' (by rw [hkey.2.2, hkey'.2.2, hprod])

end Programs

end Gherass
