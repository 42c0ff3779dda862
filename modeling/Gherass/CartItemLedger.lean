import Gherass.CartItems
import Gherass.EventLoopLedger
import Mathlib.Algebra.Order.Group.Int

set_option autoImplicit false

/-!
# What the programs of a cart owe an item

From the press of a button until the quantity is stored, from there until it is validated:
which debts a program takes on, hands to the reloads it starts, and pays.
-/
namespace Gherass

open EventLoop EventLoop.Async FirebaseHelper MyCartController

/-- What may be owed to an item: the storing of an addition or of a new quantity, the
    validation of what was stored, the end of the program that was asked, and, of a removal, the
    deletion of the document under an id and then its disappearance from the page. `wants` is
    what is known when an addition has been asked for. -/
structure CartDebts (M : Type) [Zero M] [LE M] where
  adding : ℤ → M
  setting : ℤ → M
  validation : M
  finishing : M
  removal : String → M
  listed : String → M
  wants : World → Prop
  adding_nonneg : ∀ n, 0 ≤ adding n
  setting_nonneg : ∀ n, 0 ≤ setting n
  validation_nonneg : 0 ≤ validation
  finishing_nonneg : 0 ≤ finishing
  removal_nonneg : ∀ id, 0 ≤ removal id
  listed_nonneg : ∀ id, 0 ≤ listed id

def MyCartController.found (c : MyCartController) (p : Product) : Option ℕ :=
  (c.lists c.myCartList).find? fun o => (c.objects o).id = p.id

def Access.overwrites : Access → Option (Uid × Product × String)
  | .addQty uid p id _ => some (uid, p, id)
  | .storeLine uid p _ => some (uid, p, p.id)
  | .writeBack uid p _ => some (uid, p, p.id)
  | _ => none

structure CartItem.Writes (i : CartItem) (id : String) (q : Option ℤ) (s t : World) : Prop where
  stored : ∀ j, t.stored i j = if id = j then q else s.stored i j
  wanted : t.wanted i = s.wanted i
  pages : t.cartPages = s.cartPages
  products : t.products = s.products

theorem CartItem.Writes.later {i : CartItem} {id : String} {q : Option ℤ} {s t : World}
    (h : i.Writes id q s t) : s.Later t :=
  ⟨h.products, fun d o ho => by rw [h.pages]; exact ⟨ho, rfl⟩⟩

variable {M : Type} [AddCommGroup M] [PartialOrder M]

/-- The ledger's account of a step, when `m` is paid after it. -/
def Books (L : Ledger World Event M) (s t : World) (m : M) : Prop := L.inv t m ∧ L.rel s t

namespace CartLedger

variable (i : CartItem) (D : CartDebts M) (L : Ledger World Event M)
  (g : Guard World Access Event)

variable (d : Device) (p : Product)

structure Adds : Prop where
  request : ∀ s m, g.start (.addToCart d p) s → L.inv s m →
    L.limit (m + L.charge (.addToCart d p)) →
    Books L s (s.request d.uid p (· + p.qty)) (m + L.charge (.addToCart d p) - D.adding p.qty) ∧
      D.wants (s.request d.uid p (· + p.qty))
  object : ∀ s m, D.wants s → L.inv s m → Books L s (s.setCartPage d fun c => c.addObject p) m
  line : ∀ id s t m, g.access (.addLine i.uid p) s → s.stored i id = none →
    i.Writes id (some p.qty) s t → L.inv s m → L.limit (m + D.adding p.qty) →
    Books L s t (m + D.adding p.qty - (D.validation + D.finishing))
  qty : ∀ id n s t m, g.access (.addQty i.uid p id n) s →
    i.Writes id ((s.stored i id).map fun _ => n + p.qty) s t → L.inv s m →
    L.limit (m + D.adding p.qty) →
    Books L s t (m + D.adding p.qty - (D.validation + D.finishing))
  store : ∀ q previousQty s t m, i.Is q → q.qty = previousQty + p.qty →
    g.access (.storeLine i.uid q previousQty) s → i.Writes q.id (some q.qty) s t → L.inv s m →
    L.limit (m + D.adding p.qty) →
    Books L s t (m + D.adding p.qty - (D.validation + D.finishing))

variable (x : ℤ)

structure Sets : Prop where
  request : ∀ s m, g.start (.updateQuantity d p x) s → L.inv s m →
    L.limit (m + L.charge (.updateQuantity d p x)) →
    Books L s (s.request d.uid p fun _ => max x 0)
      (m + L.charge (.updateQuantity d p x) - D.setting x)
  store : ∀ q previousQty s t m, i.Is q → q.qty = x → x ≤ s.stockOf i →
    g.access (.storeLine i.uid q previousQty) s → i.Writes q.id (some x) s t → L.inv s m →
    L.limit (m + D.setting x) → Books L s t (m + D.setting x - D.finishing)

structure Removes : Prop where
  request : ∀ s m, g.start (.updateQuantity d p x) s → L.inv s m →
    L.limit (m + L.charge (.updateQuantity d p x)) →
    Books L s (s.request d.uid p fun _ => max x 0)
      (m + L.charge (.updateQuantity d p x) - (D.removal p.id + D.finishing))
  removable : ∀ q s, q.id = p.id → i.Is q → g.access (.removeItem d q) s →
    ∃ item, (s.cartPages d).shown.find? (fun item => item.id = p.id) = some item ∧
      item.farmerId = i.farmerId
  line : ∀ s t m, g.access (.removeLine i.uid i.farmerId p.id) s → i.Writes p.id none s t →
    L.inv s m → L.limit (m + D.removal p.id) →
    Books L s t (m + D.removal p.id - D.listed p.id)
  unlist : ∀ s m, L.inv s m → L.limit (m + D.listed p.id) →
    Books L s (s.setCartPage d fun c => c.removeWhere p.id) (m + D.listed p.id)

def asked (D : CartDebts M) (p : Product) (x : ℤ) : M :=
  if 0 < x then D.setting x else D.removal p.id + D.finishing

end CartLedger

/-- Where the debts arise and where they are paid. -/
structure CartLedger (i : CartItem) (D : CartDebts M) (L : Ledger World Event M)
    (g : Guard World Access Event) : Prop where
  later : ∀ s t, L.rel s t → s.Later t
  covers : L.Covers i.bystander
  lossless : ∀ l s, ¬ g.lost l s
  events : ∀ e s, g.start e s → e.group = .cart
  charge : ∀ e, (∀ d p, i.Concerns d.uid p → e ≠ .addToCart d p ∧ ∀ x, e ≠ .updateQuantity d p x) →
    L.charge e = 0
  -- no other product's document is mistaken for one of the item
  others : ∀ l t p id, l.overwrites = some (i.uid, p, id) → g.access l t → ¬ i.Is p →
    p.farmerId = i.farmerId → t.stored i id = none
  shownAs : ∀ d p x s o, g.start (.updateQuantity d p x) s → d.uid = i.uid →
    (s.cartPages d).found p = some o → (i.Is ((s.cartPages d).objects o) ↔ i.Is p)
  -- a request that owes something is for what is on show, and within the stock
  shownOwn : ∀ d p x s, i.Concerns d.uid p → g.start (.updateQuantity d p x) s →
    CartLedger.asked D p x = D.finishing ∨ p.id ≠ "" ∧ ∃ o, (s.cartPages d).found p = some o
  accepted : ∀ d p x totalQty s, i.Concerns d.uid p → (∃ s', g.start (.updateQuantity d p x) s') →
    g.access (.checkQuantity d p x totalQty) s →
    CartLedger.asked D p x = D.finishing ∨ x ≤ totalQty
  -- what the customer asks for
  adds : ∀ d p s, i.Concerns d.uid p → g.start (.addToCart d p) s → CartLedger.Adds i D L g d p
  sets : ∀ d p x s, i.Concerns d.uid p → g.start (.updateQuantity d p x) s → 0 < x →
    CartLedger.Sets i D L g d p x
  removes : ∀ d p x s, i.Concerns d.uid p → g.start (.updateQuantity d p x) s → x ≤ 0 →
    CartLedger.Removes i D L g d p x
  ended : ∀ p s m, i.Is p → L.inv s m → L.limit (m + D.finishing) →
    Books L s (s.requestOver i.uid p) (m + D.finishing)
  -- what the reloads do with it
  removeLine : ∀ id s t m, g.access (.removeLine i.uid i.farmerId id) s → i.Writes id none s t →
    L.inv s m → Books L s t m
  replaced : ∀ d products s m, d.uid = i.uid → g.access (.showCart d products) s → L.inv s m →
    Books L s (s.setCartPage d fun c => c.replaceList products) m
  shown : ∀ d products s m, d.uid = i.uid → g.access (.showCart d products) s → L.inv s m →
    L.limit (m + D.validation) →
    (∃ p ∈ products, i.Is p ∧ p.id ≠ "") ∨ L.inv s (m + D.validation)
  writeBack : ∀ p v s t m, i.Is p → v = 0 ∨ v = D.validation → p.qty ≤ s.stockOf i →
    g.access (.writeBack i.uid p (s.stockOf i)) s → i.Writes p.id (some p.qty) s t → L.inv s m →
    L.limit (m + v) → Books L s t (m + v)

namespace CartLedger

def Owing (v : M) (K : World → Prop) (a : M) (s : World) : Prop := a = v ∧ K s

variable {i : CartItem} {D : CartDebts M} {L : Ledger World Event M}
  {g : Guard World Access Event}

/-- The object is on the page and stands for a product with the key of `p`. -/
def Held (d : Device) (o : ℕ) (p : Product) (s : World) : Prop :=
  o < (s.cartPages d).allocated ∧ ((s.cartPages d).objects o).key = p.key

theorem held_later (d : Device) (o : ℕ) (p : Product) (s t : World) (h : s.Later t)
    (hs : Held d o p s) : Held d o p t := by
  obtain ⟨ho, hkey⟩ := h.pages d o hs.1
  exact ⟨ho, hkey.trans hs.2⟩

/-- The object stands for `q`, and `totalQty` has been read as the stock of `p`. -/
def HeldWithin (d : Device) (o : ℕ) (q p : Product) (totalQty : ℤ) (s : World) : Prop :=
  Held d o q s ∧ totalQty = totalQtyRead (fun _ => true) s p.farmerId p.prodId

theorem heldWithin_later (d : Device) (o : ℕ) (q p : Product) (totalQty : ℤ) (s t : World)
    (h : s.Later t) (hs : HeldWithin d o q p totalQty s) : HeldWithin d o q p totalQty t := by
  refine ⟨held_later d o q s t h hs.1, ?_⟩
  rw [totalQtyRead_later h]
  exact hs.2

def share (i : CartItem) (uid : Uid) (p : Product) (x : M) : M := if i.Concerns uid p then x else 0

section Pieces

variable (h : CartLedger i D L g) {α : Type} {K : World → Prop} {E : DartError → M → World → Prop}
  {v b : M}

theorem pays_books {f : World → World} {Q : World → Prop} (hb : 0 ≤ b)
    (hf : ∀ s m, K s → L.inv s m → L.limit (m + v) → Books L s (f s) (m + v - b) ∧ Q (f s)) :
    Pays L g (Owing v K) (change f : Program Unit) (fun _ => Owing b Q) E :=
  .change fun a s p hs hl _ hp => by
    obtain ⟨rfl, hk⟩ := hp
    obtain ⟨⟨hi, hr⟩, hq⟩ := hf s p hk hs hl
    exact ⟨b, hb, hi, hr, rfl, hq⟩

include h

theorem beside {s t : World} {m : M} (hs : L.inv s m)
    (hst : i.bystander.inv t ∧ i.bystander.rel s t) : Books L s t m :=
  ⟨h.covers.paid s t m hst.2 hst.1 hs, h.covers.rel s t hst.2⟩

theorem pays_quiet [IsOrderedAddMonoid M] {m : Program α} (hm : Quiet i.bystander m)
    (stable : ∀ s t : World, s.Later t → K s → K t) :
    Pays L g (Owing v K) m (fun _ => Owing v K) fun _ => Owing v K :=
  hm.pays h.covers fun s t hr => stable s t (h.later s t hr)

theorem pays_change {f : World → World} {Q : World → Prop}
    (hf : ∀ s, i.bystander.inv s → K s →
      (i.bystander.inv (f s) ∧ i.bystander.rel s (f s)) ∧ Q (f s)) :
    Pays L g (Owing v K) (change f : Program Unit) (fun _ => Owing v Q) E :=
  .change fun a s p hs _ ha hp => by
    obtain ⟨hst, hq⟩ := hf s (h.covers.inv s p hs) hp.2
    obtain ⟨hi, hr⟩ := h.beside hs hst
    exact ⟨a, ha, by rwa [add_sub_cancel_right], hr, hp.1, hq⟩

theorem pays_call {l : Access} {f : World → World × Except DartError α} {lost : DartError}
    {Q : World → Prop} (stable : ∀ s t, L.rel s t → K s → K t) (hb : 0 ≤ b)
    (hf : ∀ t m, K t → L.inv t m → L.limit (m + v) → g.access l t →
      Books L t (f t).1 (m + v - b) ∧ ∀ u, L.rel (f t).1 u → Q u) :
    Pays L g (Owing v K) (call l f lost : Program α) (fun _ => Owing b Q) fun _ => Owing b Q := by
  refine .call (fun a s t q hp _ ht hl hr hacc => ?_)
    fun a s t u r _ _ hl => absurd hl (h.lossless _ _)
  obtain ⟨rfl, hK⟩ := hp
  obtain ⟨⟨hi, hrel⟩, hq⟩ := hf t q (stable s t hr hK) ht hl hacc
  refine ⟨b, hb, hi, hrel, fun u r _ hr' => ?_⟩
  cases (f t).2 with
  | ok | error => exact ⟨rfl, hq u hr'⟩

theorem pays_answered {l : Access} {f : World → World × Except DartError α} {lost : DartError}
    {y : World → α} {Q : α → World → Prop} (hok : ∀ t, (f t).2 = .ok (y t))
    (stable : ∀ s t, L.rel s t → K s → K t) (hb : 0 ≤ b)
    (hf : ∀ t m, K t → L.inv t m → L.limit (m + v) → g.access l t →
      Books L t (f t).1 (m + v - b) ∧ ∀ u, L.rel (f t).1 u → Q (y t) u) :
    Pays L g (Owing v K) (call l f lost : Program α) (fun x => Owing b (Q x)) E := by
  refine .call (fun a s t q hp _ ht hl hr hacc => ?_)
    fun a s t u r _ _ hl => absurd hl (h.lossless _ _)
  obtain ⟨rfl, hK⟩ := hp
  obtain ⟨⟨hi, hrel⟩, hq⟩ := hf t q (stable s t hr hK) ht hl hacc
  refine ⟨b, hb, hi, hrel, fun u r _ hr' => ?_⟩
  rw [hok t]
  exact ⟨rfl, hq u hr'⟩

theorem pays_get (stable : ∀ s t : World, s.Later t → K s → K t) (f : World → α)
    {Q : α → World → Prop} (hQ : ∀ s t : World, s.Later t → Q (f s) t) :
    Pays L g (Owing v K) (get f) (fun x => Owing v fun s => K s ∧ Q x s) E := by
  refine .call (fun a s t q hp ha ht _ hr _ => ⟨v, hp.1 ▸ ha, ?_, L.refl t, fun u z hu hr' => ?_⟩)
    fun a s t u r _ _ hl => absurd hl (h.lossless _ _)
  · rw [hp.1, add_sub_cancel_right]
    exact ht
  · have hK : K u := stable t u (h.later t u hr') (stable s t (h.later s t hr) hp.2)
    exact ⟨rfl, hK, hQ t u (h.later t u hr')⟩

theorem pays_spawn [IsOrderedAddMonoid M] {m : Program Unit} {K' : World → Prop} {c : M}
    (hb : 0 ≤ b) (hc : 0 ≤ c)
    (hm : Pays L g (Owing b K') m (fun _ a _ => a = 0) fun _ a _ => a = 0)
    (hK : ∀ s, K s → K' s) (stable : ∀ s t : World, s.Later t → K s → K t) :
    Pays L g (Owing (b + c) K) (spawn m) (fun _ => Owing c K) E :=
  .spawn hm fun _ s _ _ _ hp => ⟨b, c, hb, hc, hp.1, ⟨rfl, hK s hp.2⟩,
    fun _ _ hr => ⟨rfl, stable s _ (h.later s _ hr) hp.2⟩⟩

theorem pays_getProductTotalQty (stable : ∀ s t : World, s.Later t → K s → K t)
    (farmerId productId : String) :
    Pays L g (Owing v K) (getProductTotalQty farmerId productId)
      (fun totalQty => Owing v fun s => K s ∧
        totalQty = totalQtyRead (fun _ => true) s farmerId productId) E := by
  have refused : farmerId = "" ∨ productId = "" → ∀ s,
      (-1 : ℤ) = totalQtyRead (fun _ => true) s farmerId productId := fun hpath s => by
    simp [totalQtyRead, World.productAt, hpath]
  refine .tryCatch (F := fun _ => Owing v fun s => K s ∧
    (-1 : ℤ) = totalQtyRead (fun _ => true) s farmerId productId) ?_ fun _ => .pure fun _ _ hp => hp
  refine .bind (R := fun _ => Owing v fun s => K s ∧ farmerId ≠ "") ?_ fun _ =>
    .bind (R := fun _ => Owing v fun s => K s ∧ farmerId ≠ "" ∧ productId ≠ "") ?_ fun _ =>
    .bind (R := fun r => Owing v fun s => (K s ∧ farmerId ≠ "" ∧ productId ≠ "") ∧
      r = farmProduct farmerId productId s) (h.pays_get ?_ _ ?_) fun r => ?_
  · unfold checkPath
    split
    case isTrue hf => exact .throw fun a s hp => ⟨hp.1, hp.2, refused (.inl hf) s⟩
    case isFalse hf => exact .pure fun a s hp => ⟨hp.1, hp.2, hf⟩
  · unfold checkPath
    split
    case isTrue hk => exact .throw fun a s hp => ⟨hp.1, hp.2.1, refused (.inr hk) s⟩
    case isFalse hk => exact .pure fun a s hp => ⟨hp.1, hp.2.1, hp.2.2, hk⟩
  · exact fun s t hst hK => ⟨stable s t hst hK.1, hK.2⟩
  · exact fun s t hst => by simp only [farmProduct, hst.products]
  · have answer : ∀ s, farmerId ≠ "" ∧ productId ≠ "" →
        totalQtyRead (fun _ => true) s farmerId productId =
          ((farmProduct farmerId productId s).map FarmProduct.stock).getD (-1) := fun s hpath => by
      simp only [totalQtyRead, World.productAt, hpath.1, hpath.2, or_self, if_false, if_true]
    cases r with
    | some p =>
      refine .pure fun a s hp => ⟨hp.1, hp.2.1.1, ?_⟩
      rw [answer s hp.2.1.2, ← hp.2.2]
      rfl
    | none =>
      refine .pure fun a s hp => ⟨hp.1, hp.2.1.1, ?_⟩
      rw [answer s hp.2.1.2, ← hp.2.2]
      rfl

theorem pays_helper_updateProductInCart (stable : ∀ s t : World, s.Later t → K s → K t)
    (hb : 0 ≤ b) {seen : Access} (uid : Uid) (p : Product)
    (skipped : p.farmerId = "" ∨ p.id = "" → v = b)
    (write : ∀ t m, K t → L.inv t m → L.limit (m + v) → g.access seen t → p.farmerId ≠ "" →
      p.id ≠ "" → Books L t (storeCartProduct seen uid p t) (m + v - b)) :
    Pays L g (Owing v K) (FirebaseHelper.updateProductInCart seen uid [p])
      (fun _ => Owing b fun _ => True) E := by
  refine .tryCatch (F := fun _ => Owing b fun _ => True) ?_ fun _ => .pure fun _ _ hp => hp
  by_cases hf : p.farmerId = ""
  · have none : batchLines [p] = [] := by simp [batchLines, hf]
    obtain rfl := skipped (.inl hf)
    rw [none, List.any_nil, if_neg Bool.false_ne_true]
    refine h.pays_call (fun s t hr => stable s t (h.later s t hr)) hb fun t m _ ht _ _ =>
      ⟨⟨?_, L.refl t⟩, fun _ _ => trivial⟩
    rw [add_sub_cancel_right]
    exact ht
  have one : batchLines [p] = [p] := by simp [batchLines, hf]
  by_cases hid : p.id = ""
  · rw [one, if_pos (by simp [hid])]
    exact .throw fun a s hp => ⟨hp.1.trans (skipped (.inr hid)), trivial⟩
  rw [one, if_neg (by simp [hid])]
  exact h.pays_call (fun s t hr => stable s t (h.later s t hr)) hb fun t m hK ht hl hacc =>
    ⟨write t m hK ht hl hacc hf hid, fun _ _ => trivial⟩

theorem store_other {t : World} {m : M} {seen : Access} {uid : Uid} {p : Product}
    (ht : L.inv t m) (hseen : seen.overwrites = some (uid, p, p.id)) (hacc : g.access seen t)
    (hp : ¬ i.Concerns uid p) : Books L t (storeCartProduct seen uid p t) m := by
  refine h.beside ht ?_
  obtain ⟨x, hframe⟩ := storeCartProduct_frame seen uid p t
  refine unchanged_beside (h.covers.inv t m ht) (fun j => ?_) (by rw [hframe]; rfl)
    (by rw [hframe]; rfl) (by rw [hframe]; rfl)
  rw [stored_storeCartProduct, stored_other hp fun hu hf => ?_]
  exact h.others seen t p p.id (hu ▸ hseen) hacc (fun his => hp ⟨hu, his⟩) hf

end Pieces

section Effects

variable {i : CartItem}

theorem writes_store (seen : Access) {t : World} {p : Product} (hp : i.Is p) :
    i.Writes p.id (some p.qty) t (storeCartProduct seen i.uid p t) := by
  obtain ⟨x, hframe⟩ := storeCartProduct_frame seen i.uid p t
  refine ⟨fun j => ?_, by rw [hframe]; rfl, by rw [hframe]; rfl, by rw [hframe]; rfl⟩
  rw [stored_storeCartProduct, stored_own hp]

theorem writes_delete (t : World) (id : String) :
    i.Writes id none t (deleteCartProduct i.uid i.farmerId id t).1 := by
  refine ⟨fun j => ?_, rfl, rfl, rfl⟩
  rw [stored_deleteCartProduct]
  simp only [true_and]

theorem stored_lineId (t : World) (ids : IdSupply) :
    t.stored i (t.lineId ids i.uid i.farmerId) = none := by
  simp only [World.stored, lineId_free, Option.filter_none, Option.map_none]

theorem writes_addLine (ids : IdSupply) (t : World) {p : Product} (hp : i.Is p) :
    i.Writes (t.lineId ids i.uid i.farmerId) (some p.qty) t
      (addCartProduct ids i.uid p.farmerId p t).1 := by
  rw [addCartProduct_eq, ← hp.1]
  exact ⟨fun j => stored_own hp, rfl, rfl, rfl⟩

theorem unchanged_addLine (ids : IdSupply) {t : World} (ht : i.bystander.inv t) {uid : Uid}
    {p : Product} (hp : ¬ i.Concerns uid p) :
    i.bystander.inv (addCartProduct ids uid p.farmerId p t).1 ∧
      i.bystander.rel t (addCartProduct ids uid p.farmerId p t).1 := by
  rw [addCartProduct_eq]
  refine unchanged_beside ht (fun j => stored_other hp fun hu hf => ?_) rfl rfl rfl
  rw [hu, hf]
  exact stored_lineId t ids

theorem writes_addQty (t : World) {p : Product} (hp : i.Is p) (id : String) (n : ℤ) :
    i.Writes id ((t.stored i id).map fun _ => n) t
      (updateCartProduct i.uid p.farmerId id (fun q => { q with qty := n }) t).1 := by
  obtain ⟨carts, hframe⟩ :=
    updateCartProduct_frame i.uid p.farmerId id (fun q => { q with qty := n }) t
  refine ⟨fun j => ?_, by rw [hframe]; rfl, by rw [hframe], by rw [hframe]⟩
  rw [stored_updateQty, hp.1]
  simp only [true_and]
  split
  case isTrue heq => rw [heq]
  case isFalse => rfl

end Effects

end CartLedger

end Gherass
