import Gherass.CartItemLedger

set_option autoImplicit false

/-!
# The programs of a cart keep an item's ledger

Each program of the cart page, with what it owes when it begins and when it ends.
-/
namespace Gherass

open EventLoop EventLoop.Async FirebaseHelper MyCartController

variable {M : Type} [AddCommGroup M] [PartialOrder M]

namespace CartLedger

variable {i : CartItem} {D : CartDebts M} {L : Ledger World Event M} {g : Guard World Access Event}

theorem pays_spent {P : M → World → Prop} {K : World → Prop} {m : Program Unit}
    (hm : Pays L g P m (fun _ => Owing 0 K) fun _ a _ => a = 0) :
    Pays L g P m (fun _ a _ => a = 0) fun _ a _ => a = 0 :=
  hm.weaken (fun _ _ hp => hp) (fun _ _ _ hq => hq.1) fun _ _ _ he => he

section Reloads

variable (h : CartLedger i D L g) {v : M} {E : DartError → M → World → Prop} (d : Device)
include h

theorem pays_validateQuantity {o : ℕ} {p : Product}
    (hv : v = 0 ∨ v = D.validation ∧ i.Concerns d.uid p ∧ p.id ≠ "") :
    Pays L g (Owing v (Held d o p)) (validateQuantity d o) (fun _ => Owing 0 fun _ => True) E := by
  let seen := HeldWithin d o p p
  have stable := heldWithin_later d o p p
  refine .bind (R := fun c a s => (c.objects o).key = p.key ∧ Owing v (Held d o p) a s)
    (.look fun a s _ _ hp => ⟨hp.2.2, hp⟩) fun page => .given fun hkey => ?_
  have hkey' := hkey
  simp only [Product.key, Prod.mk.injEq] at hkey'
  dsimp only [fetchTotalQty]
  rw [hkey'.1, hkey'.2.2]
  refine .bind (h.pays_getProductTotalQty (held_later d o p) p.farmerId p.prodId) fun totalQty =>
    .bind (R := fun _ => Owing v (seen totalQty)) (.look fun _ _ _ _ hp => hp) fun _ =>
    .bind (R := fun _ => Owing v (seen totalQty)) (.note fun _ _ _ _ hp _ => hp) fun _ =>
    .bind (h.pays_change
      (Q := fun s => seen totalQty s ∧ ((s.cartPages d).objects o).qty ≤ totalQty)
      fun s hs hp => ?_) fun _ =>
    .bind (R := fun c a s => ((c.objects o).key = p.key ∧ (c.objects o).qty ≤ totalQty) ∧
      Owing v (seen totalQty) a s) (.look fun a s _ _ hp => ⟨⟨hp.2.1.1.2, hp.2.2⟩, hp.1, hp.2.1⟩)
    fun page => .given fun hobject => ?_
  · -- the object is clamped
    have keys : (s.cartPages d).SameKeys ((fun c : MyCartController =>
        if (c.objects o).qty > totalQty then c.setQty o totalQty else c) (s.cartPages d)) := by
      dsimp only
      split
      · exact sameKeys_setQty _ _ _
      · exact .of_listPart rfl
    have step := unchanged_sameKeys hs keys
    refine ⟨step, stable totalQty _ _ step.2.2 hp, ?_⟩
    rw [World.setCartPage_self]
    split
    case isTrue => simp only [setQty, Function.update_self, le_refl]
    case isFalse hle => exact not_lt.1 hle
  · obtain ⟨hkey, hqty⟩ := hobject
    generalize page.objects o = q at hkey hqty
    have concerns : i.Concerns d.uid q ↔ i.Concerns d.uid p :=
      and_congr_right fun _ => CartItem.is_of_key i hkey
    have hkey' := hkey
    simp only [Product.key, Prod.mk.injEq] at hkey'
    obtain ⟨hfarmer, hid, hprod⟩ := hkey'
    refine h.pays_helper_updateProductInCart (stable totalQty) le_rfl d.uid q (fun hpath => ?_)
      fun t m hK ht hl hacc _ _ => ?_
    · refine hv.resolve_right fun hown => ?_
      rcases hpath with hf | hid'
      · exact i.farmerId_ne (hown.2.1.2.1.symm.trans (hfarmer.symm.trans hf))
      · exact hown.2.2 (hid.symm.trans hid')
    · rw [sub_zero]
      by_cases hown : i.Concerns d.uid q
      · obtain ⟨hu, his⟩ := hown
        have htotal : totalQty = t.stockOf i := by
          rw [hK.2, ← hfarmer, ← hprod, his.1, his.2]
          rfl
        rw [hu, htotal] at hacc ⊢
        exact h.writeBack q v t _ m his (hv.imp_right (·.1)) (htotal ▸ hqty) hacc
          (writes_store _ his) ht hl
      · obtain rfl : v = 0 := hv.resolve_right fun hv => hown (concerns.2 hv.2.1)
        rw [add_zero]
        exact h.store_other ht rfl hacc hown

theorem pays_helper_removeFromCart {K Q : World → Prop} {b : M} (uid : Uid) (farmerId id : String)
    (stable : ∀ s t, L.rel s t → K s → K t) (hb : 0 ≤ b)
    (skipped : farmerId = "" ∨ id = "" → v = b ∧ ∀ s, K s → Q s)
    (hf : ∀ t m, K t → L.inv t m → L.limit (m + v) → g.access (.removeLine uid farmerId id) t →
      Books L t (deleteCartProduct uid farmerId id t).1 (m + v - b) ∧
        ∀ u, L.rel (deleteCartProduct uid farmerId id t).1 u → Q u) :
    Pays L g (Owing v K) (FirebaseHelper.removeFromCart uid farmerId id) (fun _ => Owing b Q)
      E := by
  refine .tryCatch (F := fun _ => Owing b Q) ?_ fun _ => .pure fun _ _ hp => hp
  have refused : farmerId = "" ∨ id = "" → ∀ a s, Owing v K a s → Owing b Q a s :=
    fun hpath a s hp => ⟨hp.1.trans (skipped hpath).1, (skipped hpath).2 s hp.2⟩
  refine .bind (R := fun _ => Owing v K) ?_ fun _ => .bind (R := fun _ => Owing v K) ?_ fun _ =>
    h.pays_call stable hb hf
  · unfold checkPath
    split
    case isTrue hpath => exact .throw (refused (.inl hpath))
    case isFalse => exact .pure fun _ _ hp => hp
  · unfold checkPath
    split
    case isTrue hpath => exact .throw (refused (.inr hpath))
    case isFalse => exact .pure fun _ _ hp => hp

theorem delete_books {t : World} {m : M} {uid : Uid} {farmerId id : String} (ht : L.inv t m)
    (hacc : g.access (.removeLine uid farmerId id) t) :
    Books L t (deleteCartProduct uid farmerId id t).1 m := by
  by_cases hpath : uid = i.uid ∧ farmerId = i.farmerId
  · obtain ⟨rfl, rfl⟩ := hpath
    exact h.removeLine id t _ m hacc (writes_delete t id) ht
  · exact h.beside ht (unchanged_delete (h.covers.inv t m ht) hpath)

theorem pays_deletion (uid : Uid) (farmerId id : String) :
    Pays L g (Owing 0 fun _ => True) (FirebaseHelper.removeFromCart uid farmerId id)
      (fun _ => Owing 0 fun _ => True) E :=
  h.pays_helper_removeFromCart uid farmerId id (fun _ _ _ hs => hs) le_rfl
    (fun _ => ⟨rfl, fun _ _ => trivial⟩) fun t m _ ht _ hacc => by
      rw [add_zero, sub_zero]
      exact ⟨h.delete_books ht hacc, fun _ _ => trivial⟩

theorem pays_removeEach (products : List Product) :
    Pays L g (Owing 0 fun _ => True) (removeEach d products) (fun _ => Owing 0 fun _ => True)
      E := by
  induction products with
  | nil => exact .pure fun _ _ hp => hp
  | cons p rest ih => exact .bind (h.pays_deletion d.uid _ _) fun _ => ih

omit h in
theorem quiet_besideList {f : MyCartController → MyCartController}
    (hf : ∀ c, (f c).listPart = c.listPart) : Quiet i.bystander (setPage d f) :=
  .change fun _ hs => unchanged_sameKeys hs (.of_listPart (hf _))

omit h in
theorem quiet_getCustomerDeliveryAddress_item :
    Quiet i.bystander (getCustomerDeliveryAddress d) :=
  quiet_getCustomerDeliveryAddress_of (fun _ _ => trivial) fun _ hf =>
    quiet_besideList d fun c => MyCartController.listPart_eq (hf c)

variable [IsOrderedAddMonoid M]

theorem pays_validateEach (pairs : List (ℕ × Product))
    (hv : v = 0 ∨ v = D.validation ∧ ∃ x ∈ pairs, i.Concerns d.uid x.2 ∧ x.2.id ≠ "") :
    Pays L g (Owing v fun s => ∀ x ∈ pairs, Held d x.1 x.2 s)
      (validateEach d (pairs.map Prod.fst)) (fun _ => Owing 0 fun _ => True) E := by
  induction pairs generalizing v with
  | nil =>
    obtain rfl : v = 0 := hv.resolve_right fun hv => by
      obtain ⟨-, x, hx, -⟩ := hv
      cases hx
    exact .pure fun _ _ hp => ⟨hp.1, trivial⟩
  | cons x rest ih =>
    have step : ∀ b c : M, 0 ≤ b → 0 ≤ c → b + c = v →
        (b = 0 ∨ b = D.validation ∧ i.Concerns d.uid x.2 ∧ x.2.id ≠ "") →
        (c = 0 ∨ c = D.validation ∧ ∃ x ∈ rest, i.Concerns d.uid x.2 ∧ x.2.id ≠ "") →
        Pays L g (Owing v fun s => ∀ y ∈ x :: rest, Held d y.1 y.2 s)
          (validateEach d ((x :: rest).map Prod.fst)) (fun _ => Owing 0 fun _ => True) E := by
      rintro b c hb hc rfl hhead htail
      refine .bind (R := fun _ => Owing c fun s => ∀ y ∈ rest, Held d y.1 y.2 s)
        ((h.pays_spawn hb hc (pays_spent (h.pays_validateQuantity d hhead))
          (fun s hs => hs x (List.mem_cons_self ..))
          fun s t hst hs y hy => held_later d _ _ s t hst (hs y hy)).weaken (fun _ _ hp => hp)
          (fun _ _ _ hq => ⟨hq.1, fun y hy => hq.2 y (List.mem_cons_of_mem _ hy)⟩)
          fun _ _ _ he => he) fun _ => ih htail
    rcases hv with rfl | ⟨rfl, y, hy, hown, hid⟩
    · exact step 0 0 le_rfl le_rfl (add_zero 0) (.inl rfl) (.inl rfl)
    · rcases List.mem_cons.1 hy with rfl | hy
      · exact step _ 0 D.validation_nonneg le_rfl (add_zero _) (.inr ⟨rfl, hown, hid⟩) (.inl rfl)
      · exact step 0 _ le_rfl D.validation_nonneg (zero_add _) (.inl rfl)
          (.inr ⟨rfl, y, hy, hown, hid⟩)

theorem pays_fetchCustomerCartProducts (uid : Uid) (farmerId : String) :
    Pays L g (Owing v fun _ => True) (fetchCustomerCartProducts uid farmerId)
      (fun _ => Owing v fun _ => True) E := by
  have plain : ∀ s, i.bystander.inv s → i.bystander.shows .plain s := fun _ _ => trivial
  refine .tryCatch (F := fun _ => Owing v fun _ => True) (h.pays_quiet (.bind
    (quiet_fetchInitialCart plain uid) fun first => ?_) fun _ _ _ hs => hs)
      fun _ => .pure fun _ _ hp => hp
  cases first with
  | some f => exact quiet_get plain _
  | none => exact quiet_get plain _

omit h [IsOrderedAddMonoid M] in
theorem pays_fix {α : Type} {φ : M → Prop} {K : World → Prop} {m : Program α}
    {Q : α → M → World → Prop} (hm : ∀ w, φ w → Pays L g (Owing w K) m Q E) :
    Pays L g (fun a s => φ a ∧ K s) m Q E := fun k h' s p a hs hl ha hp =>
  hm a hp.1 k h' s p a hs hl ha ⟨rfl, hp.2⟩

theorem pays_shown {w : M} {products dropped : List Product}
    (hw : w = 0 ∨ w = D.validation ∧ ∃ p ∈ products, i.Concerns d.uid p ∧ p.id ≠ "") :
    Pays L g (Owing w fun s => (s.cartPages d).shown = products) (do
      let c ← page d
      validateEach d (c.lists c.myCartList)
      removeEach d dropped
      setPage d fun c => { c with selectedDate := "", selectedTime := "" }
      spawn (getCustomerDeliveryAddress d)) (fun _ => Owing 0 fun _ => True) E := by
  refine .bind (R := fun c a s => c.shown = products ∧
    Owing w (fun s => ∀ o ∈ c.lists c.myCartList, Held d o (c.objects o) s) a s)
    (.look fun a s p hs hp => ⟨hp.2, hp.1, fun o ho => ⟨h.covers.inv s p hs d o ho, rfl⟩⟩)
    fun c => .given fun hshown => ?_
  have each := h.pays_validateEach (v := w) (E := E) d
    ((c.lists c.myCartList).map fun o => (o, c.objects o)) (hw.imp_right fun hw => ⟨hw.1, by
      obtain ⟨-, p, hp, hown⟩ := hw
      obtain ⟨o, ho, rfl⟩ := List.mem_map.1 (hshown ▸ hp)
      exact ⟨(o, c.objects o), List.mem_map.2 ⟨o, ho, rfl⟩, hown⟩⟩)
  rw [List.map_map, show Prod.fst ∘ (fun o => (o, c.objects o)) = id from rfl, List.map_id] at each
  refine .bind (each.weaken (fun a s hp => ⟨hp.1, fun x hx => ?_⟩) (fun _ _ _ hq => hq)
    fun _ _ _ he => he) fun _ => .bind (h.pays_removeEach d _) fun _ =>
      .bind (h.pays_change (Q := fun _ => True) fun s hs _ =>
        ⟨unchanged_sameKeys hs (.of_listPart rfl), trivial⟩) fun _ => ?_
  · obtain ⟨o, ho, rfl⟩ := List.mem_map.1 hx
    exact hp.2 o ho
  · have address := h.pays_quiet (K := fun _ => True) (v := (0 : M))
      (quiet_getCustomerDeliveryAddress_item (i := i) d) fun _ _ _ hs => hs
    have spawned := h.pays_spawn (E := E) (c := 0) le_rfl le_rfl (address.weaken (fun _ _ hp => hp)
      (fun _ _ _ hq => hq.1) fun _ _ _ he => he.1) (fun _ hs => hs) fun _ _ _ hs => hs
    rwa [add_zero] at spawned

theorem pays_getCartProducts (hv : v = 0 ∨ v = D.validation ∧ d.uid = i.uid) (farmerId : String) :
    Pays L g (Owing v fun _ => True) (getCartProducts d farmerId) (fun _ => Owing 0 fun _ => True)
      E := by
  refine .bind (h.pays_change (Q := fun _ => True) fun s hs _ =>
    ⟨unchanged_setList hs d fun _ _ _ ho => by simp only [List.not_mem_nil] at ho, trivial⟩)
    fun _ =>
    .tryCatch (F := fun _ _ _ => False) (.bind (h.pays_fetchCustomerCartProducts d.uid farmerId)
      fun response => ?_) fun _ => .pure fun _ _ hp => hp.elim
  set products := (splitProducts response).1 with hproducts
  let due (a : M) : Prop :=
    a = 0 ∨ a = D.validation ∧ ∃ p ∈ products, i.Concerns d.uid p ∧ p.id ≠ ""
  refine .bind (R := fun _ => Owing v fun s => g.access (.showCart d products) s)
    (.note fun _ _ _ _ hp hacc => ⟨hp.1, hacc⟩) fun _ =>
    .bind (R := fun _ a s => due a ∧ (s.cartPages d).shown = products) (.change ?_) fun _ =>
      pays_fix fun w hw => h.pays_shown d hw
  intro a s m hs hl ha hp
  obtain ⟨rfl, hacc⟩ := hp
  have shown :
      ((s.setCartPage d fun c => c.replaceList products).cartPages d).shown = products := by
    rw [World.setCartPage_self, shown_replaceList]
  have unpaid : due a → ∃ b, 0 ≤ b ∧
      L.inv (s.setCartPage d fun c => c.replaceList products) (m + a - b) ∧
      L.rel s (s.setCartPage d fun c => c.replaceList products) ∧ due b ∧
        ((s.setCartPage d fun c => c.replaceList products).cartPages d).shown = products :=
      fun hdue => by
    refine ⟨a, ha, ?_⟩
    rw [add_sub_cancel_right]
    by_cases hd : d.uid = i.uid
    · obtain ⟨hi, hr⟩ := h.replaced d products s m hd hacc hs
      exact ⟨hi, hr, hdue, shown⟩
    · obtain ⟨hi, hr⟩ := h.beside hs (unchanged_replaceList (h.covers.inv s m hs) hd products)
      exact ⟨hi, hr, hdue, shown⟩
  rcases hv with rfl | ⟨rfl, hd⟩
  · exact unpaid (.inl rfl)
  rcases h.shown d products s m hd hacc hs hl with ⟨p, hp, his, hid⟩ | paid
  · exact unpaid (.inr ⟨rfl, p, hp, ⟨hd, his⟩, hid⟩)
  · obtain ⟨hi, hr⟩ := h.replaced d products s _ hd hacc paid
    exact ⟨0, le_rfl, by rwa [sub_zero], hr, .inl rfl, shown⟩

end Reloads

section Changes

variable (h : CartLedger i D L g) {v : M} {E : DartError → M → World → Prop} (d : Device)

theorem settle_getCartProducts (farmerId : String) (s : World) :
    ((getCartProducts d farmerId).task.settle s).1 =
      s.setCartPage d fun c => c.setList fun _ => [] := rfl

theorem share_nonneg {uid : Uid} {p : Product} {x : M} (hx : 0 ≤ x) : 0 ≤ share i uid p x := by
  unfold share
  split
  · exact hx
  · exact le_rfl

omit [PartialOrder M] in
theorem share_own {uid : Uid} {p : Product} (hp : i.Concerns uid p) (x : M) :
    share i uid p x = x := if_pos hp

omit [PartialOrder M] in
theorem share_other {uid : Uid} {p : Product} (hp : ¬ i.Concerns uid p) (x : M) :
    share i uid p x = 0 := if_neg hp

variable [IsOrderedAddMonoid M]
include h

theorem pays_reload {c : M} (hv : v = 0 ∨ v = D.validation ∧ d.uid = i.uid) (hc : 0 ≤ c)
    (farmerId : String) {K : World → Prop} (stable : ∀ s t : World, s.Later t → K s → K t) :
    Pays L g (Owing (v + c) K) (spawn (getCartProducts d farmerId)) (fun _ => Owing c K) E := by
  have nonneg : 0 ≤ v := by
    rcases hv with rfl | ⟨rfl, -⟩
    · exact le_rfl
    · exact D.validation_nonneg
  exact h.pays_spawn nonneg hc (pays_spent (h.pays_getCartProducts d hv farmerId))
    (fun _ _ => trivial) stable

theorem pays_updateProductInCart {o : ℕ} {p : Product} {n previousQty : ℤ} {b : M}
    {K : World → Prop}
    (stable : ∀ s t : World, s.Later t → K s → K t) (hb : 0 ≤ b)
    (skipped : p.farmerId = "" ∨ p.id = "" → v = b)
    (write : ∀ q t m, q.key = p.key → q.qty = n → K t → L.inv t m → L.limit (m + v) →
      g.access (.storeLine d.uid q previousQty) t →
      Books L t (storeCartProduct (.storeLine d.uid q previousQty) d.uid q t) (m + v - b)) :
    Pays L g (Owing v fun s => K s ∧ ((s.cartPages d).objects o).key = p.key ∧
        ((s.cartPages d).objects o).qty = n) (updateProductInCart d o previousQty)
      (fun _ => Owing b fun _ => True) E := by
  refine .tryCatch (F := fun _ _ _ => False) (.bind (R := fun _ => Owing v fun s => K s ∧
    ((s.cartPages d).objects o).key = p.key ∧ ((s.cartPages d).objects o).qty = n)
    (.look fun _ _ _ _ hp => hp) fun page => .bind (R := fun _ => Owing v fun s => K s ∧
      ((s.cartPages d).objects o).key = p.key ∧ ((s.cartPages d).objects o).qty = n)
      (.spawn (pays_spent (h.pays_getCartProducts d (.inl rfl) (page.objects o).farmerId))
        fun a s q hs ha hp => ?_)
      fun _ => .bind (R := fun c a s => ((c.objects o).key = p.key ∧ (c.objects o).qty = n) ∧
        Owing v K a s) (.look fun _ _ _ _ hp => ⟨hp.2.2, hp.1, hp.2.1⟩)
        fun page => .given fun hobject => ?_) fun _ => .pure fun _ _ hp => hp.elim
  · refine ⟨0, a, le_rfl, ha, (zero_add a).symm, ⟨rfl, trivial⟩, fun _ _ hr =>
      ⟨hp.1, stable s _ (h.later _ _ hr) hp.2.1, ?_⟩⟩
    rw [settle_getCartProducts, World.setCartPage_self]
    exact hp.2.2
  · obtain ⟨hkey, hqty⟩ := hobject
    generalize page.objects o = q at hkey hqty
    have hkey' := hkey
    simp only [Product.key, Prod.mk.injEq] at hkey'
    refine h.pays_helper_updateProductInCart stable hb d.uid q ?_
      fun t m hK ht hl hacc _ _ => write q t m hkey hqty hK ht hl hacc
    rw [hkey'.1, hkey'.2.1]
    exact skipped

omit [IsOrderedAddMonoid M] in
theorem pays_untouched {l : Access} {f : World → World × Except DartError Unit} {lost : DartError}
    (hv : 0 ≤ v) (hf : ∀ t, i.bystander.inv t → g.access l t →
      i.bystander.inv (f t).1 ∧ i.bystander.rel t (f t).1) :
    Pays L g (Owing v fun _ => True) (call l f lost : Program Unit) (fun _ => Owing v fun _ => True)
      fun _ => Owing v fun _ => True :=
  h.pays_call (fun _ _ _ hs => hs) hv fun t m _ ht _ hacc => by
    rw [add_sub_cancel_right]
    exact ⟨h.beside ht (hf t (h.covers.inv t m ht) hacc), fun _ _ => trivial⟩

theorem pays_addProductToCart (ids : IdSupply) {p : Product}
    (hadds : i.Concerns d.uid p → Adds i D L g d p) :
    Pays L g (Owing (share i d.uid p (D.adding p.qty)) fun _ => True)
      (addProductToCart ids d.uid p)
      (fun _ => Owing (share i d.uid p (D.validation + D.finishing)) fun _ => True)
      fun _ => Owing (share i d.uid p (D.validation + D.finishing)) fun _ => True := by
  have stored : (0 : M) ≤ share i d.uid p (D.validation + D.finishing) :=
    share_nonneg (add_nonneg D.validation_nonneg D.finishing_nonneg)
  unfold addProductToCart
  split
  case isTrue hf =>
    have other : ¬ i.Concerns d.uid p := fun hp => i.farmerId_ne (hp.2.1.symm.trans hf)
    rw [share_other other, share_other other]
    exact .pure fun _ _ hp => hp
  refine .bind (R := fun _ => Owing (share i d.uid p (D.adding p.qty)) fun _ => True)
    (h.pays_answered (y := fun _ => ()) (fun _ => rfl) (fun _ _ _ hs => hs)
      (share_nonneg (D.adding_nonneg _)) fun t m _ ht _ _ => ?_) fun _ =>
    .bind (R := fun _ => Owing (share i d.uid p (D.adding p.qty)) fun _ => True)
      ((h.pays_get (Q := fun _ _ => True) (fun _ _ _ hs => hs) _ fun _ _ _ => trivial).weaken
        (fun _ _ hp => hp) (fun _ _ _ hq => ⟨hq.1, trivial⟩) fun _ _ _ he => he) fun existing => ?_
  · rw [add_sub_cancel_right]
    exact ⟨h.beside ht (unchanged_setDocs (h.covers.inv t m ht) d.uid
      fun docs => docs.insert p.farmerId), fun _ _ => trivial⟩
  cases existing with
  | nil =>
    refine .bind (R := fun _ => Owing (share i d.uid p (D.validation + D.finishing)) fun _ => True)
      (h.pays_answered (y := fun t => t.lineId ids d.uid p.farmerId) (fun _ => rfl)
        (fun _ _ _ hs => hs) stored fun t m _ ht hl hacc => ⟨?_, fun _ _ => trivial⟩) fun docRef =>
      h.pays_untouched stored fun t ht _ => unchanged_updateId ht d.uid p.farmerId docRef docRef
    by_cases hp : i.Concerns d.uid p
    · rw [share_own hp] at hl
      rw [share_own hp, share_own hp]
      have his := hp.2
      have adds := hadds hp
      rw [hp.1] at hacc ⊢
      exact adds.line _ t _ m hacc (stored_lineId t ids) (writes_addLine ids t his) ht hl
    · rw [share_other hp, share_other hp, add_zero, sub_zero]
      exact h.beside ht (unchanged_addLine ids (h.covers.inv t m ht) hp)
  | cons doc rest =>
    refine h.pays_call (fun _ _ _ hs => hs) stored fun t m _ ht hl hacc => ⟨?_, fun _ _ => trivial⟩
    by_cases hp : i.Concerns d.uid p
    · rw [share_own hp] at hl
      rw [share_own hp, share_own hp]
      have his := hp.2
      have adds := hadds hp
      rw [hp.1] at hacc ⊢
      exact adds.qty doc.1 doc.2.qty t _ m hacc (writes_addQty t his doc.1 _) ht hl
    · rw [share_other hp, share_other hp, add_zero, sub_zero]
      refine h.beside ht (unchanged_updateQty (h.covers.inv t m ht) _ fun hu hf => ?_)
      exact h.others (.addQty d.uid p doc.1 doc.2.qty) t p doc.1 (by rw [← hu]; rfl) hacc
        (fun his => hp ⟨hu, his⟩) hf

omit h [IsOrderedAddMonoid M] [PartialOrder M] in
theorem share_add (uid : Uid) (p : Product) (x y : M) :
    share i uid p (x + y) = share i uid p x + share i uid p y := by
  unfold share
  split
  · rfl
  · exact (add_zero 0).symm

omit h [IsOrderedAddMonoid M] in
theorem share_validation (p : Product) : share i d.uid p D.validation = 0 ∨
    share i d.uid p D.validation = D.validation ∧ d.uid = i.uid := by
  by_cases hp : i.Concerns d.uid p
  · exact .inr ⟨share_own hp _, hp.1⟩
  · exact .inl (share_other hp _)

theorem pays_addToCart (ids : IdSupply) {p : Product}
    (hadds : i.Concerns d.uid p → Adds i D L g d p) :
    Pays L g (Owing (share i d.uid p (D.adding p.qty)) fun s => i.Concerns d.uid p → D.wants s)
      (addToCart ids d p)
      (fun _ => Owing (share i d.uid p D.finishing) fun _ => True) E := by
  have adding : (0 : M) ≤ share i d.uid p (D.adding p.qty) := share_nonneg (D.adding_nonneg _)
  have stored : (0 : M) ≤ share i d.uid p (D.validation + D.finishing) :=
    share_nonneg (add_nonneg D.validation_nonneg D.finishing_nonneg)
  have reload : Pays L g (Owing (share i d.uid p (D.validation + D.finishing)) fun _ => True)
      (spawn (getCartProducts d p.farmerId))
      (fun _ => Owing (share i d.uid p D.finishing) fun _ => True) fun _ _ _ => False := by
    rw [share_add]
    exact h.pays_reload d (share_validation d p) (share_nonneg D.finishing_nonneg) _
      fun _ _ _ hs => hs
  refine .tryCatch (F := fun _ _ _ => False) (.bind (R := fun c =>
    Owing (share i d.uid p (D.adding p.qty)) fun s =>
      s.cartPages d = c ∧ (i.Concerns d.uid p → D.wants s))
    (.look fun _ _ _ _ hp => ⟨hp.1, rfl, hp.2⟩) fun c => ?_) fun _ => .pure fun _ _ hp => hp.elim
  dsimp only
  split
  case h_1 =>
    refine .bind (R := fun _ => Owing (share i d.uid p (D.adding p.qty)) fun _ => True)
      (pays_books adding fun s m hwants hs _ => ⟨?_, trivial⟩) fun _ =>
      .bind (R := fun _ => Owing (share i d.uid p (D.validation + D.finishing)) fun _ => True)
        (.tryCatch (.bind (h.pays_addProductToCart d ids hadds) fun _ => .pure fun _ _ hp => hp)
          fun _ => .pure fun _ _ hp => hp) fun _ => reload
    rw [add_sub_cancel_right]
    by_cases hp : i.Concerns d.uid p
    · exact (hadds hp).object s m (hwants.2 hp) hs
    · exact h.beside hs (unchanged_addObject (h.covers.inv s m hs) hp)
  case h_2 object hfound =>
    obtain ⟨hfind, hid⟩ := Option.filter_eq_some_iff.1 hfound
    have hid := of_decide_eq_true hid
    have hsame := List.find?_some hfind
    simp only [decide_eq_true_eq] at hsame
    have concerns : i.Concerns d.uid (c.objects object) ↔ i.Concerns d.uid p := by
      simp only [CartItem.Concerns, CartItem.Is, hsame.1, hsame.2]
    refine .bind (h.pays_change (Q := fun s => True ∧
      ((s.cartPages d).objects object).key = (c.objects object).key ∧
        ((s.cartPages d).objects object).qty = (c.objects object).qty + p.qty) fun s hs hc => ?_)
      fun _ => .bind (h.pays_updateProductInCart d (fun _ _ _ hs => hs) stored (fun hpath => ?_)
        fun q t m hkey hqty _ ht hl hacc => ?_) fun _ => reload
    · refine ⟨unchanged_sameKeys hs (sameKeys_setQty _ _ _), trivial, ?_⟩
      rw [World.setCartPage_self, hc.1]
      simp only [setQty, Function.update_self, Product.key, and_self]
    · by_cases hp : i.Concerns d.uid p
      · rcases hpath with hf | hid'
        · exact absurd ((concerns.2 hp).2.1.symm.trans hf) i.farmerId_ne
        · exact absurd hid' hid
      · rw [share_other hp, share_other hp]
    · have hq : i.Concerns d.uid q ↔ i.Concerns d.uid p :=
        (and_congr_right fun _ => CartItem.is_of_key i hkey).trans concerns
      by_cases hp : i.Concerns d.uid p
      · rw [share_own hp] at hl
        rw [share_own hp, share_own hp]
        have his := (hq.2 hp).2
        have hu := hp.1
        rw [hu] at hacc ⊢
        exact (hadds hp).store q _ t _ m his hqty hacc (writes_store _ his) ht hl
      · rw [share_other hp, share_other hp, add_zero, sub_zero]
        exact h.store_other ht rfl hacc (hq.not.2 hp)

omit [IsOrderedAddMonoid M] in
theorem pays_removal (p : Product) :
    Pays L g (Owing 0 fun _ => True) (removeFromCart d p) (fun _ => Owing 0 fun _ => True) E := by
  have removeWhere : ∀ id, Pays L g (Owing 0 fun _ => True)
      (setPage d fun c => c.removeWhere id) (fun _ => Owing 0 fun _ => True) fun _ =>
        Owing 0 fun _ => True := fun id =>
    h.pays_change fun s hs _ => ⟨unchanged_setList hs d (f := fun c list => list.filter fun i =>
      (c.objects i).id ≠ id) fun _ _ => List.filter_sublist.subset, trivial⟩
  refine .tryCatch (F := fun _ => Owing 0 fun _ => True)
    (.bind (R := fun _ => Owing 0 fun _ => True) (.note fun _ _ _ _ hp _ => hp) fun _ =>
      .bind (R := fun _ => Owing 0 fun _ => True) (.look fun _ _ _ _ hp => hp) fun c => ?_)
    fun _ => .pure fun _ _ hp => hp
  split
  · exact .bind (removeWhere _) fun _ => .bind (h.pays_deletion d.uid _ _) fun _ =>
      .bind (h.pays_deletion d.uid _ _) fun _ => removeWhere _
  · exact .throw fun _ _ hp => hp

omit [IsOrderedAddMonoid M] in
theorem pays_removeFromCart {p q : Product} {x : ℤ} (hown : i.Concerns d.uid q) (hid : q.id = p.id)
    (hne : p.id ≠ "") (hrem : Removes i D L g d p x) :
    Pays L g (Owing (D.removal p.id) fun _ => True) (removeFromCart d q)
      (fun _ => Owing 0 fun _ => True) E := by
  refine .tryCatch (F := fun _ _ _ => False) (.bind (R := fun _ => Owing (D.removal p.id) fun s =>
    g.access (.removeItem d q) s) (.note fun _ _ _ _ hp hacc => ⟨hp.1, hacc⟩) fun _ =>
      .bind (R := fun c a s => (∃ item, c.shown.find? (fun item => item.id = p.id) = some item ∧
        item.farmerId = i.farmerId) ∧ Owing (D.removal p.id) (fun _ => True) a s)
        (.look fun _ s _ _ hp => ⟨hrem.removable q s hid hown.2 hp.2, hp.1, trivial⟩) fun c =>
          .given fun hitem => ?_) fun _ => .pure fun _ _ hp => hp.elim
  obtain ⟨item, hfind, hfarmer⟩ := hitem
  have hsame := List.find?_some hfind
  simp only [decide_eq_true_eq] at hsame
  rw [hid, hfind]
  dsimp only
  rw [hfarmer, hsame, hown.1]
  refine .bind (h.pays_change (Q := fun _ => True) fun s hs _ => ⟨unchanged_setList hs d
      (f := fun c list => list.filter fun i => (c.objects i).id ≠ p.id)
      fun _ _ => List.filter_sublist.subset, trivial⟩) fun _ =>
    .bind (h.pays_helper_removeFromCart (K := fun _ => True) (Q := fun _ => True) i.uid i.farmerId
      p.id (fun _ _ _ hs => hs) (D.listed_nonneg p.id) (fun hpath => ?_)
      fun t m _ ht hl hacc =>
        ⟨hrem.line t _ m hacc (writes_delete t p.id) ht hl, fun _ _ => trivial⟩) fun _ =>
    .bind (h.pays_helper_removeFromCart (K := fun _ => True) (Q := fun _ => True) i.uid i.farmerId
      p.id (fun _ _ _ hs => hs) (D.listed_nonneg p.id) (fun _ => ⟨rfl, fun _ hs => hs⟩)
      fun t m _ ht _ hacc => ?_) fun _ => pays_books le_rfl fun s m _ hs hl => ?_
  · rcases hpath with hf | hid'
    · exact absurd hf i.farmerId_ne
    · exact absurd hid' hne
  · rw [add_sub_cancel_right]
    exact ⟨h.delete_books ht hacc, fun _ _ => trivial⟩
  · rw [sub_zero]
    exact ⟨hrem.unlist s m hs hl, trivial⟩

omit h [IsOrderedAddMonoid M] in
theorem share_asked {p : Product} {x : ℤ}
    (hp : i.Concerns d.uid p → asked D p x = D.finishing) :
    share i d.uid p (asked D p x) = share i d.uid p D.finishing := by
  unfold share
  split
  case isTrue hown => exact hp hown
  case isFalse => rfl

theorem pays_setQuantity {p q : Product} {o : ℕ} {x totalQty : ℤ}
    (concerns : i.Concerns d.uid q ↔ i.Concerns d.uid p) (hid : q.id = p.id)
    (hown : i.Concerns d.uid p → asked D p x = D.finishing ∨ p.id ≠ "") (hx : 0 < x)
    (hle : x ≤ totalQty) (hsets : i.Concerns d.uid p → Sets i D L g d p x) :
    Pays L g (Owing (share i d.uid p (asked D p x)) (HeldWithin d o q p totalQty)) (do
      let previousQty := ((← page d).objects o).qty
      setPage d fun c => c.setQty o x
      updateProductInCart d o previousQty)
      (fun _ => Owing (share i d.uid p D.finishing) fun _ => True) E := by
  set v := share i d.uid p (asked D p x) with hv
  have stable := heldWithin_later d o q p totalQty
  refine .bind (R := fun _ => Owing v (HeldWithin d o q p totalQty)) (.look fun _ _ _ _ hp => hp)
    fun page => .bind (h.pays_change (Q := fun s => HeldWithin d o q p totalQty s ∧
      ((s.cartPages d).objects o).key = q.key ∧ ((s.cartPages d).objects o).qty = x)
      fun s hs hheld => ?_) fun _ =>
    h.pays_updateProductInCart d stable (share_nonneg D.finishing_nonneg) (fun hpath => ?_)
      fun r t m hkey hqty hheld ht hl hacc => ?_
  · have step := unchanged_sameKeys hs (d := d) (f := fun c => c.setQty o x) (sameKeys_setQty _ _ _)
    refine ⟨step, stable _ _ step.2.2 hheld, ?_⟩
    rw [World.setCartPage_self]
    exact ⟨((sameKeys_setQty _ o x).objects o).trans hheld.1.2, by
      simp only [setQty, Function.update_self]⟩
  · refine share_asked d fun hp => ?_
    rcases hpath with hf | hid'
    · exact absurd ((concerns.2 hp).2.1.symm.trans hf) i.farmerId_ne
    · exact (hown hp).resolve_right fun hne => hne (hid.symm.trans hid')
  · have hr : i.Concerns d.uid r ↔ i.Concerns d.uid p :=
      (and_congr_right fun _ => CartItem.is_of_key i hkey).trans concerns
    by_cases hp : i.Concerns d.uid p
    · have howed : v = D.setting x := by rw [hv, share_own hp, asked, if_pos hx]
      have hstock : x ≤ t.stockOf i := by
        rw [hheld.2, hp.2.1, hp.2.2] at hle
        exact hle
      have his := (hr.2 hp).2
      rw [howed] at hl
      rw [howed, share_own hp]
      rw [hp.1] at hacc ⊢
      exact (hsets hp).store r _ t _ m his hqty hstock hacc (hqty ▸ writes_store _ his) ht hl
    · rw [hv, share_other hp, share_other hp, add_zero, sub_zero]
      exact h.store_other ht rfl hacc (hr.not.2 hp)

theorem pays_startRemoval {p q : Product} {x : ℤ}
    (concerns : i.Concerns d.uid q ↔ i.Concerns d.uid p) (hid : q.id = p.id)
    (hown : i.Concerns d.uid p → asked D p x = D.finishing ∨ p.id ≠ "") (hx : ¬ 0 < x)
    (hremoves : i.Concerns d.uid p → Removes i D L g d p x) :
    Pays L g (Owing (share i d.uid p (asked D p x)) fun _ => True) (spawn (removeFromCart d q))
      (fun _ => Owing (share i d.uid p D.finishing) fun _ => True) E := by
  have finishing : (0 : M) ≤ share i d.uid p D.finishing := share_nonneg D.finishing_nonneg
  by_cases hzero : i.Concerns d.uid p → asked D p x = D.finishing
  · have spawned := h.pays_spawn (E := E) le_rfl finishing (pays_spent (h.pays_removal d q))
      (K := fun _ => True) (fun _ _ => trivial) fun _ _ _ hs => hs
    rw [zero_add] at spawned
    rw [share_asked d hzero]
    exact spawned
  · obtain ⟨hp, hne⟩ := Classical.not_imp.1 hzero
    have howed : asked D p x = D.removal p.id + D.finishing := if_neg hx
    rw [share_own hp, share_own hp, howed]
    have removal := h.pays_removeFromCart (E := fun _ a _ => a = 0) d (concerns.2 hp) hid
      ((hown hp).resolve_left hne) (hremoves hp)
    exact h.pays_spawn (D.removal_nonneg _) D.finishing_nonneg (pays_spent removal)
      (fun _ _ => trivial) fun _ _ _ hs => hs

theorem pays_updateQuantity {p : Product} {x : ℤ}
    (haccepted : i.Concerns d.uid p → ∀ totalQty s,
      g.access (.checkQuantity d p x totalQty) s → asked D p x = D.finishing ∨ x ≤ totalQty)
    (hsets : i.Concerns d.uid p → 0 < x → Sets i D L g d p x)
    (hremoves : i.Concerns d.uid p → x ≤ 0 → Removes i D L g d p x) :
    Pays L g (Owing (share i d.uid p (asked D p x)) fun s =>
        (∀ o, (s.cartPages d).found p = some o → d.uid = i.uid →
          (i.Is ((s.cartPages d).objects o) ↔ i.Is p)) ∧
        (i.Concerns d.uid p →
          asked D p x = D.finishing ∨ p.id ≠ "" ∧ ∃ o, (s.cartPages d).found p = some o))
      (updateQuantity d p x) (fun _ => Owing (share i d.uid p D.finishing) fun _ => True) E := by
  set v := share i d.uid p (asked D p x) with hv
  let ended := Owing (share i d.uid p D.finishing) fun _ => True
  have finishing : (0 : M) ≤ share i d.uid p D.finishing := share_nonneg D.finishing_nonneg
  have reload : ∀ o, Pays L g ended (do
      let c ← page d
      spawn (getCartProducts d (c.objects o).farmerId)) (fun _ => ended) (fun _ => ended) := by
    intro o
    refine .bind (R := fun _ => ended) (.look fun _ _ _ _ hp => hp) fun c => ?_
    have spawned := h.pays_reload (E := fun _ => ended) d (.inl rfl) finishing
      (c.objects o).farmerId (K := fun _ => True) fun _ _ _ hs => hs
    rwa [zero_add] at spawned
  refine .tryCatch (F := fun _ => ended)
    (.bind (R := fun c a s => ((∀ o, c.found p = some o → d.uid = i.uid →
      (i.Is (c.objects o) ↔ i.Is p)) ∧ (i.Concerns d.uid p →
        asked D p x = D.finishing ∨ p.id ≠ "" ∧ ∃ o, c.found p = some o)) ∧
      Owing v (fun s => ∀ o ∈ c.lists c.myCartList, Held d o (c.objects o) s) a s)
      (.look fun a s m hs hp => ⟨hp.2, hp.1, fun o ho => ⟨h.covers.inv s m hs d o ho, rfl⟩⟩)
      fun c => .given fun hpage => ?_) fun _ => .pure fun _ _ hp => hp
  obtain ⟨hshown, hown⟩ := hpage
  rw [show (c.lists c.myCartList).find? (fun o => (c.objects o).id = p.id) = c.found p from rfl]
  split
  case h_2 hnone =>
    refine .throw fun _ _ hp => ⟨hp.1.trans (share_asked d fun hp' => ?_), trivial⟩
    refine (hown hp').resolve_right fun hfound => ?_
    obtain ⟨-, o, ho⟩ := hfound
    rw [hnone] at ho
    cases ho
  case h_1 item hfound =>
    have hmem := List.mem_of_find?_eq_some hfound
    have hid := List.find?_some hfound
    simp only [decide_eq_true_eq] at hid
    have concerns : i.Concerns d.uid (c.objects item) ↔ i.Concerns d.uid p :=
      and_congr_right fun hd => hshown item hfound hd
    have named : i.Concerns d.uid p → asked D p x = D.finishing ∨ p.id ≠ "" := fun hp =>
      (hown hp).imp_right (·.1)
    refine .bind ((h.pays_getProductTotalQty (held_later d item (c.objects item)) p.farmerId
      p.prodId).weaken (fun a s hp => ⟨hp.1, hp.2 item hmem⟩) (fun _ _ _ hq => hq)
        fun _ _ _ he => he) fun totalQty =>
      .bind (R := fun _ a s => (i.Concerns d.uid p → asked D p x = D.finishing ∨ x ≤ totalQty) ∧
          Owing v (HeldWithin d item (c.objects item) p totalQty) a s)
        (.note fun a s _ _ hp hacc => ⟨fun hp' => haccepted hp' totalQty s hacc, hp⟩) fun _ =>
        .given fun hle => ?_
    split
    case isTrue hover =>
      exact .pure fun _ _ hp => ⟨hp.1.trans (share_asked d fun hp' =>
        (hle hp').resolve_right (not_le.2 hover)), trivial⟩
    case isFalse hover =>
    split
    case isTrue hpos =>
      have stored := Pays.bind (h.pays_setQuantity (o := item) d concerns hid named hpos
        (not_lt.1 hover) fun hp => hsets hp hpos) fun _ => reload item
      exact stored
    case isFalse hneg =>
      refine .bind (R := fun c' a s => (c'.objects item).key = (c.objects item).key ∧
          Owing v (fun _ => True) a s) (.look fun _ _ _ _ hp => ⟨hp.2.1.2, hp.1, trivial⟩)
        fun page => .bind (R := fun _ => ended) (.given fun hkey => ?_) fun _ => reload item
      have removed : i.Concerns d.uid (page.objects item) ↔ i.Concerns d.uid p :=
        (and_congr_right fun _ => CartItem.is_of_key i hkey).trans concerns
      have hpid : (page.objects item).id = p.id := (congrArg (·.2.1) hkey).trans hid
      exact h.pays_startRemoval d removed hpid named hneg fun hp => hremoves hp (not_lt.1 hneg)

omit [IsOrderedAddMonoid M] in
theorem pays_requestOver (p : Product) :
    Pays L g (Owing (share i d.uid p D.finishing) fun _ => True)
      (change fun w => w.requestOver d.uid p : Program Unit) (fun _ => Owing 0 fun _ => True) E :=
  pays_books le_rfl fun s m _ hs hl => by
    rw [sub_zero]
    refine ⟨?_, trivial⟩
    by_cases hp : i.Concerns d.uid p
    · rw [share_own hp] at hl ⊢
      rw [hp.1]
      exact h.ended p s m hp.2 hs hl
    · rw [share_other hp, add_zero]
      exact h.beside hs (unchanged_setRequest (h.covers.inv s m hs) hp _)

theorem balances (hcharge : ∀ e, 0 ≤ L.charge e) (flow : StatusLists) (ids : IdSupply) :
    L.Balances g (handler flow ids) := by
  intro e s m hs hl hstart
  have group := h.events e s hstart
  have uncharged : (∀ d p, i.Concerns d.uid p → e ≠ .addToCart d p ∧
      ∀ x, e ≠ .updateQuantity d p x) → L.charge e = 0 := h.charge e
  have page : ∀ (d : Device) {f : MyCartController → MyCartController},
      (∀ c, (f c).listPart = c.listPart) → L.charge e = 0 →
        (setPage d f).task.Pays L g s m (L.charge e) := fun d f hf he =>
    ((h.pays_quiet (quiet_besideList d hf) (K := fun _ => True) fun _ _ _ hs => hs).weaken
      (fun _ _ hp => hp) (fun _ _ _ hq => hq.1.trans he) fun _ _ _ hq => hq.1.trans he).task hs hl
        (hcharge e) ⟨rfl, trivial⟩
  cases e with
  | openCart d farmerId =>
    have free := uncharged fun _ _ _ => ⟨nofun, nofun⟩
    exact (pays_spent (h.pays_getCartProducts d (.inl free) farmerId)).task hs hl (hcharge _)
      ⟨rfl, trivial⟩
  | addToCart d p =>
    refine Pays.task (P := Owing (L.charge (.addToCart d p)) fun s => g.start (.addToCart d p) s)
      (.bind (R := fun _ => Owing (share i d.uid p (D.adding p.qty)) fun s =>
          i.Concerns d.uid p → D.wants s)
        (pays_books (share_nonneg (D.adding_nonneg _)) fun s m hstart hs hl => ⟨?_, fun hp =>
          ((h.adds d p s hp hstart).request s m hstart hs hl).2⟩) fun _ =>
        .bind (h.pays_addToCart d ids fun hp => h.adds d p s hp hstart) fun _ =>
          pays_spent (h.pays_requestOver d p)) hs hl (hcharge _) ⟨rfl, hstart⟩
    by_cases hp : i.Concerns d.uid p
    · rw [share_own hp]
      exact ((h.adds d p s hp hstart).request s m hstart hs hl).1
    · rw [share_other hp, sub_zero, uncharged fun d' p' hp' =>
        ⟨fun heq => by cases heq; exact hp hp', nofun⟩, add_zero]
      exact h.beside hs (unchanged_setRequest (h.covers.inv s m hs) hp _)
  | updateQuantity d p x =>
    have asked_nonneg : (0 : M) ≤ asked D p x := by
      unfold asked
      split
      · exact D.setting_nonneg x
      · exact add_nonneg (D.removal_nonneg _) D.finishing_nonneg
    refine Pays.task (P := Owing (L.charge (.updateQuantity d p x))
      fun s => g.start (.updateQuantity d p x) s) (.bind (pays_books (share_nonneg asked_nonneg)
        fun s m hstart hs hl => ⟨?_, fun o ho hd => ?_, fun hp => ?_⟩) fun _ =>
        .bind (h.pays_updateQuantity d
          (fun hp totalQty t => h.accepted d p x totalQty t hp ⟨s, hstart⟩)
          (fun hp hx => h.sets d p x s hp hstart hx)
          fun hp hx => h.removes d p x s hp hstart hx) fun _ =>
          pays_spent (h.pays_requestOver d p)) hs hl (hcharge _) ⟨rfl, hstart⟩
    · by_cases hp : i.Concerns d.uid p
      · rw [share_own hp, asked]
        split
        case isTrue hx => exact (h.sets d p x s hp hstart hx).request s m hstart hs hl
        case isFalse hx =>
          have hx : x ≤ 0 := not_lt.1 hx
          exact (h.removes d p x s hp hstart hx).request s m hstart hs hl
      · rw [share_other hp, sub_zero, uncharged fun d' p' hp' =>
          ⟨nofun, fun y heq => by cases heq; exact hp hp'⟩, add_zero]
        exact h.beside hs (unchanged_setRequest (h.covers.inv s m hs) hp _)
    · exact h.shownAs d p x s o hstart hd ho
    · exact h.shownOwn d p x s hp hstart
  | pickDate d date =>
    exact page d (fun _ => rfl) (uncharged fun _ _ _ => ⟨nofun, nofun⟩)
  | pickTime d time =>
    exact page d (fun _ => rfl) (uncharged fun _ _ _ => ⟨nofun, nofun⟩)
  | pickPayment d paymentMethod =>
    exact page d (fun _ => rfl) (uncharged fun _ _ _ => ⟨nofun, nofun⟩)
  | _ => cases group

end Changes

end CartLedger

end Gherass
