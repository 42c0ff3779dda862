import Gherass.CartPage

set_option autoImplicit false

/-!
# One product in a customer's cart

What is stored of it under which ids, what is wanted of it, and what leaves all that alone.
-/
namespace Gherass

open EventLoop EventLoop.Async FirebaseHelper MyCartController

/-- A farmer's product, in the cart of one customer. -/
structure CartItem where
  uid : Uid
  farmerId : String
  prodId : String
  farmerId_ne : farmerId ≠ ""

namespace CartItem

variable (i : CartItem)

def Is (p : Product) : Prop := p.farmerId = i.farmerId ∧ p.prodId = i.prodId

instance (p : Product) : Decidable (i.Is p) := inferInstanceAs (Decidable (_ ∧ _))

def Concerns (uid : Uid) (p : Product) : Prop := uid = i.uid ∧ i.Is p

instance (uid : Uid) (p : Product) : Decidable (i.Concerns uid p) :=
  inferInstanceAs (Decidable (_ ∧ _))

theorem is_of_key {p q : Product} (h : p.key = q.key) : i.Is p ↔ i.Is q := by
  simp only [Product.key, Prod.mk.injEq] at h
  simp only [Is, h.1, h.2.2]

end CartItem

namespace World

variable (w : World) (i : CartItem)

def stored (id : String) : Option ℤ :=
  (((w.carts i.uid).line i.farmerId id).filter fun p => p.prodId = i.prodId).map (·.qty)

def stockOf : ℤ := totalQtyRead (fun _ => true) w i.farmerId i.prodId

def wanted : Request := w.requested i.uid (i.farmerId, i.prodId)

def lines : List (String × Product) := (w.carts i.uid).linesOf i.farmerId i.prodId

/-- One document holds the quantity `n`, up to the stock; none does if `n` is zero. -/
structure Amounts (n : ℤ) : Prop where
  nonneg : 0 ≤ n
  none_of_zero : n = 0 → ∀ id, w.stored i id = none
  one_of_pos : 0 < n → ∃ id q, w.stored i id = some q ∧ (∀ j, j ≠ id → w.stored i j = none) ∧
    min q (w.stockOf i) = min n (w.stockOf i)

def Capped : Prop := ∀ doc ∈ w.lines i, doc.2.qty ≤ w.stockOf i

instance : Decidable (w.Capped i) := inferInstanceAs (Decidable (∀ _ ∈ _, _))

end World

section Writes

variable (w : World) (i : CartItem) (uid : Uid) (farmerId id j : String)

theorem stored_setCartProduct (p : Product) :
    (setCartProduct uid farmerId id p w).stored i j =
      if uid = i.uid ∧ farmerId = i.farmerId ∧ id = j then
        if p.prodId = i.prodId then some p.qty else none
      else w.stored i j := by
  rw [World.stored, line_setCartProduct]
  split
  · simp only [Option.filter_some, decide_eq_true_eq]
    split
    · rfl
    · rfl
  · rfl

theorem stored_updateQty (n : ℤ) :
    (updateCartProduct uid farmerId id (fun p => { p with qty := n }) w).1.stored i j =
      if uid = i.uid ∧ farmerId = i.farmerId ∧ id = j then (w.stored i j).map fun _ => n
      else w.stored i j := by
  simp only [World.stored]
  rw [line_updateCartProduct]
  split
  · cases (w.carts i.uid).line i.farmerId j with
    | none => rfl
    | some p =>
      simp only [Option.map_some, Option.filter_some]
      split
      · rfl
      · rfl
  · rfl

theorem stored_updateId (docRef : String) :
    (updateCartProduct uid farmerId id (fun p => { p with id := docRef }) w).1.stored i j =
      w.stored i j := by
  simp only [World.stored]
  rw [line_updateCartProduct]
  split
  · cases (w.carts i.uid).line i.farmerId j with
    | none => rfl
    | some p =>
      simp only [Option.map_some, Option.filter_some]
      split
      · rfl
      · rfl
  · rfl

theorem stored_deleteCartProduct :
    (deleteCartProduct uid farmerId id w).1.stored i j =
      if uid = i.uid ∧ farmerId = i.farmerId ∧ id = j then none else w.stored i j := by
  simp only [World.stored]
  rw [line_deleteCartProduct]
  split
  · rfl
  · rfl

theorem stored_storeCartProduct (seen : Access) (p : Product) :
    (storeCartProduct seen uid p w).stored i j =
      (setCartProduct uid p.farmerId p.id p w).stored i j := by
  obtain ⟨v, hframe⟩ := storeCartProduct_frame seen uid p w
  rw [hframe]
  rfl

theorem stored_setDocs (f : Std.TreeSet String → Std.TreeSet String) :
    (w.setCart uid fun c => { c with docs := f c.docs }).stored i j = w.stored i j := by
  simp only [World.stored]
  rw [line_setDocs]

variable {w i uid farmerId id j} {p : Product}

theorem stored_own (hp : i.Is p) :
    (setCartProduct i.uid p.farmerId id p w).stored i j =
      if id = j then some p.qty else w.stored i j := by
  rw [stored_setCartProduct]
  simp only [hp.1, hp.2, true_and, if_true]

theorem stored_other (hp : ¬ i.Concerns uid p)
    (hid : uid = i.uid → p.farmerId = i.farmerId → w.stored i id = none) :
    (setCartProduct uid p.farmerId id p w).stored i j = w.stored i j := by
  rw [stored_setCartProduct]
  split
  case isTrue hpath =>
    obtain ⟨hu, hf, rfl⟩ := hpath
    rw [if_neg fun hprod => hp ⟨hu, hf, hprod⟩, hid hu hf]
  case isFalse => rfl

end Writes

section Lines

variable {w : World} {i : CartItem}

theorem stored_of_mem {doc : String × Product} (h : doc ∈ w.lines i) :
    w.stored i doc.1 = some doc.2.qty := by
  obtain ⟨hline, hprod⟩ := CartStore.mem_linesOf.1 h
  simp only [World.stored, hline, Option.filter_some, hprod, decide_true, if_true, Option.map_some]

theorem mem_of_stored {id : String} {q : ℤ} (h : w.stored i id = some q) :
    ∃ p, (id, p) ∈ w.lines i ∧ p.qty = q := by
  obtain ⟨p, hp, rfl⟩ := Option.map_eq_some_iff.1 h
  obtain ⟨hline, hprod⟩ := Option.filter_eq_some_iff.1 hp
  exact ⟨p, CartStore.mem_linesOf.2 ⟨hline, of_decide_eq_true hprod⟩, rfl⟩

theorem lines_eq_nil : w.lines i = [] ↔ ∀ id, w.stored i id = none := by
  refine ⟨fun h id => ?_, fun h => List.eq_nil_iff_forall_not_mem.2 fun doc hdoc => ?_⟩
  · cases hq : w.stored i id with
    | none => rfl
    | some q =>
      obtain ⟨p, hp, -⟩ := mem_of_stored hq
      rw [h] at hp
      cases hp
  · have := stored_of_mem hdoc
    rw [h] at this
    cases this

theorem capped_iff : w.Capped i ↔ ∀ id q, w.stored i id = some q → q ≤ w.stockOf i := by
  refine ⟨fun h id q hq => ?_, fun h doc hdoc => h _ _ (stored_of_mem hdoc)⟩
  obtain ⟨p, hp, rfl⟩ := mem_of_stored hq
  exact h _ hp

theorem nodup_lines (w : World) (i : CartItem) : ((w.lines i).map (·.1)).Nodup := by
  refine List.Nodup.sublist (List.Sublist.map _ List.filter_sublist) ?_
  exact List.pairwise_map.2 (Std.TreeMap.distinct_keys_toList.imp fun hne heq =>
    hne (Std.LawfulEqCmp.compare_eq_iff_eq.2 heq))

theorem lines_eq_one {id : String} {q : ℤ} (h : w.stored i id = some q)
    (hothers : ∀ j, j ≠ id → w.stored i j = none) :
    (w.lines i).map (fun doc => doc.2.qty) = [q] := by
  obtain ⟨p, hp, rfl⟩ := mem_of_stored h
  have same : ∀ doc ∈ w.lines i, doc = (id, p) := by
    intro doc hdoc
    have hid : doc.1 = id := by
      by_contra hne
      have := stored_of_mem hdoc
      rw [hothers _ hne] at this
      cases this
    have hline := (CartStore.mem_linesOf.1 hdoc).1
    rw [hid, (CartStore.mem_linesOf.1 hp).1] at hline
    exact Prod.ext hid (Option.some.inj hline).symm
  have nodup := nodup_lines w i
  cases hlines : w.lines i with
  | nil =>
    rw [hlines] at hp
    cases hp
  | cons doc rest =>
    rw [hlines] at same nodup
    have hdoc := same doc (List.mem_cons_self ..)
    have hrest : rest = [] := List.eq_nil_iff_forall_not_mem.2 fun doc' hdoc' => by
      have hsame := same doc' (List.mem_cons_of_mem _ hdoc')
      rw [List.map_cons, List.nodup_cons, hdoc] at nodup
      exact nodup.1 (List.mem_map.2 ⟨doc', hdoc', by rw [hsame]⟩)
    rw [hdoc, hrest]
    rfl

end Lines

section Amounts

variable {s t : World} {i : CartItem} {n : ℤ}

theorem World.Amounts.congr (h : s.Amounts i n) (hs : ∀ id, t.stored i id = s.stored i id)
    (hp : t.stockOf i = s.stockOf i) : t.Amounts i n := by
  refine ⟨h.nonneg, fun hn id => (hs id).trans (h.none_of_zero hn id), fun hn => ?_⟩
  obtain ⟨id, q, hq, hothers, hmin⟩ := h.one_of_pos hn
  exact ⟨id, q, (hs id).trans hq, fun j hj => (hs j).trans (hothers j hj), by rwa [hp]⟩

theorem World.Capped.congr (h : s.Capped i) (hs : ∀ id, t.stored i id = s.stored i id)
    (hp : t.stockOf i = s.stockOf i) : t.Capped i := capped_iff.2 fun id q hq => by
  rw [hp]
  exact capped_iff.1 h id q (by rwa [← hs])

theorem World.Amounts.of_stored (h : s.Amounts i n) {id : String} {q : ℤ}
    (hq : s.stored i id = some q) : 0 < n ∧ (∀ j, j ≠ id → s.stored i j = none) ∧
      min q (s.stockOf i) = min n (s.stockOf i) := by
  have hn : 0 < n := by
    by_contra hneg
    rw [h.none_of_zero (le_antisymm (not_lt.1 hneg) h.nonneg)] at hq
    cases hq
  obtain ⟨id', q', hq', hothers, hmin⟩ := h.one_of_pos hn
  obtain rfl : id = id' := by
    by_contra hne
    rw [hothers id hne] at hq
    cases hq
  rw [hq'] at hq
  cases hq
  exact ⟨hn, hothers, hmin⟩

theorem World.Amounts.of_write {q : ℤ} (hn : 0 < n) {id : String}
    (hs : ∀ j, t.stored i j = if id = j then some q else s.stored i j)
    (hothers : ∀ j, j ≠ id → s.stored i j = none)
    (hmin : min q (t.stockOf i) = min n (t.stockOf i)) : t.Amounts i n := by
  refine ⟨hn.le, fun hzero => by omega,
    fun _ => ⟨id, q, by rw [hs, if_pos rfl], fun j hj => ?_, hmin⟩⟩
  rw [hs, if_neg (Ne.symm hj)]
  exact hothers j hj

theorem World.Amounts.lines_eq (h : s.Amounts i n) (hc : s.Capped i) :
    (s.lines i).map (fun doc => doc.2.qty) = if n = 0 then [] else [min n (s.stockOf i)] := by
  split
  case isTrue hn => rw [lines_eq_nil.2 (h.none_of_zero hn), List.map_nil]
  case isFalse hn =>
    obtain ⟨id, q, hq, hothers, hmin⟩ := h.one_of_pos (lt_of_le_of_ne h.nonneg (Ne.symm hn))
    have hle := capped_iff.1 hc id q hq
    rw [lines_eq_one hq hothers, ← hmin, min_eq_left hle]

end Amounts

def MyCartController.Allocated (c : MyCartController) : Prop :=
  ∀ o ∈ c.lists c.myCartList, o < c.allocated

def MyCartController.KeepsObjects (c c' : MyCartController) : Prop :=
  ∀ o, o < c.allocated → o < c'.allocated ∧ (c'.objects o).key = (c.objects o).key

structure World.Later (s t : World) : Prop where
  products : t.products = s.products
  pages : ∀ d, (s.cartPages d).KeepsObjects (t.cartPages d)

theorem World.Later.refl (s : World) : s.Later s := ⟨rfl, fun _ _ ho => ⟨ho, rfl⟩⟩

theorem World.Later.trans {s t u : World} (h : s.Later t) (h' : t.Later u) : s.Later u := by
  refine ⟨h'.products.trans h.products, fun d o ho => ?_⟩
  obtain ⟨ht, hkey⟩ := h.pages d o ho
  obtain ⟨hu, hkey'⟩ := h'.pages d o ht
  exact ⟨hu, hkey'.trans hkey⟩

theorem totalQtyRead_later {s t : World} (h : s.Later t) (farmerId productId : String) :
    totalQtyRead (fun _ => true) t farmerId productId =
      totalQtyRead (fun _ => true) s farmerId productId := by
  simp only [totalQtyRead, World.productAt, farmProduct, h.products]

theorem World.Later.stockOf {s t : World} (h : s.Later t) (i : CartItem) :
    t.stockOf i = s.stockOf i := totalQtyRead_later h i.farmerId i.prodId

/-- The item is as it was, and is on no page of its customer where it was not, under its id. -/
structure CartItem.Unchanged (i : CartItem) (s t : World) : Prop where
  stored : ∀ id, t.stored i id = s.stored i id
  wanted : t.wanted i = s.wanted i
  shown : ∀ d : Device, d.uid = i.uid → ∀ p ∈ (t.cartPages d).shown, i.Is p →
    ∃ q ∈ (s.cartPages d).shown, q.key = p.key

def CartItem.bystander (i : CartItem) : Contract World Access where
  inv w := ∀ d, (w.cartPages d).Allocated
  rel s t := i.Unchanged s t ∧ s.Later t
  shows _ _ := True
  refl s := ⟨⟨fun _ => rfl, rfl, fun _ _ p hp _ => ⟨p, hp, rfl⟩⟩, .refl s⟩
  trans := by
    rintro s t u ⟨h, hl⟩ ⟨h', hl'⟩
    refine ⟨⟨fun id => (h'.stored id).trans (h.stored id), h'.wanted.trans h.wanted,
      fun d hd p hp hi => ?_⟩, hl.trans hl'⟩
    obtain ⟨q, hq, hkey⟩ := h'.shown d hd p hp hi
    obtain ⟨r, hr, hkey'⟩ := h.shown d hd q hq ((i.is_of_key hkey).2 hi)
    exact ⟨r, hr, hkey'.trans hkey⟩

section Bystanders

variable {i : CartItem} {s t : World}

theorem unchanged_beside (hs : i.bystander.inv s) (stored : ∀ id, t.stored i id = s.stored i id)
    (wanted : t.wanted i = s.wanted i) (hpages : t.cartPages = s.cartPages)
    (hproducts : t.products = s.products) : i.bystander.inv t ∧ i.bystander.rel s t := by
  refine ⟨fun d => by rw [hpages]; exact hs d, ⟨stored, wanted, fun d _ p hp _ => ⟨p, ?_, rfl⟩⟩,
    hproducts, fun d => by rw [hpages]; exact fun o ho => ⟨ho, rfl⟩⟩
  rwa [hpages] at hp

theorem setCartProduct_frame (uid : Uid) (farmerId id : String) (p : Product) (w : World) :
    ∃ carts, setCartProduct uid farmerId id p w = { w with carts := carts } := ⟨_, rfl⟩

theorem updateCartProduct_frame (uid : Uid) (farmerId id : String) (f : Product → Product)
    (w : World) :
    ∃ carts, (updateCartProduct uid farmerId id f w).1 = { w with carts := carts } := by
  unfold updateCartProduct
  split
  · exact setCartProduct_frame ..
  · exact ⟨_, rfl⟩

theorem page_later (hs : i.bystander.inv s) {d : Device}
    {f : MyCartController → MyCartController} (allocated : (f (s.cartPages d)).Allocated)
    (objects : (s.cartPages d).KeepsObjects (f (s.cartPages d))) :
    i.bystander.inv (s.setCartPage d f) ∧ s.Later (s.setCartPage d f) := by
  refine ⟨fun d' => ?_, rfl, fun d' => ?_⟩
  · simp only [World.setCartPage, Function.update_apply]
    split
    · exact allocated
    · exact hs d'
  · simp only [World.setCartPage, Function.update_apply]
    split
    case isTrue heq =>
      subst heq
      exact objects
    case isFalse => exact fun o ho => ⟨ho, rfl⟩

theorem unchanged_page (hs : i.bystander.inv s) {d : Device}
    {f : MyCartController → MyCartController} (allocated : (f (s.cartPages d)).Allocated)
    (objects : (s.cartPages d).KeepsObjects (f (s.cartPages d)))
    (shown : d.uid = i.uid → ∀ p ∈ (f (s.cartPages d)).shown, i.Is p →
      ∃ q ∈ (s.cartPages d).shown, q.key = p.key) :
    i.bystander.inv (s.setCartPage d f) ∧ i.bystander.rel s (s.setCartPage d f) := by
  obtain ⟨inv, later⟩ := page_later hs allocated objects
  refine ⟨inv, ⟨fun _ => rfl, rfl, fun d' hd' p hp hi => ?_⟩, later⟩
  simp only [World.setCartPage, Function.update_apply] at hp
  split at hp
  case isTrue heq =>
    subst heq
    exact shown hd' p hp hi
  case isFalse => exact ⟨p, hp, rfl⟩

theorem unchanged_sameKeys (hs : i.bystander.inv s) {d : Device}
    {f : MyCartController → MyCartController} (hf : (s.cartPages d).SameKeys (f (s.cartPages d))) :
    i.bystander.inv (s.setCartPage d f) ∧ i.bystander.rel s (s.setCartPage d f) := by
  refine unchanged_page hs (fun o ho => ?_) (fun o ho => ⟨by rwa [hf.allocated], hf.objects o⟩)
    fun _ p hp hi => ?_
  · rw [hf.lists, hf.myCartList] at ho
    rw [hf.allocated]
    exact hs d o ho
  · obtain ⟨o, ho, rfl⟩ := List.mem_map.1 hp
    rw [hf.lists, hf.myCartList] at ho
    exact ⟨_, List.mem_map.2 ⟨o, ho, rfl⟩, (hf.objects o).symm⟩

theorem unchanged_setList (hs : i.bystander.inv s) (d : Device)
    {f : MyCartController → List ℕ → List ℕ} (hf : ∀ c list, f c list ⊆ list) :
    i.bystander.inv (s.setCartPage d fun c => c.setList (f c)) ∧
      i.bystander.rel s (s.setCartPage d fun c => c.setList (f c)) := by
  have sub : ∀ o ∈ ((s.cartPages d).setList (f (s.cartPages d))).lists
      ((s.cartPages d).setList (f (s.cartPages d))).myCartList,
      o ∈ (s.cartPages d).lists (s.cartPages d).myCartList := by
    intro o ho
    simp only [setList, Function.update_self] at ho
    exact hf _ _ ho
  refine unchanged_page hs (fun o ho => hs d o (sub o ho)) (fun o ho => ⟨ho, rfl⟩)
    fun _ p hp hi => ?_
  obtain ⟨o, ho, rfl⟩ := List.mem_map.1 hp
  exact ⟨_, List.mem_map.2 ⟨o, sub o ho, rfl⟩, rfl⟩

theorem allocated_addObject {c : MyCartController} (hc : c.Allocated) (p : Product) :
    (c.addObject p).Allocated ∧ c.KeepsObjects (c.addObject p) ∧
      ∀ q ∈ (c.addObject p).shown, q = p ∨ q ∈ c.shown := by
  have list : (c.addObject p).lists (c.addObject p).myCartList =
      c.lists c.myCartList ++ [c.allocated] := by
    simp only [addObject, setList, Function.update_self]
  have object : ∀ o, o < c.allocated → (c.addObject p).objects o = c.objects o := fun o ho => by
    simp only [addObject, setList, Function.update_of_ne (Nat.ne_of_lt ho)]
  refine ⟨fun o ho => ?_, fun o ho => ⟨Nat.lt_succ_of_lt ho, by rw [object o ho]⟩, fun q hq => ?_⟩
  · change o < c.allocated + 1
    rw [list, List.mem_append, List.mem_singleton] at ho
    rcases ho with ho | rfl
    · exact Nat.lt_succ_of_lt (hc o ho)
    · exact Nat.lt_succ_self _
  · obtain ⟨o, ho, rfl⟩ := List.mem_map.1 hq
    rw [list, List.mem_append, List.mem_singleton] at ho
    rcases ho with ho | rfl
    · exact .inr (List.mem_map.2 ⟨o, ho, (object o (hc o ho)).symm⟩)
    · exact .inl (by simp only [addObject, Function.update_self])

theorem allocated_replaceList (c : MyCartController) (products : List Product) :
    (c.replaceList products).Allocated ∧ c.KeepsObjects (c.replaceList products) := by
  refine ⟨fun o ho => lt_replaceList c products ho, fun o ho => ⟨?_, ?_⟩⟩
  · change o < c.allocated + products.length + 1
    omega
  · rw [objects_replaceList c products ho]

theorem unchanged_addObject (hs : i.bystander.inv s) {d : Device} {p : Product}
    (hp : ¬ i.Concerns d.uid p) :
    i.bystander.inv (s.setCartPage d fun c => c.addObject p) ∧
      i.bystander.rel s (s.setCartPage d fun c => c.addObject p) := by
  obtain ⟨allocated, objects, shown⟩ := allocated_addObject (hs d) p
  refine unchanged_page hs allocated objects fun hd q hq hi => ?_
  rcases shown q hq with rfl | hq
  · exact absurd ⟨hd, hi⟩ hp
  · exact ⟨q, hq, rfl⟩

theorem unchanged_replaceList (hs : i.bystander.inv s) {d : Device} (hd : d.uid ≠ i.uid)
    (products : List Product) :
    i.bystander.inv (s.setCartPage d fun c => c.replaceList products) ∧
      i.bystander.rel s (s.setCartPage d fun c => c.replaceList products) := by
  obtain ⟨allocated, objects⟩ := allocated_replaceList (s.cartPages d) products
  exact unchanged_page hs allocated objects fun h => absurd h hd

theorem unchanged_updateQty (hs : i.bystander.inv s) {uid : Uid} {farmerId id : String} (n : ℤ)
    (hid : uid = i.uid → farmerId = i.farmerId → s.stored i id = none) :
    i.bystander.inv (updateCartProduct uid farmerId id (fun p => { p with qty := n }) s).1 ∧
      i.bystander.rel s (updateCartProduct uid farmerId id (fun p => { p with qty := n }) s).1 := by
  obtain ⟨carts, hframe⟩ := updateCartProduct_frame uid farmerId id (fun p => { p with qty := n }) s
  refine unchanged_beside hs (fun j => ?_) (by rw [hframe]; rfl) (by rw [hframe]) (by rw [hframe])
  rw [stored_updateQty]
  split
  case isTrue hpath =>
    obtain ⟨hu, hf, rfl⟩ := hpath
    rw [hid hu hf, Option.map_none]
  case isFalse => rfl

theorem unchanged_updateId (hs : i.bystander.inv s) (uid : Uid) (farmerId id docRef : String) :
    i.bystander.inv (updateCartProduct uid farmerId id (fun p => { p with id := docRef }) s).1 ∧
      i.bystander.rel s
        (updateCartProduct uid farmerId id (fun p => { p with id := docRef }) s).1 := by
  obtain ⟨carts, hframe⟩ :=
    updateCartProduct_frame uid farmerId id (fun p => { p with id := docRef }) s
  exact unchanged_beside hs (fun j => stored_updateId ..) (by rw [hframe]; rfl) (by rw [hframe])
    (by rw [hframe])

theorem unchanged_delete (hs : i.bystander.inv s) {uid : Uid} {farmerId id : String}
    (hother : ¬ (uid = i.uid ∧ farmerId = i.farmerId)) :
    i.bystander.inv (deleteCartProduct uid farmerId id s).1 ∧
      i.bystander.rel s (deleteCartProduct uid farmerId id s).1 := by
  refine unchanged_beside hs (fun j => ?_) rfl rfl rfl
  rw [stored_deleteCartProduct, if_neg fun h => hother ⟨h.1, h.2.1⟩]

theorem unchanged_setDocs (hs : i.bystander.inv s) (uid : Uid)
    (f : Std.TreeSet String → Std.TreeSet String) :
    i.bystander.inv (s.setCart uid fun c => { c with docs := f c.docs }) ∧
      i.bystander.rel s (s.setCart uid fun c => { c with docs := f c.docs }) :=
  unchanged_beside hs (fun _ => stored_setDocs ..) rfl rfl rfl

theorem wanted_setRequest (w : World) (uid : Uid) (p : Product) (f : Request → Request) :
    (w.setRequest uid p f).wanted i = if i.Concerns uid p then f (w.wanted i) else w.wanted i := by
  simp only [World.wanted, World.setRequest]
  split
  case isTrue h =>
    obtain ⟨rfl, hf, hk⟩ := h
    rw [Function.update_self, hf, hk, Function.update_self]
  case isFalse h =>
    by_cases hu : uid = i.uid
    · subst hu
      rw [Function.update_self, Function.update_of_ne]
      exact fun heq => h ⟨rfl, (Prod.mk.inj heq).1.symm, (Prod.mk.inj heq).2.symm⟩
    · rw [Function.update_of_ne (Ne.symm hu)]

theorem wanted_request (w : World) {uid : Uid} {p : Product} (hp : i.Concerns uid p) (x : ℤ → ℤ) :
    (w.request uid p x).wanted i = ⟨x (w.wanted i).qty, true⟩ :=
  (wanted_setRequest w uid p _).trans (if_pos hp)

theorem wanted_requestOver (w : World) {p : Product} (hp : i.Is p) :
    (w.requestOver i.uid p).wanted i = { w.wanted i with pending := false } :=
  (wanted_setRequest w i.uid p _).trans (if_pos ⟨rfl, hp⟩)

theorem unchanged_setRequest (hs : i.bystander.inv s) {uid : Uid} {p : Product}
    (hp : ¬ i.Concerns uid p) (f : Request → Request) :
    i.bystander.inv (s.setRequest uid p f) ∧ i.bystander.rel s (s.setRequest uid p f) :=
  unchanged_beside hs (fun _ => rfl) ((wanted_setRequest s uid p f).trans (if_neg hp)) rfl rfl

end Bystanders

end Gherass
