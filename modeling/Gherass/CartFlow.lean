import Gherass.CartLines
import Gherass.OrderContent

set_option autoImplicit false

/-!
# Products on their way through a cart

What every product of a cart is known to meet, from the button that adds it to the stored
line, back to the list on show, and into an order.
-/
namespace Gherass

open EventLoop EventLoop.Async FirebaseHelper MyCartController

/-- Every stored line of a cart and every product on a list of a cart page meets `T`. -/
structure World.CartsHold (T : Product → Prop) (w : World) : Prop where
  stored : ∀ (uid : Uid) (farmerId id : String) (p : Product),
    (w.carts uid).line farmerId id = some p → T p
  listed : ∀ (d : Device) (list i : ℕ), i ∈ (w.cartPages d).lists list →
    T ((w.cartPages d).objects i)

/-- The contract of `K`, and that products keep meeting `T` wherever they are. -/
def cartsHold (T : Product → Prop) (K : Contract World Access) : Contract World Access where
  inv w := w.CartsHold T ∧ K.inv w
  rel s t := (∀ d i, T ((s.cartPages d).objects i) → T ((t.cartPages d).objects i)) ∧ K.rel s t
  shows := K.shows
  refl s := ⟨fun _ _ h => h, K.refl s⟩
  trans h h' := ⟨fun d i ht => h'.1 d i (h.1 d i ht), K.trans h.2 h'.2⟩

/-- What the programs of the cart do to a product keeps `T`, and what they write keeps `K`. -/
structure CartFlow (T : Product → Prop) (K : Contract World Access)
    (g : Guard World Access Event) : Prop where
  rename : ∀ p id, T p → T { p with id := id }
  sum : ∀ p q r, T p → T q → T r → T { p with qty := q.qty + r.qty }
  edit : ∀ p qty, T p → 0 < qty → T { p with qty := qty }
  clamp : ∀ d p totalQty s, g.access (.validate d p totalQty) s → T p → totalQty < p.qty →
    T { p with qty := totalQty }
  added : ∀ d p s, g.start (.addToCart d p) s → T p
  shows : ∀ l s, K.inv s → l.target = none → l.isPost = false → K.shows l s
  pages : ∀ v, K.Keeps fun w => { w with cartPages := v }
  requests : ∀ v, K.Keeps fun w => { w with requested := v }
  docs : ∀ uid (f : Std.TreeSet String → Std.TreeSet String),
    K.Keeps fun w => w.setCart uid fun c => { c with docs := f c.docs }
  addLine : ∀ ids uid farmerId p, K.Keeps fun w => (addCartProduct ids uid farmerId p w).1
  named : ∀ uid farmerId id docRef,
    K.Keeps fun w => (updateCartProduct uid farmerId id (fun p => { p with id := docRef }) w).1
  addQty : ∀ uid p id existingQty s, K.inv s → g.access (.addQty uid p id existingQty) s →
    K.inv (updateCartProduct uid p.farmerId id (fun q => { q with qty := existingQty + p.qty }) s).1 ∧
      K.rel s
        (updateCartProduct uid p.farmerId id (fun q => { q with qty := existingQty + p.qty }) s).1
  storeLine : ∀ uid p previousQty s, K.inv s → g.access (.storeLine uid p previousQty) s →
    K.inv (setCartProduct uid p.farmerId p.id p s) ∧
      K.rel s (setCartProduct uid p.farmerId p.id p s)
  writeBack : ∀ uid p totalQty s, K.inv s → p.qty ≤ totalQty →
    K.inv (storeCartProduct (.writeBack uid p totalQty) uid p s) ∧
      K.rel s (storeCartProduct (.writeBack uid p totalQty) uid p s)
  delete : ∀ uid farmerId id, K.Keeps fun w => (deleteCartProduct uid farmerId id w).1

theorem splitProducts_subset (response : List Product) :
    ∀ p ∈ (splitProducts response).1, p ∈ response := by
  have fold : ∀ (response : List Product) (acc : List Product × List Product),
      ∀ p ∈ (response.foldl (fun acc p =>
        if acc.1.any fun q => q.prodId = p.prodId then (acc.1, acc.2 ++ [p])
        else (acc.1 ++ [p], acc.2)) acc).1, p ∈ acc.1 ∨ p ∈ response := by
    intro response
    induction response with
    | nil => exact fun _ _ hp => .inl hp
    | cons q rest ih =>
      intro acc p hp
      rw [List.foldl_cons] at hp
      rcases ih _ p hp with hacc | hrest
      · split at hacc
        · exact .inl hacc
        · rcases List.mem_append.1 hacc with hacc | hq
          · exact .inl hacc
          · exact .inr (List.mem_singleton.1 hq ▸ List.mem_cons_self ..)
      · exact .inr (List.mem_cons_of_mem _ hrest)
  intro p hp
  exact (fold response ([], []) p hp).resolve_left fun hnil => by cases hnil

namespace CartFlow

variable {T : Product → Prop} {K : Contract World Access} {g : Guard World Access Event}

theorem of_keepsCarts (h : KeepsCarts K) (rename : ∀ p id, T p → T { p with id := id })
    (requantify : ∀ p qty, T p → T { p with qty := qty })
    (added : ∀ d p s, g.start (.addToCart d p) s → T p) : CartFlow T K g where
  rename := rename
  sum p _ _ hp _ _ := requantify p _ hp
  edit p qty hp _ := requantify p qty hp
  clamp _ p totalQty _ _ hp _ := requantify p totalQty hp
  added := added
  shows := h.shows
  pages := h.pages
  requests := h.requests
  docs _ _ s hs := h.carts _ s hs
  addLine ids uid farmerId p s hs := by
    obtain ⟨hi, hr⟩ := h.carts _ s hs
    obtain ⟨hi', hr'⟩ := h.autoIds _ hi
    exact ⟨hi', K.trans hr hr'⟩
  named uid farmerId id docRef := quiet_updateCartProduct h uid farmerId id _
  addQty uid p id _ s hs _ := quiet_updateCartProduct h uid p.farmerId id _ s hs
  storeLine _ _ _ s hs _ := h.carts _ s hs
  writeBack uid p _ s hs _ := keeps_storeCartProduct h _ uid p s hs
  delete _ _ _ := keeps_recordValidation h _ _ _ _ _ _

section Effects

variable {s : World} {d : Device}

theorem page (h : CartFlow T K g) (hs : (cartsHold T K).inv s)
    {f : MyCartController → MyCartController}
    (objects : ∀ i, T ((s.cartPages d).objects i) → T ((f (s.cartPages d)).objects i))
    (lists : ∀ list i, i ∈ (f (s.cartPages d)).lists list →
      (∃ list, i ∈ (s.cartPages d).lists list) ∨ T ((f (s.cartPages d)).objects i)) :
    (cartsHold T K).inv (s.setCartPage d f) ∧ (cartsHold T K).rel s (s.setCartPage d f) := by
  obtain ⟨hold, hk⟩ := hs
  obtain ⟨hk', hr⟩ := h.pages (Function.update s.cartPages d (f (s.cartPages d))) s hk
  refine ⟨⟨⟨hold.stored, fun d' list i hi => ?_⟩, hk'⟩, fun d' i hi => ?_, hr⟩
  · by_cases hd : d' = d
    · subst hd
      rw [World.setCartPage_self] at hi ⊢
      rcases lists list i hi with ⟨list', hi'⟩ | ht
      · exact objects i (hold.listed d' list' i hi')
      · exact ht
    · simp only [World.setCartPage, Function.update_of_ne hd] at hi ⊢
      exact hold.listed d' list i hi
  · by_cases hd : d' = d
    · subst hd
      rw [World.setCartPage_self]
      exact objects i hi
    · simp only [World.setCartPage, Function.update_of_ne hd]
      exact hi

theorem holds_line (hold : s.CartsHold T) (uid : Uid) (farmerId id : String) {p : Product}
    (hp : T p) : (setCartProduct uid farmerId id p s).CartsHold T := by
  refine ⟨fun uid' f i q hq => ?_, hold.listed⟩
  rw [line_setCartProduct] at hq
  split at hq
  · cases hq
    exact hp
  · exact hold.stored uid' f i q hq

theorem holds_update (hold : s.CartsHold T) (uid : Uid) (farmerId id : String)
    {f : Product → Product} (hf : ∀ p, T p → T (f p)) :
    (updateCartProduct uid farmerId id f s).1.CartsHold T := by
  unfold updateCartProduct
  cases hp : ((s.carts uid).products farmerId)[id]? with
  | none => exact hold
  | some p => exact holds_line hold uid farmerId id (hf p (hold.stored uid farmerId id p hp))

theorem update_keeps (hs : (cartsHold T K).inv s) {uid : Uid} {farmerId id : String}
    {f : Product → Product} (hf : ∀ p, T p → T (f p))
    (hk : K.inv (updateCartProduct uid farmerId id f s).1 ∧
      K.rel s (updateCartProduct uid farmerId id f s).1) :
    (cartsHold T K).inv (updateCartProduct uid farmerId id f s).1 ∧
      (cartsHold T K).rel s (updateCartProduct uid farmerId id f s).1 := by
  have pages : (updateCartProduct uid farmerId id f s).1.cartPages = s.cartPages := by
    unfold updateCartProduct
    split
    · rfl
    · rfl
  exact ⟨⟨holds_update hs.1 uid farmerId id hf, hk.1⟩,
    fun d i ht => by rw [pages]; exact ht, hk.2⟩

theorem holds_delete (hold : s.CartsHold T) (uid : Uid) (farmerId id : String) :
    (deleteCartProduct uid farmerId id s).1.CartsHold T := by
  refine ⟨fun uid' f i q hq => ?_, hold.listed⟩
  rw [line_deleteCartProduct] at hq
  split at hq
  · cases hq
  · exact hold.stored uid' f i q hq

end Effects

section Programs

variable (h : CartFlow T K g) (ids : IdSupply) (d : Device)
include h

theorem plain (s : World) (hs : (cartsHold T K).inv s) : (cartsHold T K).shows .plain s :=
  h.shows .plain s hs.2 rfl rfl

theorem quiet_besideLists {f : MyCartController → MyCartController}
    (hf : ∀ c, (f c).objects = c.objects ∧ (f c).lists = c.lists) :
    Quiet (cartsHold T K) (setPage d f) := .change fun s hs =>
  h.page hs (fun i hi => by rw [(hf _).1]; exact hi)
    fun list i hi => .inl ⟨list, by rw [(hf _).2] at hi; exact hi⟩

theorem quiet_setList {f : List ℕ → List ℕ} (hf : ∀ list, f list ⊆ list) :
    Quiet (cartsHold T K) (setPage d fun c => c.setList f) := .change fun s hs => by
  refine h.page hs (fun i hi => hi) fun list i hi => .inl ?_
  simp only [setList, Function.update_apply] at hi
  split at hi
  · exact ⟨_, hf _ hi⟩
  · exact ⟨list, hi⟩

theorem quiet_clearList : Quiet (cartsHold T K) (setPage d fun c => c.setList fun _ => []) :=
  h.quiet_setList d fun _ _ hi => by cases hi

theorem quiet_removeWhere (id : String) :
    Quiet (cartsHold T K) (setPage d fun c => c.removeWhere id) := .change fun s hs => by
  refine h.page hs (fun i hi => hi) fun list i hi => .inl ?_
  simp only [removeWhere, setList, Function.update_apply] at hi
  split at hi
  · exact ⟨_, (List.mem_filter.1 hi).1⟩
  · exact ⟨list, hi⟩

theorem quiet_docs (uid : Uid) (f : Std.TreeSet String → Std.TreeSet String) :
    (cartsHold T K).Keeps fun w => w.setCart uid fun c => { c with docs := f c.docs } := by
  intro s hs
  obtain ⟨hi, hr⟩ := h.docs uid f s hs.2
  refine ⟨⟨⟨fun uid' farmerId id p hp => ?_, hs.1.listed⟩, hi⟩, fun _ _ ht => ht, hr⟩
  rw [line_setDocs] at hp
  exact hs.1.stored uid' farmerId id p hp

theorem quiet_helper_removeFromCart (uid : Uid) (farmerId productId : String) :
    Quiet (cartsHold T K) (FirebaseHelper.removeFromCart uid farmerId productId) :=
  .tryCatch (.bind (quiet_checkPath _) fun _ => .bind (quiet_checkPath _) fun _ =>
    .call (fun s hs => by
      obtain ⟨hi, hr⟩ := h.delete uid farmerId productId s hs.2
      exact ⟨⟨holds_delete hs.1 uid farmerId productId, hi⟩, fun _ _ ht => ht, hr⟩)
    fun s hs => h.shows _ s hs.2 rfl rfl) fun _ => .pure _

theorem quiet_removeEach (products : List Product) :
    Quiet (cartsHold T K) (removeEach d products) := by
  induction products with
  | nil => exact .pure _
  | cons p rest ih => exact .bind (h.quiet_helper_removeFromCart _ _ _) fun _ => ih

theorem quiet_removeFromCart (product : Product) :
    Quiet (cartsHold T K) (removeFromCart d product) := by
  refine .tryCatch (.bind (.note fun s hs => h.shows _ s hs.2 rfl rfl) fun _ =>
    .bind (.look _) fun c => ?_) fun _ => .pure _
  split
  · exact .bind (h.quiet_removeWhere d _) fun _ => .bind (h.quiet_helper_removeFromCart _ _ _)
      fun _ => .bind (h.quiet_helper_removeFromCart _ _ _) fun _ => h.quiet_removeWhere d _
  · exact .throw _

theorem quiet_getCustomerDeliveryAddress :
    Quiet (cartsHold T K) (getCustomerDeliveryAddress d) :=
  quiet_getCustomerDeliveryAddress_of h.plain fun _ hf =>
    h.quiet_besideLists d fun c => ⟨(hf c).1, (hf c).2.1⟩

theorem quiet_emptyCart : Quiet (cartsHold T K) (emptyCart d) := by
  refine .bind (.tryCatch (.bind (quiet_get h.plain _) fun docs =>
    .call (h.quiet_docs d.uid fun kept => docs.foldl (·.erase ·) kept) h.plain) fun _ => .pure _) fun _ =>
      .bind (h.quiet_besideLists d fun _ => ⟨rfl, rfl⟩) fun _ =>
        .bind (.tryCatch (.call (cartsHold T K).keeps_id h.plain) fun _ => .pure _) fun _ =>
          h.quiet_clearList d

theorem spec_fetchCustomerCartProducts (uid : Uid) (farmerId : String) :
    Spec (cartsHold T K) g (fun _ => True) (fetchCustomerCartProducts uid farmerId)
      (fun r _ => ∀ p ∈ r, T p) fun _ _ => True := by
  have read : ∀ f : String, Spec (cartsHold T K) g (fun _ => True)
      (get fun w => ((w.carts uid).products f).toList.map (·.2)) (fun r _ => ∀ p ∈ r, T p)
      fun _ _ => True := fun f =>
    .call (fun _ t _ _ ht _ _ => by
      refine ⟨h.plain t ht, ht, (cartsHold T K).refl t, fun u _ _ p hp => ?_⟩
      obtain ⟨doc, hdoc, rfl⟩ := List.mem_map.1 hp
      exact ht.1.stored uid f doc.1 doc.2 (Std.TreeMap.mem_toList_iff_getElem?_eq_some.1 hdoc))
      fun _ _ _ _ _ _ _ _ _ _ => trivial
  refine .tryCatch (F := fun _ _ => True) (.bind (R := fun _ _ => True)
    (quiet_fetchInitialCart h.plain uid).spec fun first => ?_) fun _ => .pure fun _ _ p hp => by cases hp
  cases first with
  | some f => exact read f
  | none =>
    exact .call (fun _ t _ _ ht _ _ => ⟨h.plain t ht, ht, (cartsHold T K).refl t,
      fun _ _ _ p hp => by cases hp⟩) fun _ _ _ _ _ _ _ _ _ _ => trivial

theorem spec_helper_updateProductInCart {seen : Access} (hseen : seen.target = none)
    (hpost : seen.isPost = false) (uid : Uid) (p : Product) {P : World → Prop}
    (hp : ∀ s, P s → T p) (keeps : ∀ s t, P s → K.inv t → g.access seen t →
      K.inv (storeCartProduct seen uid p t) ∧ K.rel t (storeCartProduct seen uid p t)) :
    Spec (cartsHold T K) g P (FirebaseHelper.updateProductInCart seen uid [p]) (fun _ _ => True)
      fun _ _ => True := by
  refine .tryCatch (F := fun _ _ => True) ?_ fun _ => .pure fun _ _ => trivial
  split
  · exact .throw fun _ _ => trivial
  refine .call (fun s t _ hs ht _ hl => ⟨h.shows _ t ht.2 hseen hpost, ?_⟩)
    fun _ _ _ _ _ _ _ _ _ _ => trivial
  by_cases hf : p.farmerId = ""
  · have none : batchLines [p] = [] := by simp [batchLines, hf]
    rw [none]
    exact ⟨ht, (cartsHold T K).refl t, fun _ _ _ => trivial⟩
  · have one : batchLines [p] = [p] := by simp [batchLines, hf]
    obtain ⟨hi, hr⟩ := keeps s t hs ht.2 hl
    have stored : (storeCartProduct seen uid p t).CartsHold T ∧
        (storeCartProduct seen uid p t).cartPages = t.cartPages := by
      have line := holds_line ht.1 uid p.farmerId p.id (hp s hs)
      unfold storeCartProduct
      split
      · split
        · exact ⟨⟨line.stored, line.listed⟩, rfl⟩
        · exact ⟨line, rfl⟩
      · exact ⟨line, rfl⟩
    rw [one]
    refine ⟨⟨stored.1, hi⟩, ⟨fun d i ht' => ?_, hr⟩, fun _ _ _ => trivial⟩
    change T (((storeCartProduct seen uid p t).cartPages d).objects i)
    rw [stored.2]
    exact ht'

def Known (T : Product → Prop) (d : Device) (object : ℕ) (s : World) : Prop :=
  T ((s.cartPages d).objects object)

omit h in
theorem known_later {object : ℕ} (s t : World) (hr : (cartsHold T K).rel s t)
    (ht : Known T d object s) : Known T d object t := hr.1 d object ht

theorem spec_validateQuantity (object : ℕ) :
    Spec (cartsHold T K) g (Known T d object) (validateQuantity d object) (fun _ _ => True)
      fun _ _ => True := by
  refine .bind (R := fun _ => Known T d object) (.look fun _ _ hk => hk) fun seen => ?_
  have read : Quiet (cartsHold T K) (fetchTotalQty (seen.objects object)) :=
    quiet_getProductTotalQty h.plain _ _
  refine .bind ((read.spec.keeping (fun _ hk => hk) (known_later d)).weaken (fun _ hk => hk)
    (fun _ _ hk => hk.2) fun _ _ _ => trivial) fun totalQty => ?_
  refine .bind (R := fun page s => page = s.cartPages d ∧ Known T d object s)
    (.look fun _ _ hk => ⟨rfl, hk⟩) fun page => ?_
  refine .bind (R := fun _ s => Known T d object s ∧
      (totalQty < ((s.cartPages d).objects object).qty →
        T { (s.cartPages d).objects object with qty := totalQty }))
    (.note fun s hs ⟨hpage, hk⟩ hl => ?_) fun _ => ?_
  · subst hpage
    exact ⟨h.shows _ s hs.2 rfl rfl, hk, h.clamp d _ totalQty s hl hk⟩
  refine .bind (R := fun _ s => Known T d object s ∧
      ((s.cartPages d).objects object).qty ≤ totalQty)
    (.change fun s hs ⟨hk, hclamp⟩ => ?_) fun _ => ?_
  · by_cases hover : ((s.cartPages d).objects object).qty > totalQty
    · obtain ⟨hi, hr⟩ := h.page hs (d := d) (f := fun c =>
        if (c.objects object).qty > totalQty then c.setQty object totalQty else c)
        (fun i hi => by
          simp only [hover, if_true, setQty, Function.update_apply]
          split
          · exact hclamp hover
          · exact hi)
        fun list i hi => .inl ⟨list, by simpa only [hover, if_true, setQty] using hi⟩
      refine ⟨hi, hr, known_later d _ _ hr hk, ?_⟩
      simp only [World.setCartPage_self, hover, if_true, setQty, Function.update_self, le_refl]
    · obtain ⟨hi, hr⟩ := h.page hs (d := d) (f := fun c =>
        if (c.objects object).qty > totalQty then c.setQty object totalQty else c)
        (fun i hi => by simpa only [hover, if_false] using hi)
        fun list i hi => .inl ⟨list, by simpa only [hover, if_false] using hi⟩
      refine ⟨hi, hr, known_later d _ _ hr hk, ?_⟩
      simp only [World.setCartPage_self, hover, if_false]
      exact Int.not_lt.1 hover
  · refine .bind (R := fun (page : MyCartController) (_ : World) => T (page.objects object) ∧
      (page.objects object).qty ≤ totalQty) (.look fun _ _ hk => hk) fun page => ?_
    exact h.spec_helper_updateProductInCart rfl rfl d.uid _ (fun _ hk => hk.1)
      fun _ t hk ht _ => h.writeBack d.uid _ totalQty t ht hk.2

theorem spec_validateEach (objects : List ℕ) :
    Spec (cartsHold T K) g (fun s => ∀ i ∈ objects, Known T d i s) (validateEach d objects)
      (fun _ _ => True) fun _ _ => True := by
  induction objects with
  | nil => exact .pure fun _ _ => trivial
  | cons object rest ih =>
    refine .bind (R := fun _ s => ∀ i ∈ rest, Known T d i s) (.spawn
      (fun s hs hk => (h.spec_validateQuantity d object).safe hs (hk object (List.mem_cons_self ..)))
      fun s t hk _ hr i hi => known_later d s t hr (hk i (List.mem_cons_of_mem _ hi))) fun _ => ih

theorem replaceList_keeps {s : World} {products : List Product} (hs : (cartsHold T K).inv s)
    (hp : ∀ p ∈ products, T p) :
    (cartsHold T K).inv (s.setCartPage d fun c => c.replaceList products) ∧
      (cartsHold T K).rel s (s.setCartPage d fun c => c.replaceList products) := by
  have objects : ∀ (c : MyCartController) i, T (c.objects i) →
      T ((c.replaceList products).objects i) := by
    intro c i hi
    simp only [replaceList]
    split
    · rw [List.getD_eq_getElem?_getD]
      cases hget : products[i - c.allocated]? with
      | none => exact hi
      | some p => exact hp p (List.mem_of_getElem? hget)
    · exact hi
  refine h.page hs (objects _) fun list i hi => ?_
  simp only [replaceList, Function.update_apply] at hi
  split at hi
  · obtain ⟨k, hk, rfl⟩ := List.mem_map.1 hi
    have hk := List.mem_range.1 hk
    refine .inr ?_
    simp only [replaceList, Nat.le_add_right, if_true, Nat.add_sub_cancel_left,
      List.getD_eq_getElem?_getD, List.getElem?_eq_getElem hk, Option.getD_some]
    exact hp _ (List.getElem_mem hk)
  · exact .inl ⟨list, hi⟩

theorem spec_getCartProducts (farmerId : String) :
    Spec (cartsHold T K) g (fun _ => True) (getCartProducts d farmerId) (fun _ _ => True)
      fun _ _ => True := by
  refine .bind (R := fun _ _ => True) (h.quiet_clearList d).spec fun _ =>
    .tryCatch (F := fun _ _ => True) (.bind (h.spec_fetchCustomerCartProducts d.uid farmerId)
      fun response => ?_) fun _ => .pure fun _ _ => trivial
  refine .bind (R := fun _ _ => ∀ p ∈ response, T p) (.note fun s hs hk _ =>
    ⟨h.shows _ s hs.2 rfl rfl, hk⟩) fun _ => ?_
  refine .bind (R := fun _ s => ∀ i ∈ (s.cartPages d).lists (s.cartPages d).myCartList,
    Known T d i s) (.change fun s hs hk => ?_) fun _ => ?_
  · obtain ⟨hi, hr⟩ := h.replaceList_keeps d hs fun p hp => hk p (splitProducts_subset response p hp)
    exact ⟨hi, hr, fun i => hi.1.listed d _ i⟩
  refine .bind (R := fun page s => ∀ i ∈ page.lists page.myCartList, Known T d i s)
    (.look fun _ _ hk => hk) fun page => .bind (h.spec_validateEach d _) fun _ =>
      Quiet.spec (.bind (h.quiet_removeEach d _) fun _ =>
        .bind (h.quiet_besideLists (f := fun c => { c with selectedDate := "", selectedTime := "" })
          d fun _ => ⟨rfl, rfl⟩) fun _ => .spawn (h.quiet_getCustomerDeliveryAddress d))

theorem spec_updateProductInCart (object : ℕ) (previousQty : ℤ) :
    Spec (cartsHold T K) g (Known T d object) (updateProductInCart d object previousQty)
      (fun _ _ => True) fun _ _ => True := by
  refine .tryCatch (F := fun _ _ => True) (.bind (R := fun _ => Known T d object)
    (.look fun _ _ hk => hk) fun page => .bind (R := fun _ => Known T d object)
      (.spawn (fun s hs _ => (h.spec_getCartProducts d _).safe hs trivial)
        fun s t hk _ hr => known_later d s t hr hk) fun _ => ?_) fun _ => .pure fun _ _ => trivial
  refine .bind (R := fun (page : MyCartController) (_ : World) => T (page.objects object))
    (.look fun _ _ hk => hk) fun page => ?_
  exact h.spec_helper_updateProductInCart rfl rfl d.uid _ (fun _ hk => hk)
    fun _ t _ ht hl => h.storeLine d.uid _ previousQty t ht hl

theorem spec_addProductToCart (uid : Uid) (p : Product) (hp : T p) :
    Spec (cartsHold T K) g (fun _ => True) (addProductToCart ids uid p) (fun _ _ => True)
      fun _ _ => True := by
  unfold addProductToCart
  split
  · exact .pure fun _ _ => trivial
  refine .bind (R := fun _ _ => True) (Quiet.spec (.call (h.quiet_docs uid fun docs =>
    docs.insert p.farmerId) h.plain)) fun _ => ?_
  refine .bind (R := fun existing _ => ∀ doc ∈ existing, T doc.2) (.call
    (fun _ t _ _ ht _ _ => ⟨h.plain t ht, ht, (cartsHold T K).refl t, fun _ _ _ doc hdoc => ?_⟩)
    fun _ _ _ _ _ _ _ _ _ _ => trivial) fun existing => ?_
  · exact ht.1.stored uid p.farmerId doc.1 doc.2
      (Std.TreeMap.mem_toList_iff_getElem?_eq_some.1 (List.mem_filter.1 hdoc).1)
  cases existing with
  | nil =>
    have named : ∀ docRef, Quiet (cartsHold T K) (call .plain (updateCartProduct uid p.farmerId
        docRef fun p => { p with id := docRef }) .firestore : Program Unit) := fun docRef =>
      .call (fun s hs => update_keeps hs (fun q => h.rename q docRef)
        (h.named uid p.farmerId docRef docRef s hs.2)) h.plain
    refine Quiet.spec (C := cartsHold T K) (.bind (.call (fun s hs => ?_)
      fun s hs => h.shows _ s hs.2 rfl rfl) named)
    obtain ⟨hi, hr⟩ := h.addLine ids uid p.farmerId p s hs.2
    have line := holds_line hs.1 uid p.farmerId
      (ids.newId s.autoIds ((s.carts uid).products p.farmerId).keys) hp
    exact ⟨⟨⟨line.stored, line.listed⟩, hi⟩, fun _ _ ht => ht, hr⟩
  | cons doc rest =>
    refine .call (fun s t _ hdocs ht _ hl => ?_) fun _ _ _ _ _ _ _ _ _ _ => trivial
    obtain ⟨hi, hr⟩ := update_keeps ht (fun q hq =>
      h.sum q doc.2 p hq (hdocs doc (List.mem_cons_self ..)) hp)
      (h.addQty uid p doc.1 doc.2.qty t ht.2 hl)
    refine ⟨h.shows _ t ht.2 rfl rfl, hi, hr, fun u _ _ => ?_⟩
    split
    · trivial
    · trivial

theorem spec_setQty {object : ℕ} (qty : MyCartController → ℤ) {P : World → Prop}
    (hP : ∀ s, P s → Known T d object s ∧
      T { (s.cartPages d).objects object with qty := qty (s.cartPages d) }) :
    Spec (cartsHold T K) g P (setPage d fun c => c.setQty object (qty c))
      (fun _ => Known T d object) fun _ _ => True := .change fun s hs hp => by
  obtain ⟨hk, hqty⟩ := hP s hp
  obtain ⟨hi, hr⟩ := h.page hs (d := d) (f := fun c => c.setQty object (qty c))
    (fun i ht => by
      simp only [setQty, Function.update_apply]
      split
      · exact hqty
      · exact ht)
    fun list i hi => .inl ⟨list, hi⟩
  exact ⟨hi, hr, known_later d _ _ hr hk⟩

theorem spec_addToCart (p : Product) (hp : T p) :
    Spec (cartsHold T K) g (fun _ => True) (addToCart ids d p) (fun _ _ => True)
      fun _ _ => True := by
  have reload : Spec (cartsHold T K) g (fun _ => True) (spawn (getCartProducts d p.farmerId))
      (fun _ _ => True) fun _ _ => True :=
    .spawn (fun s hs _ => (h.spec_getCartProducts d _).safe hs trivial) fun _ _ _ _ _ => trivial
  refine .tryCatch (F := fun _ _ => True) (.bind (R := fun c s => ∀ i ∈ c.lists c.myCartList,
    Known T d i s) (.look fun s hs _ => hs.1.listed d _) fun c => ?_)
      fun _ => .pure fun _ _ => trivial
  dsimp only
  split
  · refine .bind (R := fun _ _ => True) (.change fun s hs _ => ?_) fun _ =>
      .bind (R := fun _ _ => True) (.tryCatch (F := fun _ _ => True)
        (.bind (h.spec_addProductToCart ids d.uid p hp) fun _ => .pure fun _ h => h)
          fun _ => .pure fun _ h => h) fun _ => reload
    obtain ⟨hi, hr⟩ := h.page hs (d := d) (f := fun c => c.addObject p)
      (fun i hi => by
        simp only [addObject, setList, Function.update_apply]
        split
        · exact hp
        · exact hi)
      fun list i hi => by
        simp only [addObject, setList, Function.update_apply] at hi ⊢
        split at hi
        · rcases List.mem_append.1 hi with hi | hi
          · exact .inl ⟨_, hi⟩
          · exact .inr (by rw [if_pos (List.mem_singleton.1 hi)]; exact hp)
        · exact .inl ⟨list, hi⟩
    exact ⟨hi, hr, trivial⟩
  · rename_i object hfound
    have hmem : object ∈ c.lists c.myCartList := by
      obtain ⟨hfind, -⟩ := Option.filter_eq_some_iff.1 hfound
      exact List.mem_of_find?_eq_some hfind
    refine .bind (h.spec_setQty d (fun c => (c.objects object).qty + p.qty) fun s hk => ?_)
      fun _ => .bind (h.spec_updateProductInCart d object _) fun _ => reload
    have known := hk object hmem
    exact ⟨known, h.sum _ _ p known known hp⟩

theorem spec_updateQuantity (p : Product) (quantity : ℤ) :
    Spec (cartsHold T K) g (fun _ => True) (updateQuantity d p quantity) (fun _ _ => True)
      fun _ _ => True := by
  have reload : ∀ farmerId, Spec (cartsHold T K) g (fun _ => True)
      (spawn (getCartProducts d farmerId)) (fun _ _ => True) fun _ _ => True := fun _ =>
    .spawn (fun s hs _ => (h.spec_getCartProducts d _).safe hs trivial) fun _ _ _ _ _ => trivial
  refine .tryCatch (F := fun _ _ => True) (.bind (R := fun c s => ∀ i ∈ c.lists c.myCartList,
    Known T d i s) (.look fun s hs _ => hs.1.listed d _) fun c => ?_)
      fun _ => .pure fun _ _ => trivial
  split
  case h_2 => exact .throw fun _ _ => trivial
  rename_i item hfound
  have read : Quiet (cartsHold T K) (fetchTotalQty p) := quiet_getProductTotalQty h.plain _ _
  refine .bind ((read.spec.keeping (K := Known T d item) (fun s hk =>
    hk item (List.mem_of_find?_eq_some hfound)) (known_later d)).weaken (fun _ hk => hk)
      (fun _ _ hk => hk.2) fun _ _ _ => trivial) fun totalQty => ?_
  refine .bind (R := fun _ => Known T d item) (.note fun s hs hk _ =>
    ⟨h.shows _ s hs.2 rfl rfl, hk⟩) fun _ => ?_
  split
  · exact .pure fun _ _ => trivial
  split
  · rename_i hpos
    refine .bind (R := fun _ => Known T d item) (.look fun _ _ hk => hk) fun page =>
      .bind (h.spec_setQty d (fun _ => quantity) fun s hk => ⟨hk, h.edit _ quantity hk hpos⟩) fun _ =>
        .bind (h.spec_updateProductInCart d item _) fun _ =>
          .bind (R := fun _ _ => True) (.look fun _ _ _ => trivial) fun _ => reload _
  · exact .bind (R := fun _ _ => True) (.look fun _ _ _ => trivial) fun page =>
      .bind (R := fun _ _ => True) (.spawn (fun s hs _ => (h.quiet_removeFromCart d _).safe hs)
        fun _ _ _ _ _ => trivial) fun _ =>
          .bind (R := fun _ _ => True) (.look fun _ _ _ => trivial) fun _ => reload _

theorem quiet_setRequest (uid : Uid) (p : Product) (f : Request → Request) :
    Quiet (cartsHold T K) (change fun w => w.setRequest uid p f : Program Unit) :=
  .change fun s hs => by
    obtain ⟨hi, hr⟩ := h.requests _ s hs.2
    exact ⟨⟨⟨hs.1.stored, hs.1.listed⟩, hi⟩, fun _ _ ht => ht, hr⟩

theorem safe_cart (flow : StatusLists) {e : Event} (he : e.group = .cart) {s : World}
    (hs : (cartsHold T K).inv s) (hstart : g.start e s) :
    (handler flow ids e).Safe (cartsHold T K) g s := by
  cases e with
  | openCart d farmerId => exact (h.spec_getCartProducts d farmerId).safe hs trivial
  | addToCart d p =>
    exact (Spec.bind (P := fun _ => True) (h.quiet_setRequest d.uid p _).spec fun _ =>
      .bind (h.spec_addToCart ids d p (h.added d p s hstart)) fun _ =>
        (h.quiet_setRequest d.uid p _).spec).safe hs trivial
  | updateQuantity d p quantity =>
    exact (Spec.bind (P := fun _ => True) (h.quiet_setRequest d.uid p _).spec fun _ =>
      .bind (h.spec_updateQuantity d p quantity) fun _ =>
        (h.quiet_setRequest d.uid p _).spec).safe hs trivial
  | pickDate d date =>
    exact (h.quiet_besideLists (f := fun c => { c with selectedDate := date }) d
      fun _ => ⟨rfl, rfl⟩).safe hs
  | pickTime d time =>
    exact (h.quiet_besideLists (f := fun c => { c with selectedTime := time }) d
      fun _ => ⟨rfl, rfl⟩).safe hs
  | pickPayment d paymentMethod =>
    exact (h.quiet_besideLists (f := fun c => { c with selectedPaymentMethod := paymentMethod }) d
      fun _ => ⟨rfl, rfl⟩).safe hs
  | _ => cases he

end Programs

end CartFlow

section Others

variable {T : Product → Prop} {K : Contract World Access}

theorem keeps_cartsHold {f : World → World} (hk : K.Keeps f)
    (hf : ∀ w, (f w).carts = w.carts ∧ (f w).cartPages = w.cartPages) :
    (cartsHold T K).Keeps f := by
  intro s hs
  obtain ⟨hi, hr⟩ := hk s hs.2
  obtain ⟨hcarts, hpages⟩ := hf s
  refine ⟨⟨⟨fun uid farmerId id p hp => ?_, fun d list i hi' => ?_⟩, hi⟩, fun d i ht => ?_, hr⟩
  · rw [hcarts] at hp
    exact hs.1.stored uid farmerId id p hp
  · rw [hpages] at hi' ⊢
    exact hs.1.listed d list i hi'
  · rw [hpages]
    exact ht

theorem keeps_updateOrder {f : Order → Order} {id : String}
    (hk : K.Keeps fun w => (updateOrder id f w).1) :
    (cartsHold T K).Keeps fun w => (updateOrder id f w).1 :=
  keeps_cartsHold hk fun w => by
    obtain ⟨orders, hframe⟩ := updateOrder_frame id f w
    exact ⟨by rw [hframe], by rw [hframe]⟩

theorem keepsStaff_cartsHold (h : KeepsStaff K) : KeepsStaff (cartsHold T K) where
  plain s hs := h.plain s hs.2
  shows l s hs hl := h.shows l s hs.2 hl
  details v := keeps_cartsHold (h.details v) fun _ => ⟨rfl, rfl⟩
  homes v := keeps_cartsHold (h.homes v) fun _ => ⟨rfl, rfl⟩
  maps v n := keeps_cartsHold (h.maps v n) fun _ => ⟨rfl, rfl⟩
  writes l id := keeps_updateOrder (h.writes l id)

theorem keepsTimers_cartsHold (h : KeepsTimers K) : KeepsTimers (cartsHold T K) where
  shows l s hs hl := h.shows l s hs.2 hl
  timers v := keeps_cartsHold (h.timers v) fun _ => ⟨rfl, rfl⟩
  rejects id := keeps_updateOrder (h.rejects id)

theorem keepsStock_cartsHold (h : KeepsStock K) : KeepsStock (cartsHold T K) where
  plain s hs := h.plain s hs.2
  shows l s hs hl hp := h.shows l s hs.2 hl hp
  stock farmerId productId qty hidden := keeps_cartsHold (h.stock farmerId productId qty hidden)
    fun w => by
      obtain ⟨products, hframe⟩ := updateFarmProduct_frame farmerId productId
        (fun p => { p with qty := qty, isHidden := hidden p }) w
      exact ⟨by rw [hframe], by rw [hframe]⟩
  deletes farmerId productId := keeps_cartsHold (h.deletes farmerId productId) fun w => by
    obtain ⟨products, hframe⟩ := deleteProductDoc_frame farmerId productId w
    exact ⟨by rw [hframe], by rw [hframe]⟩
  audits a := keeps_cartsHold (h.audits a) fun _ => ⟨rfl, rfl⟩

theorem CartFlow.handler_safe {g : Guard World Access Event} (h : CartFlow T K g)
    (staff : KeepsStaff K) (timers : KeepsTimers K) (stock : KeepsStock K)
    (clock : ∀ now, K.Keeps fun w => { w with now := now }) {flow : StatusLists} (ids : IdSupply)
    (orders : ∀ d, Spec (cartsHold T K) g (fun _ => True)
      (MyCartController.placeOrder flow ids d) (fun _ _ => True) fun _ _ => True)
    (e : Event) (s : World) (hs : (cartsHold T K).inv s) (hstart : g.start e s) :
    (handler flow ids e).Safe (cartsHold T K) g s := by
  cases hg : e.group with
  | staff =>
    exact (quiet_staff flow ids (keepsStaff_cartsHold staff) (keepsTimers_cartsHold timers)
      (fun now => keeps_cartsHold (clock now) fun _ => ⟨rfl, rfl⟩) hg).safe hs
  | stock => exact (quiet_stock flow ids (keepsStock_cartsHold stock).toKeepsProducts hg).safe hs
  | cart => exact h.safe_cart ids flow hg hs hstart
  | order =>
    cases e with
    | placeOrder d => exact (orders d).safe hs trivial
    | _ => cases hg

end Others

end Gherass
