import Gherass.CartReads

set_option autoImplicit false

/-!
# What the helper does to a stored cart

Each cart function of the helper, run alone, as a function of the customer's cart.
-/
namespace Gherass

open EventLoop EventLoop.Async FirebaseHelper

namespace CartStore

def line (c : CartStore) (farmerId id : String) : Option Product := (c.products farmerId)[id]?

def openDoc (c : CartStore) (farmerId : String) : CartStore :=
  { c with docs := c.docs.insert farmerId }

def putLine (c : CartStore) (farmerId id : String) (p : Product) : CartStore :=
  { c with
    products := Function.update c.products farmerId ((c.products farmerId).insert id p) }

def eraseLine (c : CartStore) (farmerId id : String) : CartStore :=
  { c with products := Function.update c.products farmerId ((c.products farmerId).erase id) }

def linesOf (c : CartStore) (farmerId prodId : String) : List (String × Product) :=
  (c.products farmerId).toList.filter fun doc => doc.2.prodId = prodId

def putLines (c : CartStore) (lines : List Product) : CartStore :=
  lines.foldl (fun c p => c.putLine p.farmerId p.id p) c

/-- Adds to the first document that holds the product, or makes one under the id `id`. -/
def addLine (c : CartStore) (id : String) (p : Product) : CartStore :=
  match c.linesOf p.farmerId p.prodId with
  | [] => (c.putLine p.farmerId id p).putLine p.farmerId id { p with id := id }
  | doc :: _ => c.putLine p.farmerId doc.1 { doc.2 with qty := doc.2.qty + p.qty }

variable (c : CartStore) (farmerId id : String) (p : Product)

@[simp] theorem line_openDoc (f i : String) : (c.openDoc farmerId).line f i = c.line f i := rfl

@[simp] theorem docs_eraseLine : (c.eraseLine farmerId id).docs = c.docs := rfl

@[simp] theorem line_withoutDocs (f i : String) : c.withoutDocs.line f i = c.line f i := rfl

theorem mem_openDoc (f : String) : f ∈ (c.openDoc farmerId).docs ↔ farmerId = f ∨ f ∈ c.docs := by
  simp [openDoc, Std.TreeSet.mem_insert]

@[simp] theorem line_putLine (f i : String) :
    (c.putLine farmerId id p).line f i =
      if farmerId = f ∧ id = i then some p else c.line f i := by
  by_cases hf : farmerId = f
  · subst hf
    simp only [line, putLine, Function.update_self, Std.TreeMap.getElem?_insert,
      Std.LawfulEqCmp.compare_eq_iff_eq, true_and]
  · simp only [line, putLine, Function.update_of_ne (Ne.symm hf), hf, false_and, if_false]

@[simp] theorem line_eraseLine (f i : String) :
    (c.eraseLine farmerId id).line f i =
      if farmerId = f ∧ id = i then none else c.line f i := by
  by_cases hf : farmerId = f
  · subst hf
    simp only [line, eraseLine, Function.update_self, Std.TreeMap.getElem?_erase,
      Std.LawfulEqCmp.compare_eq_iff_eq, true_and]
  · simp only [line, eraseLine, Function.update_of_ne (Ne.symm hf), hf, false_and, if_false]

variable {c farmerId id p}

theorem mem_linesOf {prodId : String} {doc : String × Product} :
    doc ∈ c.linesOf farmerId prodId ↔
      c.line farmerId doc.1 = some doc.2 ∧ doc.2.prodId = prodId := by
  obtain ⟨id, p⟩ := doc
  simp [linesOf, line, Std.TreeMap.mem_toList_iff_getElem?_eq_some]

theorem line_addLine_new (h : c.linesOf p.farmerId p.prodId = []) (f i : String) :
    (c.addLine id p).line f i =
      if p.farmerId = f ∧ id = i then some { p with id := id } else c.line f i := by
  rw [addLine, h]
  dsimp only
  simp only [line_putLine]
  split
  · rfl
  · rfl

theorem line_addLine_old {doc : String × Product} {rest : List (String × Product)}
    (h : c.linesOf p.farmerId p.prodId = doc :: rest) (f i : String) :
    (c.addLine id p).line f i =
      if p.farmerId = f ∧ doc.1 = i then some { doc.2 with qty := doc.2.qty + p.qty }
      else c.line f i := by
  rw [addLine, h]
  dsimp only
  rw [line_putLine]

@[simp] theorem docs_addLine : (c.addLine id p).docs = c.docs := by
  unfold addLine
  split
  · rfl
  · rfl

end CartStore

variable {ok : Access → Bool} {s : World} {ids : IdSupply}

def World.lineId (w : World) (ids : IdSupply) (uid : Uid) (farmerId : String) : String :=
  ids.newId w.autoIds ((w.carts uid).products farmerId).keys

theorem lineId_free (w : World) (ids : IdSupply) (uid : Uid) (farmerId : String) :
    (w.carts uid).line farmerId (w.lineId ids uid farmerId) = none := by
  refine Std.TreeMap.getElem?_eq_none fun h => ?_
  exact ids.fresh _ _ (Std.TreeMap.mem_keys.2 h)

theorem addCartProduct_eq {w : World} (ids : IdSupply) (uid : Uid) (farmerId : String)
    (p : Product) : addCartProduct ids uid farmerId p w =
      ({ w.setCart uid (fun c => c.putLine farmerId (w.lineId ids uid farmerId) p) with
          autoIds := w.autoIds + 1 }, .ok (w.lineId ids uid farmerId)) := rfl

theorem updateCartProduct_stored {uid : Uid} {farmerId id : String} {p : Product}
    (h : (s.carts uid).line farmerId id = some p) (f : Product → Product) :
    updateCartProduct uid farmerId id f s =
      (s.setCart uid fun c => c.putLine farmerId id (f p), .ok ()) := by
  simp only [CartStore.line] at h
  simp only [updateCartProduct, h]
  rfl

section Writes

variable (w : World) (uid uid' : Uid) (farmerId id f i : String)

theorem line_setCartProduct (p : Product) :
    ((setCartProduct uid farmerId id p w).carts uid').line f i =
      if uid = uid' ∧ farmerId = f ∧ id = i then some p else (w.carts uid').line f i := by
  change ((w.setCart uid fun c => c.putLine farmerId id p).carts uid').line f i = _
  by_cases hu : uid = uid'
  · subst hu
    simp only [World.setCart_self, CartStore.line_putLine, true_and]
  · simp only [World.setCart, Function.update_of_ne (Ne.symm hu), hu, false_and, if_false]

theorem line_updateCartProduct (g : Product → Product) :
    ((updateCartProduct uid farmerId id g w).1.carts uid').line f i =
      if uid = uid' ∧ farmerId = f ∧ id = i then ((w.carts uid').line f i).map g
      else (w.carts uid').line f i := by
  unfold updateCartProduct
  cases hp : ((w.carts uid).products farmerId)[id]? with
  | none =>
    dsimp only
    split
    case isTrue hpath =>
      obtain ⟨rfl, rfl, rfl⟩ := hpath
      rw [CartStore.line, hp, Option.map_none]
    case isFalse => rfl
  | some p =>
    dsimp only
    rw [line_setCartProduct]
    split
    case isTrue hpath =>
      obtain ⟨rfl, rfl, rfl⟩ := hpath
      rw [CartStore.line, hp, Option.map_some]
    case isFalse => rfl

theorem line_deleteCartProduct :
    ((deleteCartProduct uid farmerId id w).1.carts uid').line f i =
      if uid = uid' ∧ farmerId = f ∧ id = i then none else (w.carts uid').line f i := by
  change ((w.setCart uid fun c => c.eraseLine farmerId id).carts uid').line f i = _
  by_cases hu : uid = uid'
  · subst hu
    simp only [World.setCart_self, CartStore.line_eraseLine, true_and]
  · simp only [World.setCart, Function.update_of_ne (Ne.symm hu), hu, false_and, if_false]

theorem line_setDocs (g : Std.TreeSet String → Std.TreeSet String) :
    ((w.setCart uid fun c => { c with docs := g c.docs }).carts uid').line f i =
      (w.carts uid').line f i := by
  by_cases hu : uid = uid'
  · subst hu
    rw [World.setCart_self]
    rfl
  · simp only [World.setCart, Function.update_of_ne (Ne.symm hu)]

end Writes

variable (ids) in
theorem yields_addProductToCart (through : ∀ l, ok l = true) (uid : Uid) {p : Product}
    (hp : p.farmerId ≠ "") : ∃ n, Yields ok (addProductToCart ids uid p) s (.ok ())
      { s with
        carts := Function.update s.carts uid
          (((s.carts uid).openDoc p.farmerId).addLine (s.lineId ids uid p.farmerId) p)
        autoIds := n } := by
  set opened := s.setCart uid fun c => c.openDoc p.farmerId with hopened
  have hcart : opened.carts uid = (s.carts uid).openDoc p.farmerId := World.setCart_self ..
  have hid : opened.lineId ids uid p.farmerId = s.lineId ids uid p.farmerId := by
    rw [World.lineId, hcart]
    rfl
  have hdoc : Yields ok (call .plain (setCartDoc uid p.farmerId) .firestore : Program Unit) s
      (.ok ()) opened := .call (through _) _ _
  have hread := yields_get (s := opened) (through .plain) fun w =>
    ((w.carts uid).products p.farmerId).toList.filter fun doc => doc.2.prodId = p.prodId
  rw [hcart] at hread
  unfold addProductToCart CartStore.addLine
  rw [if_neg hp]
  change Yields ok _ opened (.ok ((s.carts uid).linesOf p.farmerId p.prodId)) opened at hread
  change ∃ n, Yields ok _ s (.ok ()) { s with
    carts := Function.update s.carts uid (match (s.carts uid).linesOf p.farmerId p.prodId with
      | [] => _
      | doc :: _ => _)
    autoIds := n }
  cases hlines : (s.carts uid).linesOf p.farmerId p.prodId with
  | nil =>
    rw [hlines] at hread
    have hadd := addCartProduct_eq (w := opened) ids uid p.farmerId p
    rw [hid] at hadd
    generalize s.lineId ids uid p.farmerId = id at hadd ⊢
    set added : World :=
      { opened.setCart uid (fun c => c.putLine p.farmerId id p) with
        autoIds := opened.autoIds + 1 } with hset
    have hadded : added.carts uid = ((s.carts uid).openDoc p.farmerId).putLine p.farmerId id p := by
      rw [← hcart]
      exact World.setCart_self opened uid fun c => c.putLine p.farmerId id p
    have hname : updateCartProduct uid p.farmerId id (fun p => { p with id := id }) added =
        (added.setCart uid fun c => c.putLine p.farmerId id { p with id := id }, .ok ()) :=
      updateCartProduct_stored (by rw [hadded]; simp) _
    refine ⟨opened.autoIds + 1, .bind hdoc (.bind hread (.bind (.call_eq (through _) hadd)
      (.call_eq (through _) (hname.trans ?_))))⟩
    simp only [World.setCart, hset, hopened, Function.update_idem, Function.update_self]
  | cons doc rest =>
    rw [hlines] at hread
    have hstored : (opened.carts uid).line p.farmerId doc.1 = some doc.2 := by
      rw [hcart]
      exact (CartStore.mem_linesOf.1 (hlines ▸ List.mem_cons_self ..)).1
    refine ⟨s.autoIds, .bind hdoc (.bind hread (.call_eq (through _)
      ((updateCartProduct_stored hstored _).trans ?_)))⟩
    simp only [World.setCart, hopened, Function.update_idem, Function.update_self]

theorem storeCartProduct_frame (seen : Access) (uid : Uid) (p : Product) (w : World) :
    ∃ v, storeCartProduct seen uid p w =
      { w.setCart uid fun c => c.putLine p.farmerId p.id p with validated := v } := by
  unfold storeCartProduct
  split
  · split
    · exact ⟨_, rfl⟩
    · exact ⟨_, rfl⟩
  · exact ⟨_, rfl⟩

theorem foldl_storeCartProduct (seen : Access) (uid : Uid) (lines : List Product) (w : World) :
    ∃ v, lines.foldl (fun v p => storeCartProduct seen uid p v) w =
      { w.setCart uid fun c => c.putLines lines with validated := v } := by
  induction lines generalizing w with
  | nil => exact ⟨w.validated, by simp [CartStore.putLines, World.setCart]⟩
  | cons p rest ih =>
    obtain ⟨v, hv⟩ := storeCartProduct_frame seen uid p w
    obtain ⟨v', hv'⟩ := ih { w.setCart uid fun c => c.putLine p.farmerId p.id p with validated := v }
    refine ⟨v', ?_⟩
    rw [List.foldl_cons, hv, hv']
    simp only [World.setCart, Function.update_self, Function.update_idem]
    rfl

theorem yields_helper_updateProductInCart {seen : Access} (through : ok seen = true) (uid : Uid)
    (products : List Product) :
    ∃ v, Yields ok (FirebaseHelper.updateProductInCart seen uid products) s (.ok ())
      (if (batchLines products).any fun p => p.id = "" then s
        else { s.setCart uid fun c => c.putLines (batchLines products) with validated := v }) := by
  obtain ⟨v, hv⟩ := foldl_storeCartProduct seen uid (batchLines products) s
  refine ⟨v, ?_⟩
  unfold FirebaseHelper.updateProductInCart
  split
  case isTrue hempty => exact .caught (.throw DartError.argument) (.pure _)
  case isFalse hids => exact .tryCatch (.call_eq through (by rw [hv]))

theorem yields_helper_removeFromCart (through : ∀ l, ok l = true) (uid : Uid)
    (farmerId productId : String) :
    Yields ok (FirebaseHelper.removeFromCart uid farmerId productId) s (.ok ())
      (if farmerId = "" ∨ productId = "" then s
        else (s.setCart uid fun c => c.eraseLine farmerId productId).recordValidation uid farmerId
          productId none) := by
  by_cases hf : farmerId = ""
  · rw [if_pos (.inl hf), hf]
    exact .caught (.bind_error yields_checkPath_empty) (.pure _)
  by_cases hp : productId = ""
  · rw [if_pos (.inr hp), hp]
    exact .caught (.bind (yields_checkPath hf) (.bind_error yields_checkPath_empty)) (.pure _)
  rw [if_neg (by simp [hf, hp])]
  exact .tryCatch (.bind (yields_checkPath hf) (.bind (yields_checkPath hp)
    (.call (through _) _ _)))

end Gherass
