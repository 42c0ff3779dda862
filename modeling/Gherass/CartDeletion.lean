import Gherass.CartLines
import Gherass.Marketplace

set_option autoImplicit false

/-!
# What comes back after a cart was emptied

`cartDelete` deletes the farmers' documents and leaves the products below them. What the
later calls put into the cart is kept as a map of quantities and compared with the reads.
-/
namespace Gherass

open EventLoop EventLoop.Async FirebaseHelper

inductive CartOp where
  | addProductsToCart (products : List Product)
  | updateProductInCart (products : List Product)
  | removeFromCart (farmerId productId : String)
  | cartDelete

def CartOp.program (ids : IdSupply) (uid : Uid) : CartOp → Program Unit
  | .addProductsToCart products => FirebaseHelper.addProductsToCart ids uid products
  | .updateProductInCart products => FirebaseHelper.updateProductInCart .plain uid products
  | .removeFromCart farmerId productId => FirebaseHelper.removeFromCart uid farmerId productId
  | .cartDelete => FirebaseHelper.cartDelete uid

def cartHandler (ids : IdSupply) (uid : Uid) (op : CartOp) : Task World Access Bool :=
  (op.program ids uid).task

abbrev Quantities := String × String → Option ℤ

namespace Quantities

def add (m : Quantities) (p : Product) : Quantities :=
  if p.farmerId = "" then m
  else Function.update m (p.farmerId, p.prodId)
    (some ((m (p.farmerId, p.prodId)).getD 0 + p.qty))

def set (m : Quantities) (p : Product) : Quantities :=
  Function.update m (p.farmerId, p.prodId) ((m (p.farmerId, p.prodId)).map fun _ => p.qty)

def remove (m : Quantities) (farmerId prodId : String) : Quantities :=
  Function.update m (farmerId, prodId) none

end Quantities

def CartOp.apply (c : CartStore) (m : Quantities) : CartOp → Quantities
  | .addProductsToCart products => products.foldl Quantities.add m
  | .updateProductInCart products =>
    if (batchLines products).any fun p => p.id = "" then m
    else (batchLines products).foldl Quantities.set m
  | .removeFromCart farmerId productId =>
    if farmerId = "" ∨ productId = "" then m
    else match c.line farmerId productId with
      | some p => m.remove farmerId p.prodId
      | none => m
  | .cartDelete => fun _ => none

/-- The quantities that the calls of a run give, of those that are not lost. -/
def given (ids : IdSupply) (uid : Uid) :
    World → Quantities → List (CartOp × (Access → Bool)) → Quantities
  | _, m, [] => m
  | s, m, turn :: turns => given ids uid ((cartHandler ids uid turn.1).alone turn.2 s).2
      (if turn.2 .plain then turn.1.apply (s.carts uid) m else m) turns

/-- An addition opens no document that was closed over products, and an update below an
    open document finds the line it is for. -/
def CartOp.revealsNothing (c : CartStore) : CartOp → Prop
  | .addProductsToCart products => ∀ p ∈ products, p.farmerId ≠ "" → p.farmerId ∈ c.docs ∨
      ∀ id, c.line p.farmerId id = none
  | .updateProductInCart products => ∀ p ∈ batchLines products, p.farmerId ∈ c.docs →
      ∃ stored, c.line p.farmerId p.id = some stored ∧ stored.prodId = p.prodId
  | _ => True

def revealsNothing (uid : Uid) (op : CartOp) (ok : Access → Bool) (s : World) : Prop :=
  ((∀ l, ok l = true) ∨ ∀ l, ok l = false) ∧ op.revealsNothing (s.carts uid)

structure Agrees (m : Quantities) (c : CartStore) : Prop where
  shown : ∀ f id p, f ∈ c.docs → c.line f id = some p →
    p.farmerId = f ∧ m (f, p.prodId) = some p.qty
  held : ∀ f k q, m (f, k) = some q → f ∈ c.docs ∧ ∃ id p, c.line f id = some p ∧ p.prodId = k
  single : ∀ f i j p q, f ∈ c.docs → c.line f i = some p → c.line f j = some q →
    p.prodId = q.prodId → i = j

namespace Agrees

variable {m : Quantities} {c : CartStore}

theorem congr {c' : CartStore} (h : Agrees m c) (hdocs : c'.docs = c.docs)
    (hline : ∀ f i, c'.line f i = c.line f i) : Agrees m c' := by
  constructor
  · intro f id p hf hp
    rw [hdocs] at hf
    rw [hline] at hp
    exact h.shown f id p hf hp
  · intro f k q hq
    obtain ⟨hf, id, p, hp, hk⟩ := h.held f k q hq
    exact ⟨hdocs ▸ hf, id, p, (hline f id).trans hp, hk⟩
  · intro f i j p q hf hp hq
    rw [hdocs] at hf
    rw [hline] at hp hq
    exact h.single f i j p q hf hp hq

theorem withoutDocs (c : CartStore) : Agrees (fun _ => none) c.withoutDocs := by
  have closed : ∀ f, f ∉ c.withoutDocs.docs := fun f h => by
    have := Std.TreeSet.mem_toList.2 h
    rw [CartStore.withoutDocs_docs] at this
    cases this
  exact ⟨fun f _ _ hf => absurd hf (closed f), fun _ _ _ h => (by cases h),
    fun f _ _ _ _ hf => absurd hf (closed f)⟩

theorem openDoc (h : Agrees m c) {farmerId : String}
    (hf : farmerId ∈ c.docs ∨ ∀ id, c.line farmerId id = none) :
    Agrees m (c.openDoc farmerId) := by
  have was_open : ∀ f id p, f ∈ (c.openDoc farmerId).docs → c.line f id = some p →
      f ∈ c.docs := by
    intro f id p hmem hline
    rcases (c.mem_openDoc farmerId f).1 hmem with rfl | hmem
    · rcases hf with hf | hf
      · exact hf
      · rw [hf id] at hline
        cases hline
    · exact hmem
  constructor
  · intro f id p hmem hline
    exact h.shown f id p (was_open f id p hmem hline) hline
  · intro f k q hq
    obtain ⟨hmem, hline⟩ := h.held f k q hq
    exact ⟨(c.mem_openDoc farmerId f).2 (.inr hmem), hline⟩
  · intro f i j p q hmem hp hq
    exact h.single f i j p q (was_open f i p hmem hp) hp hq

theorem putLine (h : Agrees m c) {p : Product} {farmerId : String} (hfarmer : p.farmerId = farmerId)
    (hf : farmerId ∈ c.docs) {id : String}
    (hid : ∀ q, c.line farmerId id = some q → q.prodId = p.prodId)
    (honly : ∀ i q, c.line farmerId i = some q → q.prodId = p.prodId → i = id) :
    Agrees (Function.update m (farmerId, p.prodId) (some p.qty)) (c.putLine farmerId id p) := by
  subst hfarmer
  constructor
  · intro f i q hmem hq
    rw [CartStore.line_putLine] at hq
    split at hq
    case isTrue hpath =>
      obtain ⟨rfl, rfl⟩ := hpath
      obtain rfl := Option.some.inj hq
      exact ⟨rfl, Function.update_self ..⟩
    case isFalse hpath =>
      obtain ⟨hfarmer, hm⟩ := h.shown f i q hmem hq
      refine ⟨hfarmer, (Function.update_of_ne (fun hkey => ?_) ..).trans hm⟩
      obtain ⟨rfl, hprod⟩ := Prod.mk.inj hkey
      exact hpath ⟨rfl, (honly i q hq hprod).symm⟩
  · intro f k q hq
    by_cases hkey : (f, k) = (p.farmerId, p.prodId)
    · obtain ⟨rfl, rfl⟩ := Prod.mk.inj hkey
      exact ⟨hf, id, p, by simp, rfl⟩
    · rw [Function.update_of_ne hkey] at hq
      obtain ⟨hmem, i, r, hr, rfl⟩ := h.held f k q hq
      refine ⟨hmem, i, r, ?_, rfl⟩
      rw [CartStore.line_putLine, if_neg, hr]
      rintro ⟨rfl, rfl⟩
      exact hkey (by rw [hid r hr])
  · intro f i j q r hmem hq hr hprod
    rw [CartStore.line_putLine] at hq hr
    split at hq
    case isTrue hi =>
      obtain ⟨rfl, rfl⟩ := hi
      obtain rfl := Option.some.inj hq
      split at hr
      case isTrue hj => exact hj.2
      case isFalse => exact (honly j r hr hprod.symm).symm
    case isFalse =>
      split at hr
      case isTrue hj =>
        obtain ⟨rfl, rfl⟩ := hj
        obtain rfl := Option.some.inj hr
        exact honly i q hq hprod
      case isFalse => exact h.single f i j q r hmem hq hr hprod

theorem addLine (h : Agrees m c) {p : Product} (hne : p.farmerId ≠ "")
    (hf : p.farmerId ∈ c.docs) {id : String} (hfree : c.line p.farmerId id = none) :
    Agrees (m.add p) (c.addLine id p) := by
  rw [Quantities.add, if_neg hne]
  cases hlines : c.linesOf p.farmerId p.prodId with
  | nil =>
    have hnone : ∀ i q, c.line p.farmerId i = some q → q.prodId ≠ p.prodId := fun i q hq hprod => by
      have : (i, q) ∈ c.linesOf p.farmerId p.prodId := CartStore.mem_linesOf.2 ⟨hq, hprod⟩
      rw [hlines] at this
      cases this
    have hm : m (p.farmerId, p.prodId) = none := by
      cases hq : m (p.farmerId, p.prodId) with
      | none => rfl
      | some q =>
        obtain ⟨-, i, r, hr, hprod⟩ := h.held _ _ q hq
        exact absurd hprod (hnone i r hr)
    rw [hm, Option.getD_none, Int.zero_add]
    have put : Agrees (Function.update m (p.farmerId, p.prodId) (some p.qty))
        (c.putLine p.farmerId id { p with id := id }) :=
      h.putLine (p := { p with id := id }) rfl hf (fun q hq => by rw [hfree] at hq; cases hq)
        fun i q hq hprod => absurd hprod (hnone i q hq)
    refine put.congr CartStore.docs_addLine fun f i => ?_
    rw [CartStore.line_addLine_new hlines, CartStore.line_putLine]
  | cons doc rest =>
    obtain ⟨hdoc, hprod⟩ := CartStore.mem_linesOf.1 (hlines ▸ List.mem_cons_self ..)
    obtain ⟨hfarmer, hm⟩ := h.shown _ _ _ hf hdoc
    rw [← hprod, hm, Option.getD_some]
    have put : Agrees (Function.update m (p.farmerId, doc.2.prodId) (some (doc.2.qty + p.qty)))
        (c.putLine p.farmerId doc.1 { doc.2 with qty := doc.2.qty + p.qty }) := by
      refine h.putLine (p := { doc.2 with qty := doc.2.qty + p.qty }) hfarmer hf
        (fun q hq => ?_) fun i q hq hq' => ?_
      · rw [hdoc] at hq
        rw [← Option.some.inj hq]
      · exact h.single _ _ _ _ _ hf hq hdoc hq'
    refine put.congr CartStore.docs_addLine fun f i => ?_
    rw [CartStore.line_addLine_old hlines, CartStore.line_putLine]

theorem setLine (h : Agrees m c) {p : Product} (hp : p.farmerId ∈ c.docs →
      ∃ stored, c.line p.farmerId p.id = some stored ∧ stored.prodId = p.prodId) :
    Agrees (m.set p) (c.putLine p.farmerId p.id p) := by
  unfold Quantities.set
  by_cases hf : p.farmerId ∈ c.docs
  · obtain ⟨stored, hstored, hprod⟩ := hp hf
    obtain ⟨-, hm⟩ := h.shown _ _ _ hf hstored
    rw [← hprod, hm, Option.map_some, hprod]
    refine h.putLine rfl hf (fun q hq => ?_) fun i q hq hq' => ?_
    · rw [hstored] at hq
      rw [← Option.some.inj hq, hprod]
    · exact h.single _ _ _ _ _ hf hq hstored (hq'.trans hprod.symm)
  · have hm : m (p.farmerId, p.prodId) = none := by
      cases hq : m (p.farmerId, p.prodId) with
      | none => rfl
      | some q => exact absurd (h.held _ _ q hq).1 hf
    rw [hm, Option.map_none, ← hm, Function.update_eq_self]
    have other : ∀ f i, f ∈ c.docs → (c.putLine p.farmerId p.id p).line f i = c.line f i := by
      intro f i hmem
      rw [CartStore.line_putLine, if_neg]
      rintro ⟨rfl, -⟩
      exact hf hmem
    constructor
    · intro f i q hmem hq
      exact h.shown f i q hmem (other f i hmem ▸ hq)
    · intro f k q hq
      obtain ⟨hmem, i, r, hr, hk⟩ := h.held f k q hq
      exact ⟨hmem, i, r, (other f i hmem).trans hr, hk⟩
    · intro f i j q r hmem hq hr
      exact h.single f i j q r hmem (other f i hmem ▸ hq) (other f j hmem ▸ hr)

theorem eraseLine (h : Agrees m c) {farmerId id : String} {p : Product}
    (hp : c.line farmerId id = some p) :
    Agrees (m.remove farmerId p.prodId) (c.eraseLine farmerId id) := by
  constructor
  · intro f i q hmem hq
    rw [CartStore.line_eraseLine] at hq
    split at hq
    · cases hq
    case isFalse hpath =>
      obtain ⟨hfarmer, hm⟩ := h.shown f i q hmem hq
      refine ⟨hfarmer, (Function.update_of_ne (fun hkey => ?_) ..).trans hm⟩
      obtain ⟨rfl, hprod⟩ := Prod.mk.inj hkey
      exact hpath ⟨rfl, h.single _ _ _ _ _ hmem hp hq hprod.symm⟩
  · intro f k q hq
    by_cases hkey : (f, k) = (farmerId, p.prodId)
    · rw [Quantities.remove, hkey, Function.update_self] at hq
      cases hq
    · rw [Quantities.remove, Function.update_of_ne hkey] at hq
      obtain ⟨hmem, i, r, hr, rfl⟩ := h.held f k q hq
      refine ⟨hmem, i, r, ?_, rfl⟩
      rw [CartStore.line_eraseLine, if_neg, hr]
      rintro ⟨rfl, rfl⟩
      rw [hp] at hr
      exact hkey (by rw [← Option.some.inj hr])
  · intro f i j q r hmem hq hr hprod
    rw [CartStore.line_eraseLine] at hq hr
    split at hq
    · cases hq
    · split at hr
      · cases hr
      · exact h.single f i j q r hmem hq hr hprod

end Agrees

section Runs

variable {ids : IdSupply} {uid : Uid} {ok : Access → Bool} {m : Quantities} {s : World}

theorem line_addLine_other (c : CartStore) (id : String) {p : Product} {farmerId : String}
    (h : p.farmerId ≠ farmerId) (i : String) :
    (c.addLine id p).line farmerId i = c.line farmerId i := by
  cases hlines : c.linesOf p.farmerId p.prodId with
  | nil => rw [CartStore.line_addLine_new hlines, if_neg fun hpath => h hpath.1]
  | cons doc rest => rw [CartStore.line_addLine_old hlines, if_neg fun hpath => h hpath.1]

variable (ids) in
theorem agrees_addEach (through : ∀ l, ok l = true) {products : List Product}
    (h : Agrees m (s.carts uid)) (hreveal : ∀ p ∈ products, p.farmerId ≠ "" →
      p.farmerId ∈ (s.carts uid).docs ∨ ∀ id, (s.carts uid).line p.farmerId id = none) :
    ∃ t, Yields ok (addEach ids uid products) s (.ok ()) t ∧
      Agrees (products.foldl Quantities.add m) (t.carts uid) := by
  induction products generalizing m s with
  | nil => exact ⟨s, .pure (), h⟩
  | cons p rest ih =>
    by_cases hp : p.farmerId = ""
    · have hskip : Yields ok (addProductToCart ids uid p) s (.ok ()) s := by
        rw [addProductToCart, if_pos hp]
        exact .pure ()
      have hadd : m.add p = m := if_pos hp
      obtain ⟨t, ht, hagrees⟩ := ih h fun q hq => hreveal q (List.mem_cons_of_mem _ hq)
      exact ⟨t, .bind hskip ht, by rwa [List.foldl_cons, hadd]⟩
    · obtain ⟨n, hadd⟩ := yields_addProductToCart ids (s := s) through uid hp
      set id := s.lineId ids uid p.farmerId with hid
      set w : World := { s with
        carts := Function.update s.carts uid (((s.carts uid).openDoc p.farmerId).addLine id p)
        autoIds := n } with hw
      have hcart : w.carts uid = ((s.carts uid).openDoc p.farmerId).addLine id p :=
        Function.update_self ..
      have hagrees : Agrees (m.add p) (w.carts uid) := by
        rw [hcart]
        refine (h.openDoc (hreveal p (List.mem_cons_self ..) hp)).addLine hp ?_ ?_
        · exact ((s.carts uid).mem_openDoc _ _).2 (.inl rfl)
        · rw [CartStore.line_openDoc, hid, lineId_free]
      have hrest : ∀ q ∈ rest, q.farmerId ≠ "" →
          q.farmerId ∈ (w.carts uid).docs ∨ ∀ i, (w.carts uid).line q.farmerId i = none := by
        intro q hq hne
        rw [hcart, CartStore.docs_addLine, CartStore.mem_openDoc]
        by_cases hfarmer : p.farmerId = q.farmerId
        · exact .inl (.inl hfarmer)
        · rcases hreveal q (List.mem_cons_of_mem _ hq) hne with hmem | hnone
          · exact .inl (.inr hmem)
          · refine .inr fun i => ?_
            rw [line_addLine_other _ id hfarmer, CartStore.line_openDoc, hnone]
      obtain ⟨t, ht, hfinal⟩ := ih hagrees hrest
      exact ⟨t, .bind hadd ht, hfinal⟩

theorem agrees_putLines {c : CartStore} {lines : List Product} (h : Agrees m c)
    (hstored : ∀ p ∈ lines, p.farmerId ∈ c.docs →
      ∃ stored, c.line p.farmerId p.id = some stored ∧ stored.prodId = p.prodId) :
    Agrees (lines.foldl Quantities.set m) (c.putLines lines) := by
  induction lines generalizing m c with
  | nil => exact h
  | cons p rest ih =>
    refine ih (h.setLine (hstored p (List.mem_cons_self ..))) fun q hq hmem => ?_
    obtain ⟨stored, hline, hprod⟩ := hstored q (List.mem_cons_of_mem _ hq) hmem
    rw [CartStore.line_putLine]
    split
    case isTrue hpath =>
      obtain ⟨hfarmer, hid⟩ := hpath
      obtain ⟨stored', hline', hprod'⟩ := hstored p (List.mem_cons_self ..) (hfarmer ▸ hmem)
      rw [hfarmer, hid, hline] at hline'
      rw [← Option.some.inj hline'] at hprod'
      exact ⟨p, rfl, hprod'.symm.trans hprod⟩
    case isFalse => exact ⟨stored, hline, hprod⟩

variable (ids uid) in
theorem lost_addEach (lost : ∀ l, ok l = false) (products : List Product) :
    ∃ r, Yields ok (addEach ids uid products) s r s := by
  induction products with
  | nil => exact ⟨_, .pure ()⟩
  | cons p rest ih =>
    by_cases hp : p.farmerId = ""
    · obtain ⟨r, hr⟩ := ih
      refine ⟨r, .bind (b := ()) ?_ hr⟩
      rw [addProductToCart, if_pos hp]
      exact .pure ()
    · refine ⟨.error .firestore, .bind_error ?_⟩
      rw [addProductToCart, if_neg hp]
      exact .bind_error (.call_lost (lost _) _ _)

theorem lost_turn (lost : ∀ l, ok l = false) (op : CartOp) :
    ((cartHandler ids uid op).alone ok s).2 = s := by
  suffices ∃ r, Yields ok (op.program ids uid) s r s by
    obtain ⟨r, hr⟩ := this
    exact hr.task
  cases op with
  | addProductsToCart products =>
    obtain ⟨r, hr⟩ := lost_addEach ids uid (s := s) lost products
    cases r with
    | ok => exact ⟨_, .tryCatch hr⟩
    | error e => exact ⟨_, .caught hr (.pure ())⟩
  | updateProductInCart products =>
    refine ⟨.ok (), ?_⟩
    change Yields ok (FirebaseHelper.updateProductInCart .plain uid products) s _ s
    unfold FirebaseHelper.updateProductInCart
    split
    · exact .caught (.throw (α := Unit) DartError.argument) (.pure _)
    · exact .caught (.call_lost (lost _) _ _) (.pure _)
  | removeFromCart farmerId productId =>
    refine ⟨.ok (), ?_⟩
    by_cases hf : farmerId = ""
    · rw [hf]
      exact .caught (.bind_error yields_checkPath_empty) (.pure _)
    by_cases hp : productId = ""
    · rw [hp]
      exact .caught (.bind (yields_checkPath hf) (.bind_error yields_checkPath_empty)) (.pure _)
    exact .caught (.bind (yields_checkPath hf) (.bind (yields_checkPath hp)
      (.bind_error (.call_lost (lost _) _ _)))) (.pure _)
  | cartDelete =>
    exact ⟨.ok (), .caught (.bind_error (.call_lost (lost _) _ _)) (.pure _)⟩

theorem agrees_turn {op : CartOp} (hop : revealsNothing uid op ok s)
    (h : Agrees m (s.carts uid)) :
    Agrees (if ok .plain then op.apply (s.carts uid) m else m)
      (((cartHandler ids uid op).alone ok s).2.carts uid) := by
  obtain ⟨through | lost, hreveal⟩ := hop
  case inr =>
    rw [lost_turn lost, lost, if_neg Bool.false_ne_true]
    exact h
  rw [through, if_pos rfl]
  cases op with
  | addProductsToCart products =>
    obtain ⟨t, ht, hagrees⟩ := agrees_addEach ids through h hreveal
    have run : Yields ok (FirebaseHelper.addProductsToCart ids uid products) s (.ok ()) t :=
      .tryCatch ht
    rw [cartHandler, CartOp.program, run.task]
    exact hagrees
  | updateProductInCart products =>
    obtain ⟨v, run⟩ := yields_helper_updateProductInCart (s := s) (through .plain) uid products
    rw [cartHandler, CartOp.program, run.task, CartOp.apply]
    split
    · exact h
    · change Agrees _ ((s.setCart uid fun c => c.putLines (batchLines products)).carts uid)
      rw [World.setCart_self]
      exact agrees_putLines h hreveal
  | removeFromCart farmerId productId =>
    have run := yields_helper_removeFromCart (s := s) through uid farmerId productId
    rw [cartHandler, CartOp.program, run.task, CartOp.apply]
    split
    · exact h
    · change Agrees _ ((s.setCart uid fun c => c.eraseLine farmerId productId).carts uid)
      rw [World.setCart_self]
      cases hline : (s.carts uid).line farmerId productId with
      | some p => exact h.eraseLine hline
      | none =>
        refine h.congr (CartStore.docs_eraseLine ..) fun f i => ?_
        rw [CartStore.line_eraseLine]
        split
        case isTrue hpath => rw [← hpath.1, ← hpath.2, hline]
        case isFalse => rfl
  | cartDelete =>
    have run : Yields ok (FirebaseHelper.cartDelete uid) s (.ok ())
        (if ok .plain then s.setCart uid CartStore.withoutDocs else s) := yields_cartDelete uid
    rw [cartHandler, CartOp.program, run.task, through, if_pos rfl, World.setCart_self]
    exact .withoutDocs _

theorem agrees_run {turns : List (CartOp × (Access → Bool))} {u : World}
    (h : Agrees m (u.carts uid))
    (hm : EachMeets (cartHandler ids uid) (revealsNothing uid) u turns) :
    Agrees (given ids uid u m turns) ((runEach (cartHandler ids uid) u turns).carts uid) := by
  induction turns generalizing m u with
  | nil => exact h
  | cons turn turns ih => exact ih (agrees_turn hm.1 h) hm.2

end Runs

/-- After a cart was emptied, a read returns only what the later calls have given, in the
    quantity they have given, if none of them reveals what was left below the documents. -/
theorem emptied_reads {ids : IdSupply} {uid : Uid} {s t : World}
    {turns : List (CartOp × (Access → Bool))}
    (ht : ((cartHandler ids uid .cartDelete).alone (fun _ => true) s).2 = t)
    (hm : EachMeets (cartHandler ids uid) (revealsNothing uid) t turns) {farmerId : String}
    {p : Product} (hread : readsBack uid farmerId p (runEach (cartHandler ids uid) t turns)) :
    given ids uid t (fun _ => none) turns (p.farmerId, p.prodId) = some p.qty := by
  have emptied : Agrees (fun _ => none) (t.carts uid) := by
    have run : Yields (fun _ => true) (FirebaseHelper.cartDelete uid) s (.ok ())
        (s.setCart uid CartStore.withoutDocs) := yields_cartDelete uid
    rw [← ht, cartHandler, CartOp.program, run.task, World.setCart_self]
    exact .withoutDocs _
  have agrees := agrees_run emptied hm
  rw [readsBack_iff] at hread
  cases hfirst : ((runEach (cartHandler ids uid) t turns).carts uid).firstFarmer with
  | none =>
    rw [CartStore.read, hfirst] at hread
    cases hread
  | some first =>
    obtain ⟨id, hline⟩ := (CartStore.read_of_first hfirst p).1 hread
    have hdoc : first ∈ ((runEach (cartHandler ids uid) t turns).carts uid).docs :=
      Std.TreeSet.mem_toList.1 (List.mem_of_find?_eq_some hfirst)
    obtain ⟨rfl, hqty⟩ := agrees.shown first id p hdoc hline
    exact hqty

def moreDatesLine : Product :=
  { farmerId := "farmer", prodId := "dates", name := "Dates", price := 4, qty := 2 }

theorem emptied_reads_honey : given .longer aCustomer.uid
      ((cartHandler .longer aCustomer.uid .cartDelete).alone (fun _ => true) datesCart).2
      (fun _ => none) [(.addProductsToCart [someHoney], fun _ => true)]
      ("other farmer", "honey") = some 2 := by
  have hmeets : EachMeets (cartHandler .longer aCustomer.uid) (revealsNothing aCustomer.uid)
      ((cartHandler .longer aCustomer.uid .cartDelete).alone (fun _ => true) datesCart).2
      [(.addProductsToCart [someHoney], fun _ => true)] := by
    refine ⟨⟨.inl fun _ => rfl, fun p hp _ => .inr fun id => ?_⟩, trivial⟩
    obtain rfl := List.mem_singleton.1 hp
    have run : Yields (fun _ => true) (FirebaseHelper.cartDelete aCustomer.uid) datesCart (.ok ())
        (datesCart.setCart aCustomer.uid CartStore.withoutDocs) := yields_cartDelete aCustomer.uid
    rw [cartHandler, CartOp.program, run.task, World.setCart_self, CartStore.line_withoutDocs]
    exact Std.TreeMap.getElem?_emptyc
  have read : readsBack aCustomer.uid "" { someHoney with id := "x" }
      (runEach (cartHandler .longer aCustomer.uid)
        ((cartHandler .longer aCustomer.uid .cartDelete).alone (fun _ => true) datesCart).2
        [(.addProductsToCart [someHoney], fun _ => true)]) := by decide +kernel
  exact emptied_reads rfl hmeets read

/-- The dates left below the deleted document count again. -/
theorem dates_resurface : ¬ ∀ (s t : World) (turns : List (CartOp × (Access → Bool)))
    (farmerId : String) (p : Product),
    ((cartHandler .longer aCustomer.uid .cartDelete).alone (fun _ => true) s).2 = t →
    readsBack aCustomer.uid farmerId p (runEach (cartHandler .longer aCustomer.uid) t turns) →
    given .longer aCustomer.uid t (fun _ => none) turns (p.farmerId, p.prodId) = some p.qty := by
  intro h
  have hqty := h datesCart _ [(.addProductsToCart [moreDatesLine], fun _ => true)] "farmer"
    { moreDatesLine with id := "1", qty := 5 } rfl (by decide +kernel)
  exact absurd hqty (by decide +kernel)

end Gherass
