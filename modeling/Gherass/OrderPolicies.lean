import Gherass.ProgramFrames

set_option autoImplicit false

/-!
# Policies over the stored orders

What a group of results asks of the stored orders, with the proof that each kind of
write keeps it. Every page shows copies that may be stale; a copy that names a driver as
its order's driver was made when the stored order did, which is all that is known of it.
-/
namespace Gherass

open EventLoop EventLoop.Async FirebaseHelper

def Access.Sent (flow : StatusLists) : Access → Prop
  | .acceptStatus _ _ status isDriver =>
    if isDriver then flow.driver[0]? = some status else flow.farmer[1]? = some status
  | .deliveryStatus _ _ status _ => status ∈ flow.driver
  | .rejectButton _ _ => True
  | _ => False

def Event.OfTimer : Event → Prop
  | .openTimer _ _ => True
  | .tick _ => True
  | .closeTimer _ => True
  | _ => False

def Keyed (w : World) : Prop :=
  ∀ id (o : Order), w.orders[id]? = some o → ∀ i, o.orderID = some i → i = id

theorem Keyed.put {s : World} (h : Keyed s) {id : String} {o : Order}
    (ho : ∀ i, o.orderID = some i → i = id) : Keyed (s.putOrder id o) := by
  intro i o' ho'
  rw [World.putOrder_get] at ho'
  split at ho'
  case isTrue e =>
    obtain rfl := Option.some.inj ho'
    exact e ▸ ho
  case isFalse => exact h i o' ho'

structure OrderPolicy (flow : StatusLists) where
  access : Access → World → Prop
  inv : World → Prop
  rel : World → World → Prop
  shows : Access → World → Prop
  /-- What is known of an order that a copy shows as the driver's own. -/
  held : Device → String → World → Prop
  refl : ∀ s, rel s s
  trans : ∀ {s t u}, rel s t → rel t u → rel s u
  held_later : ∀ {d id s t}, rel s t → held d id s → held d id t
  shows_other : ∀ l s, (∀ page id, l ≠ .autoReject page id) → shows l s
  frame : ∀ {s t : World}, t.orders = s.orders → t.timers = s.timers → inv s → inv t ∧ rel s t
  write : ∀ {l : Access} {id o s}, l.Sent flow → l.target = some id → access l s →
    (∀ d status, l = .deliveryStatus d id status d.uid → held d id s) → inv s →
    s.orders[id]? = some o → inv (s.putOrder id (l.apply o)) ∧ rel s (s.putOrder id (l.apply o))
  add : ∀ {id} {o : Order} {s}, flow.farmer[0]? = some o.status → o.driverId = "" →
    o.isRejected = false → s.orders[id]? = none → inv s →
    inv (s.putOrder id o) ∧ rel s (s.putOrder id o)
  setID : ∀ {id o s}, s.orders[id]? = some o → inv s →
    inv (s.putOrder id { o with orderID := some id }) ∧
      rel s (s.putOrder id { o with orderID := some id })
  own : ∀ {d id o s}, inv s → s.orders[id]? = some o → o.driverId = d.uid → held d id s

def OrdersController.copies (c : OrdersController) : List Order :=
  c.allOrders ++ c.ordersList ++ c.currentOrders ++ c.pastOrders ++ c.selectedOrder.toList

theorem OrdersController.mem_copies {c : OrdersController} {o : Order} :
    o ∈ c.copies ↔ o ∈ c.allOrders ∨ o ∈ c.ordersList ∨ o ∈ c.currentOrders ∨
      o ∈ c.pastOrders ∨ c.selectedOrder = some o := by
  simp only [copies, List.mem_append, Option.mem_toList, or_assoc]

def HomeController.copies (c : HomeController) : List Order := c.currentOrders ++ c.pastOrders

namespace OrderPolicy

variable {flow : StatusLists} (P : OrderPolicy flow)

def guard : Guard World Access Event := ⟨fun _ _ => True, P.access, fun _ _ => True⟩

def Copy (d : Device) (s : World) (o : Order) : Prop :=
  o.driverId = d.uid → ∀ id, o.orderID = some id → P.held d id s

/-- The delivery page shows its order as `d`'s own only if it is. -/
def MapCopy (d : Device) (s : World) (c : OrderDetailMapController) : Prop :=
  c.orderId = "" ∨ ∀ o, c.selectedOrder = some o → o.driverId = d.uid → P.held d c.orderId s

structure Inv (s : World) : Prop where
  orders : P.inv s
  keyed : Keyed s
  details : ∀ d, ∀ o ∈ (s.details d).copies, P.Copy d s o
  homes : ∀ d, ∀ o ∈ (s.homes d).copies, P.Copy d s o
  maps : ∀ d n c, s.maps (d, n) = some c → P.MapCopy d s c
  unopened : ∀ d n, s.mapsOpened ≤ n → s.maps (d, n) = none

def PagesKept (s t : World) : Prop :=
  ∀ page c, s.maps page = some c → ∃ c', t.maps page = some c' ∧ c'.orderId = c.orderId

def contract : Contract World Access where
  inv := P.Inv
  rel s t := P.rel s t ∧ PagesKept s t
  shows := P.shows
  refl s := ⟨P.refl s, fun _ c hc => ⟨c, hc, rfl⟩⟩
  trans h h' := by
    refine ⟨P.trans h.1 h'.1, fun page c hc => ?_⟩
    obtain ⟨c', hc', e⟩ := h.2 page c hc
    obtain ⟨c'', hc'', e'⟩ := h'.2 page c' hc'
    exact ⟨c'', hc'', e'.trans e⟩

def Allows (P : OrderPolicy flow) (A : World → Prop) {α : Type} (m : Program α) : Prop :=
  Spec P.contract P.guard A m (fun _ _ => True) fun _ _ => True

variable {P}

theorem Copy.later {d : Device} {o : Order} {s t : World} (hr : P.rel s t) (h : P.Copy d s o) :
    P.Copy d t o := fun hd id hid => P.held_later hr (h hd id hid)

theorem MapCopy.later {d : Device} {c : OrderDetailMapController} {s t : World}
    (hr : P.rel s t) (h : P.MapCopy d s c) : P.MapCopy d t c :=
  h.imp_right fun h o ho hd => P.held_later hr (h o ho hd)

theorem copies_later {d : Device} {l : List Order} {s t : World} (hr : P.rel s t)
    (h : ∀ o ∈ l, P.Copy d s o) : ∀ o ∈ l, P.Copy d t o := fun o ho => (h o ho).later hr

theorem Inv.later {s t : World} (h : P.Inv s) (hi : P.inv t ∧ P.rel s t) (hk : Keyed t)
    (hd : t.details = s.details) (hh : t.homes = s.homes) (hm : t.maps = s.maps)
    (hn : t.mapsOpened = s.mapsOpened) : P.Inv t ∧ P.contract.rel s t := by
  refine ⟨⟨hi.1, hk, fun d => ?_, fun d => ?_, fun d n c hc => ?_, fun d n h' => ?_⟩, hi.2,
    fun page c hc => ⟨c, hm ▸ hc, rfl⟩⟩
  · rw [hd]
    exact copies_later hi.2 (h.details d)
  · rw [hh]
    exact copies_later hi.2 (h.homes d)
  · rw [hm] at hc
    exact (h.maps d n c hc).later hi.2
  · rw [hm]
    exact h.unopened d n (hn ▸ h')

theorem Inv.frame {s t : World} (h : P.Inv s) (ho : t.orders = s.orders)
    (ht : t.timers = s.timers) (hd : t.details = s.details) (hh : t.homes = s.homes)
    (hm : t.maps = s.maps) (hn : t.mapsOpened = s.mapsOpened) :
    P.Inv t ∧ P.contract.rel s t :=
  h.later (P.frame ho ht h.orders) (by simpa only [Keyed, ho] using h.keyed) hd hh hm hn

theorem Inv.put {s : World} (h : P.Inv s) {id : String} {o : Order}
    (ho : ∀ i, o.orderID = some i → i = id)
    (hp : P.inv (s.putOrder id o) ∧ P.rel s (s.putOrder id o)) :
    P.Inv (s.putOrder id o) ∧ P.contract.rel s (s.putOrder id o) :=
  h.later hp (h.keyed.put ho) rfl rfl rfl rfl

theorem apply_orderID (l : Access) (o : Order) : (l.apply o).orderID = o.orderID := by
  cases l with
  | acceptStatus d id status isDriver => cases isDriver <;> rfl
  | _ => rfl

theorem Inv.write {s : World} (h : P.Inv s) {l : Access} {id : String} (hl : l.Sent flow)
    (ht : l.target = some id) (ha : P.access l s)
    (hd : ∀ d status, l = .deliveryStatus d id status d.uid → P.held d id s) :
    P.Inv (updateOrder id l.apply s).1 ∧ P.contract.rel s (updateOrder id l.apply s).1 := by
  unfold updateOrder
  cases ho : s.orders[id]? with
  | none => exact ⟨h, P.contract.refl s⟩
  | some o =>
    refine h.put (fun i hi => ?_) (P.write hl ht ha hd h.orders ho)
    rw [apply_orderID] at hi
    exact h.keyed id o ho i hi

theorem plain (P : OrderPolicy flow) (s : World) (_ : P.Inv s) : P.contract.shows .plain s :=
  P.shows_other _ s fun _ _ h => by cases h

theorem keepsPlacing (P : OrderPolicy flow) (ids : IdSupply) :
    KeepsPlacing flow ids P.contract where
  plain := P.plain
  pages _ _ hs := hs.frame rfl rfl rfl rfl rfl rfl
  carts _ _ hs := hs.frame rfl rfl rfl rfl rfl rfl
  autoIds _ hs := hs.frame rfl rfl rfl rfl rfl rfl
  requests _ _ hs := hs.frame rfl rfl rfl rfl rfl rfl
  validations _ _ hs := hs.frame rfl rfl rfl rfl rfl rfl
  audits _ _ hs := hs.frame rfl rfl rfl rfl rfl rfl
  shows l s _ hl _ := P.shows_other l s fun page id h => by
    subst h
    cases hl
  posts d o s _ := P.shows_other _ s fun _ _ h => by cases h
  stock farmerId productId _ _ :=
    keeps_updateFarmProduct (C := P.contract) (fun _ _ hs => Inv.frame hs rfl rfl rfl rfl rfl rfl)
      farmerId productId _
  deletes := keeps_deleteProductDoc (C := P.contract) fun _ _ hs =>
    Inv.frame hs rfl rfl rfl rfl rfl rfl
  add o hstatus hdriver hrejected horderID s hs := by
    have hfree := newId_free ids s
    obtain ⟨hi, hr⟩ := Inv.put hs (fun i hi => by rw [horderID] at hi; cases hi)
      (P.add hstatus hdriver hrejected hfree hs.orders)
    obtain ⟨hi', hr'⟩ := hi.frame (t := (addOrder ids o s).1) rfl rfl rfl rfl rfl rfl
    exact ⟨hi', P.contract.trans hr hr'⟩
  setID id s hs := by
    simp only [updateOrder]
    split
    · rename_i o ho
      exact Inv.put hs (fun i hi => (Option.some.inj hi).symm) (P.setID ho hs.orders)
    · exact P.contract.keeps_id s hs

section Pages

open OrdersController

variable {A : World → Prop} (d : Device)

theorem spec_get {α : Type} {f : World → α} {Q : α → World → Prop}
    (hq : ∀ s, P.Inv s → Q (f s) s) (later : ∀ a s t, P.rel s t → Q a s → Q a t) :
    Spec P.contract P.guard A (get f) Q fun _ _ => True :=
  .call (fun _ t _ _ ht _ _ => ⟨P.plain t ht, ht, P.contract.refl t, fun u _ hr =>
    later _ t u hr.1 (hq t ht)⟩) fun _ _ _ _ _ _ _ _ _ _ => trivial

theorem stored_copy {s : World} (h : P.Inv s) {id : String} {o : Order}
    (ho : s.orders[id]? = some o) : P.Copy d s o := by
  intro hd i hi
  obtain rfl := h.keyed id o ho i hi
  exact P.own h.orders ho hd

theorem copy_of_query {s : World} (h : P.Inv s) {fieldName : OrderField} {uid : String} {o : Order}
    (ho : o ∈ queryOrders fieldName uid s) : P.Copy d s o := by
  simp only [queryOrders, List.mem_insertionSort, List.mem_filter, List.mem_map] at ho
  obtain ⟨⟨doc, hdoc, rfl⟩, -⟩ := ho
  exact stored_copy d h (Std.TreeMap.mem_toList_iff_getElem?_eq_some.1 hdoc)

theorem spec_query {fieldName : OrderField} {uid : String} :
    Spec P.contract P.guard A (fetchOrders fieldName uid)
      (fun r s => ∀ o ∈ r.getD [], P.Copy d s o) fun _ _ => True := by
  refine .tryCatch (F := fun _ _ => True) (.bind (R := fun docs s => ∀ o ∈ docs, P.Copy d s o)
    (spec_get (fun s hs o ho => copy_of_query d hs ho) fun _ _ _ hr => copies_later hr)
    fun docs => ?_) fun _ => .pure fun _ _ o ho => by cases ho
  split
  · exact .pure fun _ h => h
  · exact .pure fun _ _ o ho => by cases ho

theorem spec_fetchOrdersWithDriverId {uid : String} :
    Spec P.contract P.guard A (fetchOrdersWithDriverId uid)
      (fun r s => ∀ o ∈ r.getD [], P.Copy d s o) fun _ _ => True :=
  spec_query d

def Shown (P : OrderPolicy flow) (d : Device) (id : String) (r : Option Order) (s : World) : Prop :=
  ∀ o, r = some o → P.Copy d s o ∧ (o.driverId = d.uid → P.held d id s)

theorem spec_getOrderById {id : String} :
    Spec P.contract P.guard A (getOrderById id) (P.Shown d id) fun _ _ => True := by
  refine .tryCatch (F := fun _ _ => True) (.bind (R := fun _ _ => True)
    (quiet_checkPath id).spec fun _ => spec_get (fun s hs o ho => ?_) fun _ _ _ hr h o ho =>
      ?_) fun _ => .pure fun _ _ o ho => by cases ho
  · exact ⟨stored_copy d hs ho, P.own hs.orders ho⟩
  · exact ⟨(h o ho).1.later hr, fun hd => P.held_later hr ((h o ho).2 hd)⟩

theorem spec_fetchOrderDetailsById {id : String} :
    Spec P.contract P.guard A (fetchOrderDetailsById id) (P.Shown d id) fun _ _ => True :=
  spec_getOrderById d

theorem allows_setDetails {f : OrdersController → OrdersController}
    (hf : ∀ s, P.Inv s → A s → ∀ o ∈ (f (s.details d)).copies, P.Copy d s o) :
    P.Allows A (setDetails d f) := by
  refine .change fun s hs hp => ?_
  have hi := P.frame (s := s) (t := s.setDetails d f) rfl rfl hs.orders
  refine ⟨⟨hi.1, hs.keyed, fun d' => ?_, fun d' => copies_later hi.2 (hs.homes d'),
    fun d' n c hc => (hs.maps d' n c hc).later hi.2, hs.unopened⟩,
    ⟨hi.2, fun _ c hc => ⟨c, hc, rfl⟩⟩, trivial⟩
  refine copies_later hi.2 ?_
  simp only [World.setDetails, Function.update_apply]
  split
  case isTrue e => exact e ▸ hf s hs hp
  case isFalse => exact hs.details d'

theorem allows_sameDetails {f : OrdersController → OrdersController}
    (hf : ∀ c, (f c).copies ⊆ c.copies) : P.Allows A (setDetails d f) :=
  allows_setDetails d fun _ hs _ o ho => hs.details d o (hf _ ho)

theorem allows_setHome {f : HomeController → HomeController}
    (hf : ∀ s, P.Inv s → A s → ∀ o ∈ (f (s.homes d)).copies, P.Copy d s o) :
    P.Allows A (setHome d f) := by
  refine .change fun s hs hp => ?_
  have hi := P.frame (s := s) (t := s.setHome d f) rfl rfl hs.orders
  refine ⟨⟨hi.1, hs.keyed, fun d' => copies_later hi.2 (hs.details d'), fun d' => ?_,
    fun d' n c hc => (hs.maps d' n c hc).later hi.2, hs.unopened⟩,
    ⟨hi.2, fun _ c hc => ⟨c, hc, rfl⟩⟩, trivial⟩
  refine copies_later hi.2 ?_
  simp only [World.setHome, Function.update_apply]
  split
  case isTrue e => exact e ▸ hf s hs hp
  case isFalse => exact hs.homes d'

theorem allows_setMap {n : ℕ} {f : OrderDetailMapController → OrderDetailMapController}
    (hid : ∀ c, (f c).orderId = c.orderId)
    (hf : ∀ s c, A s → s.maps (d, n) = some c → P.MapCopy d s c → P.MapCopy d s (f c)) :
    P.Allows A (setMap (d, n) f) := by
  refine .change fun s hs hp => ?_
  have hi := P.frame (s := s) (t := s.setMap (d, n) f) rfl rfl hs.orders
  refine ⟨⟨hi.1, hs.keyed, fun d' => copies_later hi.2 (hs.details d'),
    fun d' => copies_later hi.2 (hs.homes d'), fun d' m c hc => ?_, fun d' m h => ?_⟩,
    ⟨hi.2, fun page c hc => ?_⟩, trivial⟩
  · simp only [World.setMap, Function.update_apply] at hc
    split at hc
    case isTrue e =>
      obtain ⟨rfl, rfl⟩ := Prod.mk.inj e
      obtain ⟨c', hc', rfl⟩ := Option.map_eq_some_iff.1 hc
      exact (hf s c' hp hc' (hs.maps _ _ c' hc')).later hi.2
    case isFalse => exact (hs.maps d' m c hc).later hi.2
  · simp only [World.setMap, Function.update_apply]
    split
    case isTrue e => rw [← e, hs.unopened d' m h, Option.map_none]
    case isFalse => exact hs.unopened d' m h
  · simp only [World.setMap, Function.update_apply]
    split
    case isTrue e => exact ⟨f c, by rw [← e, hc, Option.map_some], hid c⟩
    case isFalse => exact ⟨c, hc, rfl⟩

theorem allows_caught {m : Program Unit} {id : String} (h : id ≠ "" → P.Allows A m) :
    P.Allows A (MonadExcept.tryCatch (checkPath id >>= fun _ => m) fun _ => pure ()) := by
  refine .tryCatch (F := fun _ _ => True) ?_ fun _ => .pure fun _ _ => trivial
  unfold checkPath
  split
  case isTrue =>
    exact (Spec.throw fun _ _ => trivial :
      P.Allows A (throw DartError.argument : Program Unit))
  case isFalse hid => exact h hid

theorem allows_bind_statusAt {α : Type} {list : List String} {i : ℕ} {f : String → Program α}
    (h : ∀ status, list[i]? = some status → P.Allows A (f status)) :
    P.Allows A (statusAt list i >>= f) := by
  unfold statusAt
  split
  · rename_i status hstatus
    exact h status hstatus
  · exact (Spec.throw fun _ _ => trivial : P.Allows A (throw DartError.range : Program α))

theorem allows_getOrdersList (fieldName : OrderField) (uid : String) :
    P.Allows A (getOrdersList flow d fieldName uid) := by
  refine .bind (R := fun _ _ => True) (allows_sameDetails d fun c o ho => ?_) fun _ =>
    .tryCatch (F := fun _ _ => True) (.bind (spec_query d) fun r => ?_) fun _ =>
      .pure fun _ _ => trivial
  · simp only [mem_copies, List.not_mem_nil, false_or] at ho ⊢
    exact .inr (.inr ho)
  cases r with
  | none => exact .pure fun _ _ => trivial
  | some response =>
    refine .bind (R := fun _ s => True ∧ ∀ o ∈ response, P.Copy d s o)
      (.keeping (allows_setDetails d fun s hs hr o ho => ?_) (fun s hr => hr)
        fun _ _ hr => copies_later hr.1) fun _ => .bind (R := fun _ s => ∀ o ∈ response, P.Copy d s o)
        (.look fun s _ h => h.2) fun page => ?_
    · rcases mem_copies.1 ho with ho | ho
      · exact hr o ho
      · exact hs.details d o (mem_copies.2 (.inr ho))
    have add : ∀ l : List Order, l ⊆ response →
        P.Allows (fun s => ∀ o ∈ response, P.Copy d s o)
          (setDetails d fun c => { c with ordersList := c.ordersList ++ l }) := fun l hl =>
      allows_setDetails d fun s hs hr o ho => by
        rcases mem_copies.1 ho with ho | ho | ho
        · exact hs.details d o (mem_copies.2 (.inl ho))
        · rcases List.mem_append.1 ho with ho | ho
          · exact hs.details d o (mem_copies.2 (.inr (.inl ho)))
          · exact hr o (hl ho)
        · exact hs.details d o (mem_copies.2 (.inr (.inr ho)))
    split
    · split
      · exact allows_bind_statusAt fun _ _ => add _ (List.filter_subset_self _)
      · exact .pure fun _ _ => trivial
    · refine allows_setDetails d fun s hs hr o ho => ?_
      rcases mem_copies.1 ho with ho | ho | ho
      · exact hs.details d o (mem_copies.2 (.inl ho))
      · exact hr o ho
      · exact hs.details d o (mem_copies.2 (.inr (.inr ho)))

theorem allows_fetchDriverOrders : P.Allows A (fetchDriverOrders d) := by
  refine .tryCatch (F := fun _ _ => True) (.bind (R := fun _ _ => True)
    (allows_sameDetails d fun c o ho => ?_) fun _ => .bind (spec_fetchOrdersWithDriverId d)
      fun r => .bind (R := fun _ _ => True) (allows_setDetails d fun s hs hr o ho => ?_)
        fun _ => allows_sameDetails d fun c o ho => ho) fun _ => .pure fun _ _ => trivial
  · simp only [mem_copies, List.not_mem_nil, false_or] at ho ⊢
    grind
  · have hold := hs.details d
    simp only [mem_copies, List.mem_append, List.mem_filter] at ho hold
    grind

theorem allows_getOrders : P.Allows A (getOrders flow d) := by
  have load := fun fieldName uid =>
    allows_getOrdersList (P := P) (A := fun _ => True) d fieldName uid
  unfold getOrders
  split
  · exact .bind (R := fun _ _ => True)
      (.spawn (fun s hs _ => (load _ _).safe hs trivial) fun _ _ _ _ _ => trivial) fun _ =>
        .spawn (fun s hs _ => (allows_fetchDriverOrders (A := fun _ => True) d).safe hs trivial)
          fun _ _ _ _ _ => trivial
  · exact .spawn (fun s hs _ => (load _ _).safe hs trivial) fun _ _ _ _ _ => trivial

theorem allows_reloadOrders : P.Allows A (reloadOrders flow d) := by
  have load := fun fieldName uid =>
    allows_getOrdersList (P := P) (A := fun _ => True) d fieldName uid
  unfold reloadOrders
  split
  · exact .spawn (fun s hs _ => (load _ _).safe hs trivial) fun _ _ _ _ _ => trivial
  · exact .spawn (fun s hs _ => (load _ _).safe hs trivial) fun _ _ _ _ _ => trivial

theorem allows_sortDriverFarmerAcceptReject :
    P.Allows A (sortDriverFarmerAcceptReject flow d) := by
  refine .bind (R := fun page s => ∀ o, page.selectedOrder = some o → P.Copy d s o)
    (.look fun s hs _ o ho => hs.details d o (mem_copies.2 (by simp [ho]))) fun page => ?_
  have buttons : ∀ {A : World → Prop} (accept reject : Bool), P.Allows A
      (setDetails d fun c => { c with showAcceptBtn := accept, showRejectBtn := reject }) :=
    fun _ _ => allows_sameDetails d fun c o ho => ho
  split
  · rename_i order horder
    split
    · refine allows_setDetails d fun s hs hc o ho => ?_
      have hold := hs.details d
      rcases mem_copies.1 ho with ho | ho | ho | ho | ho
      · exact hold o (mem_copies.2 (.inl ho))
      · exact hold o (mem_copies.2 (.inr (.inl ho)))
      · exact hold o (mem_copies.2 (.inr (.inr (.inl ho))))
      · exact hold o (mem_copies.2 (.inr (.inr (.inr (.inl ho)))))
      · cases ho
        exact hc order horder
    · split
      · unfold statusLast
        split
        · exact buttons _ _
        · exact (Spec.throw fun _ _ => trivial : P.Allows _ (throw DartError.state : Program Unit))
      · split
        · exact allows_bind_statusAt fun _ _ => buttons _ _
        · exact .pure fun _ _ => trivial
  · exact .pure fun _ _ => trivial

theorem allows_navigateToDetailsPage {order : Order}
    (ho : ∀ s, P.Inv s → A s → P.Copy d s order) :
    P.Allows A (navigateToDetailsPage flow d order) := by
  refine .bind (R := fun _ _ => True) (allows_setDetails d fun s hs hp o hm => ?_) fun _ =>
    .spawn (fun s hs _ => (allows_sortDriverFarmerAcceptReject (A := fun _ => True) d).safe hs
      trivial) fun _ _ _ _ _ => trivial
  have hold := hs.details d
  rcases mem_copies.1 hm with hm | hm | hm | hm | hm
  · exact hold o (mem_copies.2 (.inl hm))
  · exact hold o (mem_copies.2 (.inr (.inl hm)))
  · exact hold o (mem_copies.2 (.inr (.inr (.inl hm))))
  · exact hold o (mem_copies.2 (.inr (.inr (.inr (.inl hm)))))
  · cases hm
    exact ho s hs hp

theorem allows_selectOrder (history : Bool) (index : ℕ) :
    P.Allows A (selectOrder flow d history index) := by
  refine .bind (R := fun page s => ∀ o ∈ page.copies, P.Copy d s o)
    (.look fun s hs _ => hs.details d) fun page => ?_
  split
  · rename_i order horder
    refine allows_navigateToDetailsPage d fun s _ hc => hc order (mem_copies.2 ?_)
    split at horder
    · exact .inr (.inr (.inr (.inl (List.mem_of_getElem? horder))))
    · exact .inr (.inl (List.mem_of_getElem? horder))
  · exact .pure fun _ _ => trivial

theorem allows_openNotification (orderId : String) :
    P.Allows A (openNotification flow d orderId) := by
  unfold openNotification
  split
  · exact .pure fun _ _ => trivial
  · refine .bind (spec_fetchOrderDetailsById d) fun r => ?_
    cases r with
    | some order => exact allows_navigateToDetailsPage d fun s _ h => (h order rfl).1
    | none => exact .pure fun _ _ => trivial

theorem allows_write {l : Access} {id : String} (hl : l.Sent flow) (ht : l.target = some id)
    (hd : ∀ s d status, A s → l = .deliveryStatus d id status d.uid → P.held d id s) :
    P.Allows A (call l (updateOrder id l.apply) .firestore) := by
  refine .call (fun s t hs hp hti hr ha => ?_) fun _ _ _ _ _ _ _ _ _ _ => trivial
  obtain ⟨hi, hr'⟩ := Inv.write hti hl ht ha fun d' status e =>
    P.held_later hr.1 (hd s d' status hp e)
  refine ⟨P.shows_other _ _ fun page i e => ?_, hi, hr', fun u _ _ => by split <;> trivial⟩
  subst e
  cases hl

theorem allows_acceptStatus {id status : String} {isDriver : Bool}
    (hl : (Access.acceptStatus d id status isDriver).Sent flow) :
    P.Allows A
      (updateOrderStatus (.acceptStatus d id status isDriver) d.uid id status isDriver) := by
  refine allows_caught fun _ => ?_
  have h := allows_write (P := P) (A := A) hl rfl fun _ _ _ _ e => by cases e
  cases isDriver with
  | true => exact h
  | false => exact h

theorem allows_rejectButton {id : String} :
    P.Allows A (rejectOrder (.rejectButton d id) id) :=
  allows_caught fun _ => allows_write (l := .rejectButton d id) trivial rfl fun _ _ _ _ e => by
    cases e

theorem allows_hideButtons : P.Allows A (hideButtons d) :=
  allows_sameDetails d fun _ _ ho => ho

theorem allows_acceptBtnClick {status : String} {isDriver : Bool}
    (hl : ∀ id, (Access.acceptStatus d id status isDriver).Sent flow) :
    P.Allows A (acceptBtnClick flow d status isDriver) :=
  .bind (R := fun _ _ => True) (quiet_selectedId d).spec fun id =>
    .bind (R := fun _ _ => True) (allows_acceptStatus d (hl id)) fun _ =>
      .bind (R := fun _ _ => True) (allows_hideButtons d) fun _ => allows_reloadOrders d

theorem allows_rejectBtnClick : P.Allows A (rejectBtnClick flow d) :=
  .bind (R := fun _ _ => True) (quiet_selectedId d).spec fun _ =>
    .bind (R := fun _ _ => True) (allows_rejectButton d) fun _ =>
      .bind (R := fun _ _ => True) (allows_hideButtons d) fun _ => allows_reloadOrders d

theorem allows_pressReject : P.Allows A (pressReject flow d) := by
  refine .bind (R := fun _ _ => True) (.look fun _ _ _ => trivial) fun page => ?_
  split
  · exact .bind (R := fun _ _ => True) (allows_rejectBtnClick d) fun _ =>
      .spawn (fun s hs _ => (allows_getOrdersList (A := fun _ => True) d _ _).safe hs trivial)
        fun _ _ _ _ _ => trivial
  · exact .pure fun _ _ => trivial

theorem shown_mapCopy {s : World} {c : OrderDetailMapController} {r : Option Order}
    (hr : P.Shown d c.orderId r s) : P.MapCopy d s (showOnMap flow r c) :=
  .inr fun o ho hd => (hr o ho).2 hd

def OnOrder (page : Device × ℕ) (id : String) (s : World) : Prop :=
  ∃ c, s.maps page = some c ∧ c.orderId = id

theorem OnOrder.later {page : Device × ℕ} {id : String} {s t : World}
    (hr : P.contract.rel s t) (h : OnOrder page id s) : OnOrder page id t := by
  obtain ⟨c, hc, rfl⟩ := h
  exact hr.2 page c hc

theorem allows_showOnMap {n : ℕ} {id : String} {r : Option Order} :
    P.Allows (fun s => P.Shown d id r s ∧ OnOrder (d, n) id s)
      (setMap (d, n) (showOnMap flow r)) := by
  refine allows_setMap d (fun _ => rfl) fun s c hp hc _ => ?_
  obtain ⟨c', hc', rfl⟩ := hp.2
  obtain rfl := Option.some.inj (hc.symm.trans hc')
  exact shown_mapCopy d hp.1

theorem allows_loadMapOrder (n : ℕ) {id : String} (hp : ∀ s, A s → OnOrder (d, n) id s) :
    P.Allows A (loadMapOrder flow (d, n) id) := by
  refine .tryCatch (F := fun _ _ => True) (.bind
    ((spec_fetchOrderDetailsById d).keeping hp fun _ _ => OnOrder.later) fun r => ?_)
    fun _ => .pure fun _ _ => trivial
  cases r with
  | some order => exact allows_showOnMap d
  | none => exact .pure fun _ _ => trivial

theorem mapOrderId_copy {s : World} {order : Option Order}
    (ho : ∀ o, order = some o → P.Copy d s o) :
    P.MapCopy d s { selectedOrder := order, orderId := mapOrderId order } := by
  cases hid : order.bind (·.orderID) with
  | none => exact .inl (by simp only [mapOrderId, hid, Option.getD_none])
  | some id =>
    obtain ⟨o, rfl, hid'⟩ := Option.bind_eq_some_iff.1 hid
    refine .inr fun o' ho' hd => ?_
    obtain rfl := Option.some.inj ho'
    simpa only [mapOrderId, hid, Option.getD_some] using ho o rfl hd id hid'

theorem Inv.newMap {s : World} (h : P.Inv s) {order : Option Order}
    (ho : ∀ o, order = some o → P.Copy d s o) :
    P.Inv (newMap d order s) ∧ P.contract.rel s (newMap d order s) := by
  obtain ⟨hi, hr⟩ := P.frame (s := s) (t := OrdersController.newMap d order s) rfl rfl h.orders
  refine ⟨⟨hi, h.keyed, fun d' => copies_later hr (h.details d'),
    fun d' => copies_later hr (h.homes d'), fun d' n c hc => ?_, fun d' n hn => ?_⟩, hr,
    fun page c hc => ?_⟩
  · simp only [OrdersController.newMap, Function.update_apply] at hc
    split at hc
    case isTrue e =>
      cases e
      cases hc
      exact (mapOrderId_copy d ho).later hr
    case isFalse => exact (h.maps d' n c hc).later hr
  · change s.mapsOpened + 1 ≤ n at hn
    simp only [OrdersController.newMap, Function.update_apply]
    split
    case isTrue e =>
      cases e
      omega
    case isFalse => exact h.unopened d' n (by omega)
  · simp only [OrdersController.newMap, Function.update_apply]
    split
    case isTrue e =>
      rw [e, h.unopened d _ (Nat.le_refl _)] at hc
      cases hc
    case isFalse => exact ⟨c, hc, rfl⟩

theorem allows_openMap {order : Option Order}
    (ho : ∀ s, P.Inv s → A s → ∀ o, order = some o → P.Copy d s o) :
    P.Allows A (openMap flow d order) := by
  refine .bind (R := fun page s => page.1 = d ∧
      OnOrder page (mapOrderId order) s) (.seg fun s hs hp => ?_) fun page => ?_
  · obtain ⟨hi, hr⟩ := Inv.newMap d hs (ho s hs hp)
    exact ⟨hi, hr, rfl, _, Function.update_self .., rfl⟩
  obtain ⟨d', n⟩ := page
  refine .bind (R := fun _ _ => d' = d) (.spawn (fun s hs hp => ?_) fun s t hp _ _ => hp.1)
    fun _ => ?_
  · obtain rfl : d' = d := hp.1
    exact (allows_loadMapOrder (A := OnOrder (d', n) _) d' n fun s h => h).safe hs hp.2
  · by_cases hd : d' = d
    · subst hd
      exact allows_setMap d' (fun _ => rfl) fun s c _ _ h => h
    · exact fun k h s hs hp => absurd hp hd

theorem allows_openHomeOrder (past : Bool) (index : ℕ) :
    P.Allows A (openHomeOrder flow d past index) := by
  refine .bind (R := fun home s => ∀ o ∈ home.copies, P.Copy d s o)
    (.look fun s hs _ => hs.homes d) fun home => ?_
  split
  · rename_i order horder
    refine allows_openMap d fun s _ hc o ho => hc o (List.mem_append.2 ?_)
    cases ho
    split at horder
    · exact .inr (List.mem_of_getElem? horder)
    · exact .inl (List.mem_of_getElem? horder)
  · exact .pure fun _ _ => trivial

theorem allows_pressAccept : P.Allows A (pressAccept flow d) := by
  refine .bind (R := fun _ _ => True) (.look fun _ _ _ => trivial) fun page => ?_
  split
  · split
    · exact allows_bind_statusAt fun status hstatus =>
        .bind (R := fun _ _ => True) (allows_acceptBtnClick d fun _ => hstatus) fun _ =>
          allows_reloadOrders d
    · exact allows_bind_statusAt fun status hstatus =>
        .bind (R := fun _ _ => True) (allows_acceptBtnClick d fun _ => hstatus) fun _ =>
          .bind (R := fun page s => ∀ o, page.selectedOrder = some o → P.Copy d s o)
            (.look fun s hs _ o ho => hs.details d o (mem_copies.2 (by simp [ho])))
            fun page => allows_openMap d fun s _ hc => hc
  · exact .pure fun _ _ => trivial

theorem allows_deliveryStatus {id status shown : String} (hl : status ∈ flow.driver)
    (hd : ∀ s, A s → shown = d.uid → id = "" ∨ P.held d id s) :
    P.Allows A (updateOrderStatus (.deliveryStatus d id status shown) d.uid id status true) := by
  refine allows_caught fun hid =>
    allows_write (l := .deliveryStatus d id status shown) hl rfl fun s d' status' hp e => ?_
  cases e
  exact (hd s hp rfl).resolve_left hid

theorem allows_updateDeliveryStatus (n : ℕ) {c : OrderDetailMapController} {status : String}
    (hl : status ∈ flow.driver) (hp : ∀ s, A s → P.MapCopy d s c ∧ OnOrder (d, n) c.orderId s) :
    P.Allows A (updateDeliveryStatus flow d (d, n) c status) := by
  have write : P.Allows A (updateOrderStatus
      (.deliveryStatus d c.orderId status (shownDriver c)) d.uid c.orderId status true) :=
    allows_deliveryStatus d hl fun s hs hshown => (hp s hs).1.imp_right fun h => by
      unfold shownDriver at hshown
      split at hshown
      · rename_i o ho
        exact h o ho hshown
      · exact absurd hshown.symm d.uid.2
  refine .bind (write.keeping (fun s hs => (hp s hs).2) fun _ _ => OnOrder.later) fun _ =>
    .bind (((spec_getOrderById d).keeping (fun s hs => hs.2) fun _ _ => OnOrder.later)) fun r =>
      .bind (R := fun _ _ => True) (allows_showOnMap d) fun _ =>
        allows_setMap d (fun _ => rfl) fun s c _ _ h => h

theorem allows_fetchHomeOrders : P.Allows A (fetchHomeOrders d) := by
  refine .bind (R := fun _ _ => True) (allows_setHome d fun s hs _ o ho => by cases ho) fun _ =>
    .bind (spec_fetchOrdersWithDriverId d) fun r =>
      .bind (R := fun _ _ => True) (allows_setHome d fun s hs hr o ho => ?_) fun _ =>
        allows_setHome d fun s hs _ => hs.homes d
  have hold := hs.homes d
  simp only [HomeController.copies, List.mem_append, List.mem_filter] at ho hold
  grind

theorem allows_tapStatus (page index : ℕ) : P.Allows A (tapStatus flow d page index) := by
  refine .bind (R := fun r s => ∀ c, r = some c → P.MapCopy d s c ∧ OnOrder (d, page) c.orderId s)
    (.look fun s hs _ c hc => ⟨hs.maps d page c hc, c, hc, rfl⟩) fun r => ?_
  split
  · rename_i c status hstatus
    split
    · exact .bind (R := fun _ _ => True) (allows_updateDeliveryStatus d page
        (List.mem_of_getElem? hstatus) fun s h => h c rfl) fun _ => allows_fetchHomeOrders d
    · exact .pure fun _ _ => trivial
  · exact .pure fun _ _ => trivial

end Pages

theorem handler_safe (P : OrderPolicy flow) (ids : IdSupply)
    (timers : ∀ e : Event, e.OfTimer → P.Allows (fun _ => True) (program flow ids e))
    (e : Event) (s : World) (hs : P.Inv s) :
    (handler flow ids e).Safe P.contract P.guard s := by
  have placing := keepsPlacing P ids
  have carts := placing.toKeepsCarts
  suffices P.Allows (fun _ => True) (program flow ids e) from this.safe hs trivial
  cases e with
  | openTimer page orderId | tick page | closeTimer page => exact timers _ trivial
  | openOrders d => exact allows_getOrders d
  | selectOrder d history index => exact allows_selectOrder d history index
  | openNotification d orderId => exact allows_openNotification d orderId
  | leaveDetails d => exact allows_sameDetails d fun _ _ ho => ho
  | pressAccept d => exact allows_pressAccept d
  | pressReject d => exact allows_pressReject d
  | openHome d => exact allows_fetchHomeOrders d
  | openHomeOrder d past index => exact allows_openHomeOrder d past index
  | toggleSteps d page => exact allows_setMap d (fun _ => rfl) fun _ _ _ _ h => h
  | tapStatus d page index => exact allows_tapStatus d page index
  | openCart d farmerId => exact (quiet_getCartProducts carts d farmerId).spec
  | addToCart d product =>
    exact (Quiet.bind (quiet_setRequest carts d.uid product _) fun _ =>
      .bind (quiet_addToCart carts ids d product) fun _ =>
        quiet_setRequest carts d.uid product _).spec
  | updateQuantity d product quantity =>
    exact (Quiet.bind (quiet_setRequest carts d.uid product _) fun _ =>
      .bind (quiet_updateQuantity carts d product quantity) fun _ =>
        quiet_setRequest carts d.uid product _).spec
  | pickDate d date => exact (quiet_setPage carts.toKeepsPages d _).spec
  | pickTime d time => exact (quiet_setPage carts.toKeepsPages d _).spec
  | pickPayment d paymentMethod => exact (quiet_setPage carts.toKeepsPages d _).spec
  | placeOrder d => exact (quiet_placeOrder placing d).spec
  | editProduct d form => exact (quiet_editProduct placing.toKeepsProducts d form).spec
  | deleteProduct d productId =>
    exact (quiet_deleteProduct placing.toKeepsProducts d productId).spec
  | clock now =>
    exact Quiet.spec (C := P.contract) (.change fun s hs =>
      Inv.frame (t := { s with now := now }) hs rfl rfl rfl rfl rfl rfl)

end OrderPolicy

end Gherass
