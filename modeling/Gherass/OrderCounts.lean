import Gherass.EventLoopLedger
import Gherass.OrderPlacement
import Gherass.OrderRules
import Gherass.ListSums
import Mathlib.Data.Int.ConditionallyCompleteOrder
import Mathlib.Order.ConditionallyCompleteLattice.Indexed

set_option autoImplicit false

/-!
# No order without a press

Each press of the order button brings an allowance of one order. It is used where the order is
added, and given up where the program stops before that.
-/
namespace Gherass

open EventLoop EventLoop.Async FirebaseHelper ListSums

def Order.inNameOf (uid : Uid) (o : Order) : ℤ := if o.customerId = uid then 1 else 0

/-- How many orders are stored in a customer's name. -/
def World.ordersOf (w : World) (uid : Uid) : ℤ :=
  (w.orders.toList.map fun o => o.2.inNameOf uid).sum

/-- The presses of a customer's order button, on any device. -/
def presses (uid : Uid) : List (Move Event) → ℤ
  | [] => 0
  | .start (.placeOrder d) :: ms => (if d.uid = uid then 1 else 0) + presses uid ms
  | _ :: ms => presses uid ms

def sameOrderCount (uid : Uid) : Contract World Access := .ofFrame fun w => w.ordersOf uid

variable {uid : Uid}

theorem updateOrder_ordersOf {f : Order → Order} (hf : ∀ o, (f o).customerId = o.customerId)
    (id : String) (w : World) : (updateOrder id f w).1.ordersOf uid = w.ordersOf uid := by
  unfold updateOrder
  split
  · rename_i o ho
    exact sum_toList_same (fun o : Order => o.inNameOf uid) ho (by simp only [Order.inNameOf, hf])
  · rfl

theorem apply_customerId (l : Access) (o : Order) : (l.apply o).customerId = o.customerId := by
  cases l with
  | acceptStatus d id status isDriver => cases isDriver <;> rfl
  | _ => rfl

theorem keepsStaff_sameOrderCount : KeepsStaff (sameOrderCount uid) where
  plain _ _ := trivial
  shows _ _ _ _ := trivial
  details _ _ _ := ⟨trivial, rfl⟩
  homes _ _ _ := ⟨trivial, rfl⟩
  maps _ _ _ _ := ⟨trivial, rfl⟩
  writes l id s _ := ⟨trivial, updateOrder_ordersOf (apply_customerId l) id s⟩

theorem keepsTimers_sameOrderCount : KeepsTimers (sameOrderCount uid) where
  shows _ _ _ _ := trivial
  timers _ _ _ := ⟨trivial, rfl⟩
  rejects id s _ := ⟨trivial,
    updateOrder_ordersOf (f := fun o => { o with isRejected := true }) (fun _ => rfl) id s⟩

theorem keepsCarts_sameOrderCount : KeepsCarts (sameOrderCount uid) where
  plain _ _ := trivial
  pages _ _ _ := ⟨trivial, rfl⟩
  carts _ _ _ := ⟨trivial, rfl⟩
  shows _ _ _ _ _ := trivial
  autoIds _ _ := ⟨trivial, rfl⟩
  requests _ _ _ := ⟨trivial, rfl⟩
  validations _ _ _ := ⟨trivial, rfl⟩

theorem keepsStock_sameOrderCount : KeepsStock (sameOrderCount uid) where
  plain _ _ := trivial
  shows _ _ _ _ _ := trivial
  audits _ _ _ := ⟨trivial, rfl⟩
  stock farmerId productId _ _ :=
    keeps_updateFarmProduct (fun _ _ _ => ⟨trivial, rfl⟩) farmerId productId _
  deletes := keeps_deleteProductDoc fun _ _ _ => ⟨trivial, rfl⟩

theorem addOrder_ordersOf (ids : IdSupply) (o : Order) (w : World) :
    (addOrder ids o w).1.ordersOf uid = o.inNameOf uid + w.ordersOf uid :=
  sum_toList_fresh (fun o : Order => o.inNameOf uid) o (newId_free ids w)

def Event.allowance (uid : Uid) : Event → ℤ
  | .placeOrder d => if d.uid = uid then 1 else 0
  | _ => 0

theorem Event.allowance_nonneg (uid : Uid) (e : Event) : 0 ≤ e.allowance uid := by
  cases e with
  | placeOrder d =>
    change (0 : ℤ) ≤ if d.uid = uid then 1 else 0
    split
    · omega
    · omega
  | _ => exact le_rfl

def orderLedger (uid : Uid) (initial : ℤ) : Ledger World Event ℤ where
  charge := Event.allowance uid
  inv s used := s.ordersOf uid ≤ initial + used
  rel _ _ := True
  refl _ := trivial
  trans _ _ := trivial

variable {initial : ℤ}

theorem charged_presses (ms : List (Move Event)) :
    (orderLedger uid initial).charged ms = presses uid ms := by
  induction ms with
  | nil => rfl
  | cons m ms ih =>
    cases m with
    | start e =>
      cases e with
      | placeOrder d => exact congrArg _ ih
      | _ => exact (zero_add _).trans ih
    | serve | lose | resume => exact ih

theorem orderLedger_covers : (orderLedger uid initial).Covers (sameOrderCount uid) where
  inv _ _ _ := trivial
  paid s t p hr _ hs := by
    change t.ordersOf uid = s.ordersOf uid at hr
    change t.ordersOf uid ≤ initial + p
    rw [hr]
    exact hs
  rel _ _ _ := trivial

theorem more_used (s : World) (p q : ℤ) (hs : (orderLedger uid initial).inv s p) (hpq : p ≤ q) :
    (orderLedger uid initial).inv s q :=
  hs.trans (add_le_add le_rfl hpq)

section Placing

open MyCartController

variable {g : Guard World Access Event} {flow : StatusLists} {ids : IdSupply} {d : Device} {n : ℤ}
  {E : DartError → ℤ → World → Prop}

theorem pays_fetchTotalQty (product : Product) :
    Pays (orderLedger uid initial) g (fun a _ => a = n) (fetchTotalQty product)
      (fun _ a _ => a = n) E := by
  have plain : ∀ s, (sameOrderCount uid).inv s → (sameOrderCount uid).shows .plain s :=
    fun _ _ => trivial
  refine .tryCatch (F := fun _ a _ => a = n) (Quiet.owes orderLedger_covers ?_ n) fun _ =>
    .pure fun _ _ h => h
  refine .bind (quiet_checkPath _) fun _ => .bind (quiet_checkPath _) fun _ =>
    .bind (quiet_get plain _) fun r => ?_
  cases r with
  | some p => exact .pure _
  | none => exact .pure _

theorem pays_orderLines (onShow : List (ℕ × Product)) (list length index todo : ℕ)
    (lines : List OrderLine) :
    Pays (orderLedger uid initial) g (fun a _ => a = n)
      (orderLines d onShow list length index todo lines) (fun _ a _ => a = n)
      fun _ a _ => a = 0 := by
  have look : Pays (orderLedger uid initial) g (fun a _ => a = n) (MyCartController.page d)
      (fun c a _ => a = if (c.lists list).length ≠ length then 0 else n) fun _ a _ => a = 0 := by
    refine .look_settle more_used fun a s ha => ?_
    split
    · exact ⟨0, .inr rfl, rfl⟩
    · exact ⟨a, .inl rfl, ha⟩
  induction todo generalizing index lines with
  | zero =>
    refine .bind look fun c => ?_
    split
    · exact .throw fun _ _ h => h
    · exact .pure fun _ _ h => h
  | succ todo ih =>
    refine .bind look fun c => ?_
    split
    · exact .throw fun _ _ h => h
    · exact .bind (pays_fetchTotalQty _) fun _ => .bind (R := fun _ a _ => a = n)
        (.note fun _ _ _ _ h _ => h) fun _ => .bind (R := fun _ a _ => a = n)
          (.look fun _ _ _ _ h => h) fun _ => ih _ _

theorem pays_one_helper_placeOrder (o : Order) :
    Pays (orderLedger uid initial) g (fun a _ => a = o.inNameOf uid)
      (FirebaseHelper.placeOrder ids o) (fun _ a _ => a = 0) E := by
  refine .tryCatch (F := fun _ a _ => a = 0) (.bind (R := fun _ a _ => a = 0)
    (.call_settle ?_ ?_) fun id => .bind (R := fun _ a _ => a = 0) ?_ fun _ =>
      .pure fun _ _ h => h) fun _ => .pure fun _ _ h => h
  · rintro a s t q rfl - ht - - -
    refine ⟨0, le_rfl, ?_, trivial, fun _ _ _ _ => rfl⟩
    change (addOrder ids _ t).1.ordersOf uid ≤ _
    change t.ordersOf uid ≤ _ at ht
    rw [addOrder_ordersOf]
    change o.inNameOf uid + _ ≤ _
    omega
  · rintro a s t q rfl hn ht - - -
    exact ⟨0, le_rfl, more_used t q _ ht (by omega), fun _ _ _ _ => rfl⟩
  · exact Quiet.owes orderLedger_covers (.call (fun s _ => ⟨trivial, updateOrder_ordersOf
      (f := fun o => { o with orderID := some id }) (fun _ => rfl) id s⟩) fun _ _ => trivial) 0

theorem pays_one_postOrderComplete :
    Pays (orderLedger uid initial) g (fun a _ => a = (Event.placeOrder d).allowance uid)
      (postOrderComplete flow ids d) (fun _ a _ => a = 0) E := by
  set n := (Event.placeOrder d).allowance uid
  refine .tryCatch (F := fun _ a _ => a = 0) (.bind (R := fun c a _ =>
    a = if c.formComplete ∧ flow.farmer[0]?.isSome then n else 0)
      (.look_settle more_used fun a s ha => ?_) fun c => ?_) fun _ => .pure fun _ _ h => h
  · split
    · exact ⟨a, .inl rfl, ha⟩
    · exact ⟨0, .inr rfl, rfl⟩
  by_cases hform : c.formComplete
  case neg =>
    rw [if_neg hform]
    refine .pure fun a s h => ?_
    rw [h, if_neg fun hc => hform hc.1]
  rw [if_pos hform]
  refine .bind (pays_orderLines _ _ _ _ _ _) fun lines => ?_
  cases hlist : flow.farmer[0]? with
  | none =>
    rw [statusAt, hlist]
    refine .bind (R := fun _ _ _ => False) (.throw fun a s h => ?_)
      fun _ _ _ _ _ _ _ _ _ h => h.elim
    rw [h]
    exact if_neg fun hc => Bool.false_ne_true hc.2
  | some initialStatus =>
  rw [statusAt, hlist]
  refine .bind (R := fun _ a _ => a = n) (.pure fun _ _ h => h.trans (if_pos ⟨hform, rfl⟩))
    fun status => .bind (R := fun _ a _ => a = n) (.look fun _ _ _ _ h => h) fun now =>
      .bind (R := fun after a _ => a = if after.shown = [] then 0 else n)
        (.look_settle more_used fun a s ha => ?_) fun after => ?_
  · split
    · exact ⟨0, .inr rfl, rfl⟩
    · exact ⟨a, .inl rfl, ha⟩
  cases hshown : after.shown with
  | nil => exact .throw fun _ _ h => h
  | cons first rest =>
  have pending : ∀ a : ℤ, (a = if first :: rest = [] then 0 else n) →
      a = (postOrder d after first now status lines).inNameOf uid := by
    intro a ha
    rw [if_neg (List.cons_ne_nil _ _)] at ha
    rw [ha]
    change (if d.uid = uid then (1 : ℤ) else 0) = if d.uid.val = uid.val then 1 else 0
    simp only [Subtype.ext_iff]
  refine .bind (R := fun _ a _ => a = (postOrder d after first now status lines).inNameOf uid)
    (.note fun a _ _ _ h _ => pending a h) fun _ => .bind (pays_one_helper_placeOrder _) fun orderId =>
      .bind (Quiet.owes orderLedger_covers (quiet_setPage
        keepsCarts_sameOrderCount.toKeepsPages d _) 0) fun _ =>
          .bind (R := fun _ a _ => a = 0) (.look fun _ _ _ _ h => h) fun last => ?_
  split
  · exact .throw fun _ _ h => h
  · exact .pure fun _ _ h => h

theorem pays_one_placeOrder :
    Pays (orderLedger uid initial) g (fun a _ => a = (Event.placeOrder d).allowance uid)
      (MyCartController.placeOrder flow ids d) (fun _ a _ => a = 0) fun _ a _ => a = 0 := by
  refine .bind pays_one_postOrderComplete fun isOrdered => ?_
  split
  · exact Quiet.owes orderLedger_covers
      (.bind (.spawn (quiet_updateProduct keepsStock_sameOrderCount d)) fun _ =>
        quiet_emptyCart keepsCarts_sameOrderCount d _ _) 0
  · exact .pure fun _ _ h => h

end Placing

theorem orders_balance (flow : StatusLists) (ids : IdSupply) (g : Guard World Access Event) :
    (orderLedger uid initial).Balances g (handler flow ids) := by
  intro e s p hs _ _
  have quiet : Quiet (sameOrderCount uid) (program flow ids e) → e.allowance uid = 0 →
      (handler flow ids e).Pays (orderLedger uid initial) g s p (e.allowance uid) := by
    intro h h0
    rw [h0]
    exact (h.owes orderLedger_covers 0).task hs trivial le_rfl rfl
  cases hgroup : e.group with
  | staff =>
    exact quiet (quiet_staff flow ids keepsStaff_sameOrderCount keepsTimers_sameOrderCount
      (fun _ _ _ => ⟨trivial, rfl⟩) hgroup) (by cases e <;> first | rfl | cases hgroup)
  | stock =>
    exact quiet (quiet_stock flow ids keepsStock_sameOrderCount.toKeepsProducts hgroup)
      (by cases e <;> first | rfl | cases hgroup)
  | cart =>
    exact quiet (quiet_cart flow ids keepsCarts_sameOrderCount hgroup)
      (by cases e <;> first | rfl | cases hgroup)
  | order =>
    cases e with
    | placeOrder d =>
      exact pays_one_placeOrder.task hs trivial (Event.allowance_nonneg uid (.placeOrder d)) rfl
    | _ => cases hgroup

/-- Whatever is pressed and in whatever order calls take effect, a customer gets no more orders
    than presses of the button. -/
theorem orders_le_presses {flow : StatusLists} {ids : IdSupply} {u v : Market}
    {ms : List (Move Event)} (hu : u.slots = []) (hx : exec (handler flow ids) u ms = some v)
    (uid : Uid) : v.state.ordersOf uid ≤ u.state.ordersOf uid + presses uid ms := by
  have start : (orderLedger uid (u.state.ordersOf uid)).inv u.state 0 := (add_zero _).ge
  have free : ∀ (w : Market) (ms : List (Move Event)), Meeting (handler flow ids) .free w ms := by
    intro w ms
    induction ms generalizing w with
    | nil => trivial
    | cons m ms ih =>
      refine ⟨meets_free m, ?_⟩
      split
      · exact ih _
      · trivial
  have held := (Ledger.Holds.idle hu trivial start).run (orders_balance flow ids .free)
    (Event.allowance_nonneg uid) (free u ms) hx
  obtain ⟨used, hle, hinv⟩ := held.paid_le
  rw [zero_add, charged_presses] at hle
  exact hinv.trans (add_le_add le_rfl hle)

def pressedTwice : List (Move Event) :=
  [.start (.placeOrder aCustomer), .start (.placeOrder aCustomer), .serve 0, .serve 1, .resume 0,
    .resume 0, .serve 0, .serve 1]

theorem orders_le_presses_twice :
    (Pool.after smallHandler ⟨datesCart, []⟩ pressedTwice).state.ordersOf aCustomer.uid ≤
      World.ordersOf datesCart aCustomer.uid + presses aCustomer.uid pressedTwice :=
  orders_le_presses (u := ⟨datesCart, []⟩) rfl (exec_after (by decide +kernel)) _

end Gherass
