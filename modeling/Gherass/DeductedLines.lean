import Gherass.EventLoopLedger
import Gherass.OrderTotals
import Mathlib.Algebra.Order.Group.Int
import Mathlib.Data.Int.ConditionallyCompleteOrder
import Mathlib.Order.ConditionallyCompleteLattice.Indexed

set_option autoImplicit false

/-!
# The lines that are deducted

Once an order is posted, a loop that nobody waits for walks the list that was on show, entry by
entry, with an await after each. Whatever changes that list meanwhile changes what is deducted.
-/
namespace Gherass

open EventLoop EventLoop.Async FirebaseHelper MyCartController

/-- What `placeOrder` goes on with once the order is posted. -/
def finishOrder (d : Device) : Program Unit := do
  spawn (updateProduct d)
  emptyCart d

theorem placeOrder_eq (flow : StatusLists) (ids : IdSupply) (d : Device) :
    MyCartController.placeOrder flow ids d = (do
      let isOrdered ← postOrderComplete flow ids d
      if isOrdered then finishOrder d) := rfl

inductive PostedEvent where
  | finishOrder (d : Device) (orderId : String)
  | market (e : Event)

def postedHandler (flow : StatusLists) (ids : IdSupply) : PostedEvent → Task World Access Bool
  | .finishOrder d _ => (finishOrder d).task
  | .market e => handler flow ids e

/-- How often a list of moves goes on with the order. -/
def finishing (orderId : String) : List (Move PostedEvent) → ℤ
  | [] => 0
  | .start (.finishOrder _ id) :: ms => (if id = orderId then 1 else 0) + finishing orderId ms
  | _ :: ms => finishing orderId ms

def Order.deductions (o : Order) : List (String × ℤ) :=
  o.orderDetails.map fun line => (line.productId, line.qty)

def World.auditsOf (w : World) (orderId : String) : List StockAudit :=
  w.audits.filter (·.orderId = orderId)

/-- Whenever the loop comes to a line, the list that it walks is as long as it was, and holds there
    what the order has there; it was as long as the order to begin with. -/
def walksOrder : Access → World → Bool
  | .nextLine d orderId list length index, w =>
    let c := w.cartPages d
    let prod := c.objects ((c.lists list).getD index 0)
    (w.orders[orderId]?).all fun o => o.deductions.length = length && (length ≤ index ||
      (c.lists list).length = length && o.deductions[index]? = some (prod.prodId, prod.qty))
  | _, _ => true

def holdsOrder : PostedEvent → World → Bool
  | .finishOrder d orderId, w => (w.cartPages d).orderId = orderId
  | .market _, _ => true

def World.HasOrder (w : World) (orderId : String) (lines : List (String × ℤ)) : Prop :=
  ∃ o, w.orders[orderId]? = some o ∧ o.deductions = lines

section Accounts

variable (orderId : String) (lines : List (String × ℤ)) (before : List StockAudit)

abbrev postedGuard : Guard World Access PostedEvent :=
  .computed holdsOrder walksOrder fun _ _ => true

/-- `paid` loops are over, and each deducted exactly the lines of the order. -/
def deductionLedger : Ledger World PostedEvent ℤ where
  charge
    | .finishOrder _ id => if id = orderId then 1 else 0
    | .market _ => 0
  inv s paid := s.HasOrder orderId lines ∧ 0 ≤ paid ∧
    s.auditsOf orderId = before ++ List.replicate paid.toNat ⟨orderId, lines⟩
  rel _ _ := True
  refl _ := trivial
  trans _ _ := trivial

def besideOrder : Contract World Access :=
  ⟨fun s => s.HasOrder orderId lines, fun s t => t.auditsOf orderId = s.auditsOf orderId,
    fun _ _ => True, fun _ => rfl, fun h h' => h'.trans h⟩

variable {orderId lines before}

theorem deductionLedger_covers :
    (deductionLedger orderId lines before).Covers (besideOrder orderId lines) where
  inv _ _ h := h.1
  paid _ _ _ hr hi h := ⟨hi, h.2.1, hr.trans h.2.2⟩
  rel _ _ _ := trivial

theorem World.HasOrder.put {w : World} (h : w.HasOrder orderId lines) {id : String} {o : Order}
    (ho : id = orderId → o.deductions = lines) : (w.putOrder id o).HasOrder orderId lines := by
  obtain ⟨stored, hstored, hlines⟩ := h
  by_cases hid : id = orderId
  · refine ⟨o, ?_, ho hid⟩
    rw [World.putOrder_get, if_pos hid]
  · refine ⟨stored, ?_, hlines⟩
    rw [World.putOrder_get, if_neg hid, hstored]

theorem keeps_beside {f : World → World} (horders : ∀ w, (f w).orders = w.orders)
    (haudits : ∀ w, (f w).audits = w.audits) : (besideOrder orderId lines).Keeps f := by
  rintro s ⟨o, ho, hlines⟩
  refine ⟨⟨o, by rw [horders, ho], hlines⟩, ?_⟩
  change (f s).auditsOf orderId = s.auditsOf orderId
  rw [World.auditsOf, World.auditsOf, haudits]

theorem keeps_beside_updateOrder (id : String) {f : Order → Order}
    (hf : ∀ o, (f o).orderDetails = o.orderDetails) :
    (besideOrder orderId lines).Keeps fun w => (updateOrder id f w).1 := by
  intro s hs
  cases ho : s.orders[id]? with
  | none =>
    have missing : (updateOrder id f s).1 = s := by rw [updateOrder, ho]
    dsimp only
    rw [missing]
    exact ⟨hs, rfl⟩
  | some o =>
    have same : id = orderId → (f o).deductions = lines := by
      rintro rfl
      obtain ⟨stored, hstored, hlines⟩ := hs
      rw [Order.deductions, hf, ← hlines, Option.some_inj.1 (ho.symm.trans hstored)]
      rfl
    have written : (updateOrder id f s).1 = s.putOrder id (f o) := by rw [updateOrder, ho]
    dsimp only
    rw [written]
    exact ⟨hs.put same, rfl⟩

theorem keepsStaff_beside : KeepsStaff (besideOrder orderId lines) where
  plain _ _ := trivial
  shows _ _ _ _ := trivial
  details _ := keeps_beside (fun _ => rfl) fun _ => rfl
  homes _ := keeps_beside (fun _ => rfl) fun _ => rfl
  maps _ _ := keeps_beside (fun _ => rfl) fun _ => rfl
  writes l id := keeps_beside_updateOrder id fun o => (sameContent_apply l o).orderDetails

theorem keepsTimers_beside : KeepsTimers (besideOrder orderId lines) where
  shows _ _ _ _ := trivial
  timers _ := keeps_beside (fun _ => rfl) fun _ => rfl
  rejects id := keeps_beside_updateOrder id fun _ => rfl

theorem keepsCarts_beside : KeepsCarts (besideOrder orderId lines) where
  plain _ _ := trivial
  pages _ := keeps_beside (fun _ => rfl) fun _ => rfl
  shows _ _ _ _ _ := trivial
  carts _ := keeps_beside (fun _ => rfl) fun _ => rfl
  autoIds := keeps_beside (fun _ => rfl) fun _ => rfl
  requests _ := keeps_beside (fun _ => rfl) fun _ => rfl
  validations _ := keeps_beside (fun _ => rfl) fun _ => rfl

theorem keepsProducts_beside : KeepsProducts (besideOrder orderId lines) where
  plain _ _ := trivial
  shows _ _ _ _ _ := trivial
  stock farmerId productId _ _ :=
    keeps_updateFarmProduct (fun _ => keeps_beside (fun _ => rfl) fun _ => rfl) farmerId productId _
  deletes := keeps_deleteProductDoc fun _ => keeps_beside (fun _ => rfl) fun _ => rfl

variable {d : Device}

def owedBy (orderId : String) (c : MyCartController) : ℤ := if c.orderId = orderId then 1 else 0

theorem auditsOf_record (w : World) (id : String) (deducted : List (String × ℤ)) :
    ({ w with audits := w.audits ++ [⟨id, deducted⟩] } : World).auditsOf orderId =
      w.auditsOf orderId ++ if id = orderId then [⟨id, deducted⟩] else [] := by
  rw [World.auditsOf, World.auditsOf, List.filter_append, List.filter_singleton]
  congr 1
  by_cases hid : id = orderId
  · simp [hid]
  · simp [hid]

theorem quiet_updateLines_beside {id : String} (hid : id ≠ orderId) (list length index todo : ℕ)
    (deducted : List (String × ℤ)) :
    Quiet (besideOrder orderId lines) (updateLines d id list length index todo deducted) := by
  have record (deducted : List (String × ℤ)) :
      Quiet (besideOrder orderId lines) (recordAudit id deducted) := by
    refine .change fun s hs => ⟨hs, ?_⟩
    change World.auditsOf _ orderId = _
    rw [auditsOf_record, if_neg hid, List.append_nil]
  induction todo generalizing index deducted with
  | zero => exact .bind (.note fun _ _ => trivial) fun _ => record deducted
  | succ todo ih =>
    refine .bind (.note fun _ _ => trivial) fun _ => .bind (.look _) fun c => ?_
    split
    · exact record deducted
    · exact .bind (quiet_updateProductQty keepsProducts_beside _ _ _) fun _ => ih _ _

theorem pays_updateProductQty {E : DartError → ℤ → World → Prop} (farmerId productId : String)
    (qty : ℤ) (b : ℤ) :
    Pays (deductionLedger orderId lines before) postedGuard (fun a _ => a = b)
      (updateProductQty farmerId productId qty) (fun _ a _ => a = b) E := by
  refine .tryCatch (F := fun _ a _ => a = b) ?_ fun _ => .pure fun _ _ h => h
  refine Quiet.owes deductionLedger_covers (.bind (quiet_checkPath _) fun _ =>
    .bind (quiet_checkPath _) fun _ => .bind (quiet_get (fun _ _ => trivial) _) fun r => ?_) b
  cases r with
  | some p => exact .call (keepsProducts_beside.stock _ _ _ fun _ => _) fun _ _ => trivial
  | none => exact .pure _

theorem pays_updateLines {list length index todo : ℕ} {deducted : List (String × ℤ)}
    (htodo : index + todo = length) (hdeducted : deducted = lines.take index) :
    Pays (deductionLedger orderId lines before) postedGuard (fun a _ => a = 1)
      (updateLines d orderId list length index todo deducted) (fun _ a _ => a = 0)
      fun _ a _ => a = 0 := by
  induction todo generalizing index deducted with
  | zero =>
    refine .bind (R := fun _ a _ => lines.length = length ∧ a = 1) (.note ?_) fun _ =>
      .given fun hlength => .change ?_
    · rintro a s p ⟨⟨o, ho, rfl⟩, -, -⟩ ha hwalks
      change walksOrder _ s = true at hwalks
      simp only [walksOrder, ho, Option.all_some, Bool.and_eq_true, decide_eq_true_eq] at hwalks
      exact ⟨hwalks.1, ha⟩
    · rintro a s p ⟨hs, hp, haudits⟩ - - rfl
      refine ⟨0, le_rfl, ⟨hs, by omega, ?_⟩, trivial, rfl⟩
      have paid : (p + 1 - 0).toNat = p.toNat + 1 := by omega
      have whole : deducted = lines := by
        rw [hdeducted, List.take_of_length_le (by omega)]
      rw [auditsOf_record, if_pos rfl, haudits, paid, List.replicate_succ', whole,
        List.append_assoc]
  | succ todo ih =>
    have hindex : index < length := by omega
    refine .bind (R := fun _ a s => ((s.cartPages d).lists list).length = length ∧ lines[index]? =
      some (((s.cartPages d).objects (((s.cartPages d).lists list).getD index 0)).prodId,
        ((s.cartPages d).objects (((s.cartPages d).lists list).getD index 0)).qty) ∧ a = 1)
      (.note ?_) fun _ => .bind (R := fun c a _ => ((c.lists list).length = length ∧
        lines[index]? = some ((c.objects ((c.lists list).getD index 0)).prodId,
          (c.objects ((c.lists list).getD index 0)).qty)) ∧ a = 1)
        (.look fun a s p _ h => ⟨⟨h.1, h.2.1⟩, h.2.2⟩) fun c => .given fun hc => ?_
    · rintro a s p ⟨⟨o, ho, rfl⟩, -, -⟩ ha hwalks
      change walksOrder _ s = true at hwalks
      simp only [walksOrder, ho, Option.all_some, Bool.and_eq_true, Bool.or_eq_true,
        decide_eq_true_eq] at hwalks
      obtain ⟨hlist, hline⟩ := hwalks.2.resolve_left (by omega)
      exact ⟨hlist, hline, ha⟩
    · rw [if_neg (not_not.2 hc.1)]
      refine .bind (pays_updateProductQty _ _ _ 1) fun _ => ih (by omega) ?_
      rw [List.take_add_one, hc.2, hdeducted]
      rfl

theorem pays_updateProduct :
    Pays (deductionLedger orderId lines before) postedGuard
      (fun a s => a = owedBy orderId (s.cartPages d)) (updateProduct d) (fun _ a _ => a = 0)
      fun _ a _ => a = 0 := by
  refine .bind (R := fun c a _ => a = owedBy orderId c) (.look fun _ _ _ _ h => h) fun c => ?_
  by_cases hid : c.orderId = orderId
  · rw [owedBy, if_pos hid, hid]
    exact pays_updateLines (Nat.zero_add _) rfl
  · rw [owedBy, if_neg hid]
    exact (quiet_updateLines_beside hid _ _ _ _ _).owes deductionLedger_covers 0

theorem pays_finishOrder :
    Pays (deductionLedger orderId lines before) postedGuard
      (fun a s => a = owedBy orderId (s.cartPages d)) (finishOrder d) (fun _ a _ => a = 0)
      fun _ a _ => a = 0 := by
  refine .bind (R := fun _ a _ => a = 0) (.spawn pays_updateProduct ?_) fun _ =>
    (quiet_emptyCart keepsCarts_beside d _ _).owes deductionLedger_covers 0
  exact fun a s p _ ha h => ⟨a, 0, ha, le_rfl, (add_zero a).symm, h, fun _ _ _ => rfl⟩

theorem pays_helper_placeOrder {ids : IdSupply} (hid : orderId ≠ "") (o : Order) :
    Pays (deductionLedger orderId lines before) postedGuard (fun a _ => a = 0)
      (FirebaseHelper.placeOrder ids o) (fun id a _ => id ≠ orderId ∧ a = 0)
      fun _ a _ => a = 0 := by
  refine .tryCatch (F := fun _ a _ => a = 0) (.bind (R := fun id a _ => id ≠ orderId ∧ a = 0)
    (.call ?_ fun _ _ _ _ _ ha _ _ _ _ => ha) fun id => .given fun hne =>
      .bind (R := fun _ a _ => a = 0) ?_ fun _ => .pure fun _ _ h => ⟨hne, h⟩)
    fun _ => .pure fun _ _ h => ⟨hid.symm, h⟩
  · rintro a s t p rfl - ⟨hs, hp, haudits⟩ - - -
    have other : ids.newId t.autoIds t.orders.keys ≠ orderId := by
      rintro rfl
      obtain ⟨stored, hstored, -⟩ := hs
      rw [newId_free] at hstored
      cases hstored
    refine ⟨0, le_rfl, ⟨hs.put fun h => absurd h other, ?_, ?_⟩, trivial, fun _ _ _ _ => ?_⟩
    · omega
    · rw [add_zero, sub_zero]
      exact haudits
    · exact ⟨other, rfl⟩
  · have quiet : Quiet (besideOrder orderId lines) (call .setOrderID
        (updateOrder id fun o => { o with orderID := some id }) .firestore : Program Unit) :=
      .call (keeps_beside_updateOrder id fun _ => rfl) fun _ _ => trivial
    exact quiet.owes deductionLedger_covers 0

theorem pays_postOrderComplete {flow : StatusLists} {ids : IdSupply} (hid : orderId ≠ "") :
    Pays (deductionLedger orderId lines before) postedGuard (fun a _ => a = 0)
      (postOrderComplete flow ids d)
      (fun isOrdered a s => a = if isOrdered then owedBy orderId (s.cartPages d) else 0)
      fun _ a _ => a = 0 := by
  refine .tryCatch (F := fun _ a _ => a = 0) (.bind (R := fun _ a _ => a = 0)
    (.look fun _ _ _ _ h => h) fun c => ?_) fun _ => .pure fun _ _ h => h
  split
  case isFalse => exact .pure fun _ _ h => h
  case isTrue =>
  refine .bind ((quiet_orderLines keepsCarts_beside d _ _ _ _ _ _).owes deductionLedger_covers 0)
    fun lines => .bind ((quiet_statusAt _ _).owes deductionLedger_covers 0) fun status =>
      .bind (R := fun _ a _ => a = 0) (.look fun _ _ _ _ h => h) fun now =>
        .bind (R := fun _ a _ => a = 0) (.look fun _ _ _ _ h => h) fun c => ?_
  cases c.shown with
  | nil => exact .throw fun _ _ h => h
  | cons first _ =>
    refine .bind (R := fun _ a _ => a = 0) (.note fun _ _ _ _ h _ => h) fun _ =>
      .bind (pays_helper_placeOrder hid _) fun id => .given fun hne =>
        .bind (R := fun _ a s => a = 0 ∧ owedBy orderId (s.cartPages d) = 0) (.change ?_)
          fun _ => .bind (R := fun _ a s => a = 0 ∧ owedBy orderId (s.cartPages d) = 0)
            (.look fun _ _ _ _ h => h) fun last => ?_
    · rintro a s p hs - - rfl
      refine ⟨0, le_rfl, ?_, trivial, rfl, ?_⟩
      · rw [add_zero, sub_zero]
        exact hs
      · simp [owedBy, World.setCartPage, hne]
    · split
      · exact .throw fun _ _ h => h.1
      · exact .pure fun _ _ h => h.1.trans h.2.symm

theorem pays_placeOrder {flow : StatusLists} {ids : IdSupply} (hid : orderId ≠ "") :
    Pays (deductionLedger orderId lines before) postedGuard (fun a _ => a = 0)
      (MyCartController.placeOrder flow ids d) (fun _ a _ => a = 0) fun _ a _ => a = 0 := by
  rw [placeOrder_eq]
  refine .bind (pays_postOrderComplete hid) fun isOrdered => ?_
  cases isOrdered with
  | false => exact .pure fun _ _ h => h
  | true => exact pays_finishOrder

theorem deductions_balance (flow : StatusLists) (ids : IdSupply) (hid : orderId ≠ "") :
    (deductionLedger orderId lines before).Balances postedGuard (postedHandler flow ids) := by
  intro e s p hs _ hstart
  cases e with
  | finishOrder d id =>
    have held : (s.cartPages d).orderId = id := of_decide_eq_true hstart
    refine pays_finishOrder.task hs trivial ?_ ?_
    · change 0 ≤ if id = orderId then (1 : ℤ) else 0
      split
      · exact zero_le_one
      · exact le_rfl
    · change (if id = orderId then (1 : ℤ) else 0) = _
      rw [owedBy, held]
  | market e =>
    have quiet {m : Program Unit} (h : Quiet (besideOrder orderId lines) m) :
        m.task.Pays (deductionLedger orderId lines before) postedGuard s p 0 :=
      (h.owes deductionLedger_covers 0).task hs trivial le_rfl rfl
    cases hg : e.group with
    | staff =>
      exact quiet (quiet_staff flow ids keepsStaff_beside keepsTimers_beside
        (fun _ => keeps_beside (fun _ => rfl) fun _ => rfl) hg)
    | stock => exact quiet (quiet_stock flow ids keepsProducts_beside hg)
    | cart => exact quiet (quiet_cart flow ids keepsCarts_beside hg)
    | order =>
      cases e with
      | placeOrder d => exact (pays_placeOrder hid).task hs trivial le_rfl rfl
      | _ => cases hg

theorem finishing_eq (ms : List (Move PostedEvent)) :
    (deductionLedger orderId lines before).charged ms = finishing orderId ms := by
  induction ms with
  | nil => rfl
  | cons m ms ih =>
    cases m with
    | start e =>
      cases e with
      | finishOrder => exact congrArg _ ih
      | market => exact (zero_add _).trans ih
    | serve | lose | resume => exact ih

end Accounts

/-- In every run in which the loop finds at each line what the order has there, the loops that are
    over have deducted the lines of the order, each of them once and nothing else; once no program
    is in flight, these are all the loops that were started. -/
theorem lines_deducted {flow : StatusLists} {ids : IdSupply} {u v : Market}
    {ms : List (Move PostedEvent)} (hu : u.slots = [])
    (hm : Meeting (postedHandler flow ids) postedGuard u ms)
    (hx : exec (postedHandler flow ids) u ms = some v) {orderId : String} (hid : orderId ≠ "")
    {o : Order} (ho : u.state.orders[orderId]? = some o) :
    ∃ n : ℕ, (n : ℤ) ≤ finishing orderId ms ∧ (v.slots = [] → (n : ℤ) = finishing orderId ms) ∧
      v.state.auditsOf orderId =
        u.state.auditsOf orderId ++ List.replicate n ⟨orderId, o.deductions⟩ := by
  have start : (deductionLedger orderId o.deductions (u.state.auditsOf orderId)).inv u.state 0 :=
    ⟨⟨o, ho, rfl⟩, le_rfl, (List.append_nil _).symm⟩
  have charge_nonneg (e : PostedEvent) :
      0 ≤ (deductionLedger orderId o.deductions (u.state.auditsOf orderId)).charge e := by
    cases e with
    | finishOrder d id =>
      change 0 ≤ if id = orderId then (1 : ℤ) else 0
      split
      · exact zero_le_one
      · exact le_rfl
    | market => exact le_rfl
  have held := (Ledger.Holds.idle hu trivial start).run (deductions_balance flow ids hid)
    charge_nonneg hm hx
  rw [zero_add, finishing_eq] at held
  obtain ⟨paid, hle, hinv⟩ := held.paid_le
  by_cases hv : v.slots = []
  · obtain ⟨-, hpos, haudits⟩ := held.settled hv
    exact ⟨(finishing orderId ms).toNat, (Int.toNat_of_nonneg hpos).le,
      fun _ => Int.toNat_of_nonneg hpos, haudits⟩
  · obtain ⟨-, hpos, haudits⟩ := hinv
    exact ⟨paid.toNat, (Int.toNat_of_nonneg hpos).le.trans hle, fun h => absurd h hv, haudits⟩

def postedFruits : World :=
  { datesAndFigs with
    orders := (∅ : Std.TreeMap String Order).insert "1"
      { farmerId := "farmer", orderID := some "1"
        orderDetails := [{ productId := "dates", qty := 3 }, { productId := "figs", qty := 1 }] }
    cartPages := fun d => { datesAndFigs.cartPages d with orderId := "1" } }

def fruitsHandler : PostedEvent → Task World Access Bool :=
  postedHandler smallFlow.toStatusLists IdSupply.longer

def walkedInTime : List (Move PostedEvent) :=
  [.start (.finishOrder aCustomer "1"), .serve 0, .resume 0, .serve 0, .resume 0, .serve 0,
    .resume 0, .serve 0, .resume 0, .serve 0, .resume 0, .serve 0, .resume 0, .serve 0, .resume 0]

theorem fruits_deducted :
    ((⟨postedFruits, []⟩ : Market).after fruitsHandler walkedInTime).state.auditsOf "1" =
      [⟨"1", [("dates", 3), ("figs", 1)]⟩] := by
  have stored : (⟨postedFruits, []⟩ : Market).state.orders["1"]? = some _ :=
    Std.TreeMap.getElem?_insert_self
  have meets : Meeting fruitsHandler postedGuard ⟨postedFruits, []⟩ walkedInTime := by
    decide +kernel
  have run : exec fruitsHandler ⟨postedFruits, []⟩ walkedInTime = some _ :=
    exec_after (by decide +kernel)
  obtain ⟨n, -, hall, haudits⟩ := lines_deducted rfl meets run (by decide) stored
  have once : n = 1 := Int.ofNat_inj.1 (hall (by decide +kernel))
  rw [once] at haudits
  exact haudits

def showsOrder : PostedEvent → World → Bool
  | .finishOrder d orderId, w => holdsOrder (.finishOrder d orderId) w &&
    (w.orders[orderId]?).all fun o =>
      o.deductions = (w.cartPages d).shown.map fun prod => (prod.prodId, prod.qty)
  | .market _, _ => true

def clearedMeanwhile : List (Move PostedEvent) :=
  [.start (.finishOrder aCustomer "1"), .serve 1, .resume 1, .serve 1, .resume 1, .serve 1,
    .resume 1, .serve 0, .resume 0, .serve 0, .resume 0]

theorem figs_not_deducted : ¬ ∀ (u v : Market) (ms : List (Move PostedEvent)), u.slots = [] →
    Meeting fruitsHandler (.computed showsOrder (fun _ _ => true) fun _ _ => true) u ms →
    exec fruitsHandler u ms = some v → v.slots = [] → ∀ (orderId : String) (o : Order),
    orderId ≠ "" → u.state.orders[orderId]? = some o → v.state.auditsOf orderId =
      u.state.auditsOf orderId ++
        List.replicate (finishing orderId ms).toNat ⟨orderId, o.deductions⟩ := by
  intro h
  have stored : (⟨postedFruits, []⟩ : Market).state.orders["1"]? = some _ :=
    Std.TreeMap.getElem?_insert_self
  have both := h ⟨postedFruits, []⟩ _ clearedMeanwhile rfl (by decide +kernel)
    (exec_after (by decide +kernel)) (by decide +kernel) "1" _ (by decide) stored
  have dates : ((⟨postedFruits, []⟩ : Market).after fruitsHandler
      clearedMeanwhile).state.auditsOf "1" = [⟨"1", [("dates", 3)]⟩] := by decide +kernel
  rw [dates] at both
  exact absurd both (by decide +kernel)

end Gherass
