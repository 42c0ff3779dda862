import Gherass.CustomerOrders
import Gherass.EventLoopLedger
import Mathlib.Data.Int.ConditionallyCompleteOrder
import Mathlib.Order.ConditionallyCompleteLattice.Indexed

set_option autoImplicit false

/-!
# The order on the customer's page

Three calls fill three lists of the page, and whichever is answered last has the last word. The
counts of the calls under way say which answers are still to come.
-/
namespace Gherass.CustomerOrders

open EventLoop EventLoop.Async Gherass.Shop Gherass.CustomerOrders.FirebaseHelper

def showsOnly (list : List Details) (userId : String) : Bool :=
  list.isEmpty || userId ≠ "" && list.map (·.userId) = [userId]

def belongs (w : OrderPages) (f : Fetch) : Prop :=
  showsOnly (detailsIn w.toCustomerOrdersController f.1) f.2 = true ∧
    (detailsIn w.toCustomerOrdersController f.1 = [] → w.missed f = true)

/-- All that is on the page belongs to the order `o`. -/
structure Shows (w : OrderPages) (o : OrderMap) : Prop where
  selectedOrder : ∃ shown, w.selectedOrder = some shown ∧ shown.docId = o.docId
  orderedProductList : w.orderedProductList = o.orderDetails
  farmList : belongs w (.farmer, o.farmerId)
  customerList : belongs w (.customer, o.customerId)
  driverList : belongs w (.driver, o.driverId)
  noDriver : o.driverId = "" → w.driverList = []

def showsOpened (w : OrderPages) : Prop := ∀ o, w.opened = some o → Shows w o

/-- A notification leads to the order that is selected. An answer with details is of the order
    opened last, or one of that order is still to come; an answer without is not of that order,
    or the list shows nothing else, or another such answer is still to come. -/
def harmless : OrderAccess → OrderPages → Bool
  | .plain, _ => true
  | .notified order, w => w.selectedOrder.any fun shown => shown.docId = order.docId
  | .answered f found, w => w.opened.all fun o =>
    if found then f.2 = idIn o f.1 || 0 < w.underWay (f.1, idIn o f.1)
    else f.2 ≠ idIn o f.1 || showsOnly (detailsIn w.toCustomerOrdersController f.1) f.2 ||
      1 < w.underWay f

def answersInOrder : Guard OrderPages OrderAccess OrdersEvent := .landing harmless

instance : answersInOrder.Checks := inferInstanceAs (Guard.landing harmless).Checks

abbrev Debt := Option Fetch

def selects (w : OrderPages) (o : OrderMap) : Prop :=
  ∃ shown, w.selectedOrder = some shown ∧ shown.docId = o.docId

def shownUpTo (w : OrderPages) : Prop :=
  ∀ o, w.opened = some o → selects w o ∧ w.orderedProductList = o.orderDetails ∧
    ∀ collection, 0 < w.underWay (collection, idIn o collection) ∨
      belongs w (collection, idIn o collection)

def pagesLedger : Ledger OrderPages OrdersEvent (Debt → ℤ) where
  charge _ := 0
  inv w paid := (∀ f, (w.underWay f : ℤ) = -paid (some f)) ∧ (paid none < 0 ∨ shownUpTo w)
  rel _ _ := True
  limit m := m ≤ 0
  refl _ := trivial
  trans _ _ := trivial
  limit_le h h' := h.trans h'
  limit_charge _ h := by rwa [add_zero]

def openingDebt (o : OrderMap) : Debt → ℤ
  | none => 1
  | some f => if f.2 = idIn o f.1 then 1 else 0

def callDebt (f : Fetch) : Debt → ℤ := Pi.single (some f) 1

def finishDebt : Debt → ℤ := Pi.single none 1

theorem callDebt_nonneg (f : Fetch) : 0 ≤ callDebt f := single_nonneg _

theorem finishDebt_nonneg : 0 ≤ finishDebt := single_nonneg _

theorem openingDebt_eq (o : OrderMap) : openingDebt o =
    callDebt (.farmer, o.farmerId) + (callDebt (.driver, o.driverId) +
      (callDebt (.customer, o.customerId) + finishDebt)) := by
  funext k
  cases k with
  | none => simp [openingDebt, callDebt, finishDebt]
  | some f =>
    obtain ⟨collection, id⟩ := f
    cases collection with
    | farmer | driver | customer =>
      simp only [openingDebt, callDebt, finishDebt, idIn, Pi.add_apply, Pi.single_apply,
        Option.some.injEq, Prod.mk.injEq, reduceCtorEq, true_and, false_and, if_false, add_zero,
        zero_add]
      exact if_congr .rfl rfl rfl

def shownPart (w : OrderPages) : OrderPages :=
  { w with customerOrderList := [], farmerProducts := [], documents := {} }

def aside : Contract OrderPages OrderAccess := .ofFrame shownPart

theorem belongs_congr {w v : OrderPages} (h : shownPart v = shownPart w) (f : Fetch)
    (hf : belongs w f) : belongs v f := by
  have missed : v.missed = w.missed := congrArg (·.missed) h
  have lists : detailsIn v.toCustomerOrdersController f.1 =
      detailsIn w.toCustomerOrdersController f.1 := by
    obtain ⟨collection, id⟩ := f
    cases collection with
    | farmer => exact congrArg (·.farmList) h
    | driver => exact congrArg (·.driverList) h
    | customer => exact congrArg (·.customerList) h
  rwa [belongs, lists, missed]

theorem shownUpTo_congr {w v : OrderPages} (h : shownPart v = shownPart w) (hw : shownUpTo w) :
    shownUpTo v := by
  have opened : v.opened = w.opened := congrArg (·.opened) h
  have selected : v.selectedOrder = w.selectedOrder := congrArg (·.selectedOrder) h
  have products : v.orderedProductList = w.orderedProductList :=
    congrArg (·.orderedProductList) h
  have underWay : v.underWay = w.underWay := congrArg (·.underWay) h
  intro o ho
  obtain ⟨hselects, hproducts, hlists⟩ := hw o (opened ▸ ho)
  refine ⟨?_, products.trans hproducts, fun collection => ?_⟩
  · rwa [selects, selected]
  · rw [underWay]
    exact (hlists collection).imp_right (belongs_congr h _)

theorem aside_covers : pagesLedger.Covers aside where
  inv _ _ _ := trivial
  paid := by
    rintro w v p (h : shownPart v = shownPart w) - ⟨hcount, hshown⟩
    have underWay : v.underWay = w.underWay := congrArg (·.underWay) h
    exact ⟨fun f => by rw [underWay, hcount], hshown.imp_right (shownUpTo_congr h)⟩
  rel _ _ _ := trivial

theorem quiet_query {α : Type} (f : Documents → Except DartError α) : Quiet aside (query f) :=
  .call aside.keeps_id fun _ _ => trivial

theorem quiet_getFarmerProducts (farmerId : String) : Quiet aside (getFarmerProducts farmerId) := by
  refine .tryCatch (.bind (.tryCatch (.bind (quiet_query _) fun docs => ?_) fun _ => .pure none)
    fun response => ?_) fun _ => .pure ()
  · split
    · exact .pure none
    · exact .pure (some docs)
  · cases response with
    | none => exact .pure ()
    | some products => exact .change fun _ _ => ⟨trivial, rfl⟩

theorem opening_inv {w v : OrderPages} {p : Debt → ℤ} (hinv : pagesLedger.inv w p)
    (hcount : v.underWay = w.underWay) (hopen : p none < 0) : pagesLedger.inv v p :=
  ⟨fun f => by rw [hcount]; exact hinv.1 f, .inl hopen⟩

theorem detailsIn_setDetailsIn (w : OrderPages) (collection c : LogInType) (list : List Details) :
    detailsIn (setDetailsIn collection list w).toCustomerOrdersController c =
      if c = collection then list else detailsIn w.toCustomerOrdersController c := by
  cases collection <;> cases c <;> rfl

theorem answer_frame (f : Fetch) (response : Option Fields) (w : OrderPages) :
    (answer f response w).opened = w.opened ∧
      (answer f response w).selectedOrder = w.selectedOrder ∧
      (answer f response w).orderedProductList = w.orderedProductList ∧
      (answer f response w).underWay = Function.update w.underWay f (w.underWay f - 1) := by
  obtain ⟨collection, id⟩ := f
  cases response with
  | none => exact ⟨rfl, rfl, rfl, rfl⟩
  | some data => cases collection with
    | farmer | driver | customer => exact ⟨rfl, rfl, rfl, rfl⟩

theorem belongs_answer_of_ne {f g : Fetch} (response : Option Fields) {w : OrderPages}
    (hne : g.1 ≠ f.1) : belongs (answer f response w) g ↔ belongs w g := by
  cases response with
  | none =>
    have same : Function.update w.missed f true g = w.missed g :=
      Function.update_of_ne (fun h => hne (congrArg Prod.fst h)) _ _
    exact and_congr .rfl (imp_congr .rfl (by rw [← same]; rfl))
  | some data =>
    have missed : (answer f (some data) w).missed = w.missed := by
      obtain ⟨collection, id⟩ := f
      cases collection with
      | farmer | driver | customer => rfl
    have list := detailsIn_setDetailsIn
      { w with underWay := Function.update w.underWay f (w.underWay f - 1) } f.1 g.1 [⟨f.2, data⟩]
    rw [if_neg hne] at list
    rw [belongs, belongs, missed, answer, list]

theorem belongs_answer_found {f : Fetch} (data : Fields) (w : OrderPages) (hid : f.2 ≠ "") :
    belongs (answer f (some data) w) f := by
  have list := detailsIn_setDetailsIn
    { w with underWay := Function.update w.underWay f (w.underWay f - 1) } f.1 f.1 [⟨f.2, data⟩]
  rw [if_pos rfl] at list
  rw [belongs, answer, list]
  exact ⟨by simp [showsOnly, hid], fun h => by cases h⟩

theorem belongs_answer_missed {f : Fetch} {w : OrderPages}
    (h : showsOnly (detailsIn w.toCustomerOrdersController f.1) f.2 = true) :
    belongs (answer f none w) f := ⟨h, fun _ => Function.update_self ..⟩

theorem belongs_answer_other {f g : Fetch} {w : OrderPages} (hne : g ≠ f) (h : belongs w g) :
    belongs (answer f none w) g := by
  refine ⟨h.1, fun hempty => ?_⟩
  change Function.update w.missed f true g = true
  rw [Function.update_of_ne hne]
  exact h.2 hempty

theorem answer_shown {w : OrderPages} {f : Fetch} {response : Option Fields} (hw : shownUpTo w)
    (hid : response.isSome → f.2 ≠ "")
    (hharmless : harmless (.answered f response.isSome) w = true) :
    shownUpTo (answer f response w) := by
  obtain ⟨opened, selected, products, count⟩ := answer_frame f response w
  intro o ho
  rw [opened] at ho
  obtain ⟨hselects, hproducts, hlists⟩ := hw o ho
  simp only [harmless, ho, Option.all_some] at hharmless
  refine ⟨?_, products.trans hproducts, fun collection => ?_⟩
  · rwa [selects, selected]
  rw [count]
  by_cases hc : collection = f.1
  case neg =>
    have hne : (collection, idIn o collection) ≠ f := fun h => hc (congrArg Prod.fst h)
    rw [Function.update_of_ne hne]
    exact (hlists collection).imp_right (belongs_answer_of_ne response hc).2
  subst hc
  by_cases hdue : f.2 = idIn o f.1
  · have hf : (f.1, idIn o f.1) = f := by rw [← hdue]
    rw [hf]
    cases response with
    | some data => exact .inr (belongs_answer_found data w (hid rfl))
    | none =>
      simp only [Option.isSome_none, Bool.false_eq_true, if_false, ne_eq, hdue, not_true_eq_false,
        decide_false, Bool.false_or, Bool.or_eq_true, decide_eq_true_eq] at hharmless
      rw [← hdue] at hharmless
      rcases hharmless with hlist | hmore
      · exact .inr (belongs_answer_missed hlist)
      · refine .inl ?_
        rw [Function.update_self]
        omega
  · have hne : (f.1, idIn o f.1) ≠ f := fun h => hdue (congrArg Prod.snd h).symm
    rw [Function.update_of_ne hne]
    cases response with
    | some data =>
      simp only [Option.isSome_some, if_true, hdue, decide_false, Bool.false_or,
        decide_eq_true_eq] at hharmless
      exact .inl hharmless
    | none => exact (hlists f.1).imp_right (belongs_answer_other hne)

theorem call_owed {w : OrderPages} {q : Debt → ℤ} {f : Fetch} (hinv : pagesLedger.inv w q)
    (hl : q + callDebt f ≤ 0) : 0 < w.underWay f := by
  have owed : q (some f) < 0 := owed_lt hl
  have count := hinv.1 f
  omega

theorem answer_inv {w : OrderPages} {q : Debt → ℤ} {f : Fetch} {response : Option Fields}
    (hinv : pagesLedger.inv w q) (hl : q + callDebt f ≤ 0) (hid : response.isSome → f.2 ≠ "")
    (hharmless : harmless (.answered f response.isSome) w = true) :
    pagesLedger.inv (answer f response w) (q + callDebt f - 0) := by
  have owed := call_owed hinv hl
  rw [sub_zero]
  refine ⟨fun g => ?_, hinv.2.imp (fun hopen => ?_) fun hw => answer_shown hw hid hharmless⟩
  · have count := hinv.1 g
    rw [(answer_frame f response w).2.2.2]
    by_cases hg : g = f
    · subst hg
      simp only [Function.update_self, callDebt, Pi.add_apply, Pi.single_eq_same]
      omega
    · have other : callDebt f (some g) = 0 := Pi.single_eq_of_ne (fun h => hg (Option.some_inj.1 h)) 1
      rw [Function.update_of_ne hg, Pi.add_apply, other, add_zero, count]
  · have other : callDebt f none = 0 := Pi.single_eq_of_ne (fun h => by cases h) 1
    rwa [Pi.add_apply, other, add_zero]

theorem pays_aside {α : Type} {m : OrdersProgram α} (h : Quiet aside m) (b : Debt → ℤ) :
    Pays pagesLedger answersInOrder (fun a _ => a = b) m (fun _ a _ => a = b) fun _ a _ => a = b :=
  h.owes aside_covers b

theorem pays_fetchDetailsById (collection : LogInType) (userId : String) (b : Debt → ℤ) :
    Pays pagesLedger answersInOrder (fun a _ => a = b) (fetchDetailsById collection userId)
      (fun response a _ => a = b ∧ (response.isSome → userId ≠ "")) fun _ _ _ => False := by
  refine .tryCatch (F := fun _ a _ => a = b) (.call ?_ fun _ _ _ _ _ h _ _ _ _ => h)
    fun e => .pure fun _ _ h => ⟨h, fun hsome => by cases hsome⟩
  rintro _ s t q rfl ha hinv hl - -
  refine ⟨_, ha, by rwa [add_sub_cancel_right], trivial, fun u r _ _ => ?_⟩
  by_cases hid : userId = ""
  · simp only [byId, if_pos hid]
  · simp only [byId, if_neg hid]
    exact ⟨trivial, fun _ => hid⟩

theorem pays_getDetailsById (collection : LogInType) (userId : String) :
    Pays pagesLedger answersInOrder (fun a _ => a = callDebt (collection, userId))
      (getDetailsById collection userId) (fun _ a _ => a = 0) fun _ a _ => a = 0 := by
  refine .tryCatch (F := fun _ _ _ => False) (.bind (pays_fetchDetailsById collection userId _)
    fun response => ?_) fun _ => ?_
  · refine .bind (R := fun _ a w => (a = callDebt (collection, userId) ∧
      (response.isSome → userId ≠ "")) ∧
        harmless (.answered (collection, userId) response.isSome) w = true) ?_ fun _ => ?_
    · exact .note fun a s p _ h hacc => ⟨h, hacc⟩
    · refine .change ?_
      rintro _ s p hinv hl - ⟨⟨rfl, hid⟩, hharmless⟩
      exact ⟨0, le_rfl, answer_inv hinv hl hid hharmless, trivial, rfl⟩
  · exact .pure fun _ _ h => h.elim

theorem pays_start (collection : LogInType) (userId : String) {rest : Debt → ℤ}
    (hrest : 0 ≤ rest) (K : OrderPages → Prop) {E : DartError → (Debt → ℤ) → OrderPages → Prop} :
    Pays pagesLedger answersInOrder
      (fun a w => a = callDebt (collection, userId) + rest ∧ K w)
      (spawn (getDetailsById collection userId)) (fun _ a w => a = rest ∧ K w) E := by
  refine .spawn (pays_getDetailsById collection userId) ?_
  rintro _ s p - - ⟨rfl, hk⟩
  exact ⟨_, rest, callDebt_nonneg _, hrest, rfl, rfl, fun _ _ _ => ⟨rfl, hk⟩⟩

def opens (o : OrderMap) (w : OrderPages) : Prop :=
  w.opened = some o ∧ ∀ collection, 0 < w.underWay (collection, idIn o collection)

theorem openingDebt_nonneg (o : OrderMap) : 0 ≤ openingDebt o := by
  intro k
  cases k with
  | none => exact Int.one_nonneg
  | some f =>
    dsimp only [openingDebt, Pi.zero_apply]
    split
    · exact Int.one_nonneg
    · exact le_rfl

theorem pays_opening (o : OrderMap) {K Q : OrderPages → Prop}
    (hK : ∀ w, K w → Q (opening o w)) {E : DartError → (Debt → ℤ) → OrderPages → Prop} :
    Pays pagesLedger answersInOrder (fun a w => a = 0 ∧ K w) (change (opening o) : OrdersProgram Unit)
      (fun _ a w => a = openingDebt o ∧ opens o w ∧ Q w) E := by
  refine .change ?_
  rintro _ w p ⟨hcount, -⟩ hl - ⟨rfl, hk⟩
  refine ⟨openingDebt o, openingDebt_nonneg o, ⟨fun f => ?_, .inl ?_⟩, trivial, rfl,
    ⟨rfl, fun collection => ?_⟩, hK w hk⟩
  · have count := hcount f
    simp only [opening, openingDebt, Pi.sub_apply, Pi.add_apply, Pi.zero_apply]
    split
    · push_cast
      omega
    · omega
  · have owed := hl none
    simp only [Pi.add_apply, Pi.zero_apply] at owed
    simp only [openingDebt, Pi.sub_apply, Pi.add_apply, Pi.zero_apply]
    omega
  · simp only [opening, if_true]
    omega

theorem pays_during {f : OrderPages → OrderPages} {b : Debt → ℤ} (hb : 0 < b none)
    (hcount : ∀ w, (f w).underWay = w.underWay) {K Q : OrderPages → Prop}
    (hK : ∀ w, K w → Q (f w)) {E : DartError → (Debt → ℤ) → OrderPages → Prop} :
    Pays pagesLedger answersInOrder (fun a w => a = b ∧ K w) (change f : OrdersProgram Unit)
      (fun _ a w => a = b ∧ Q w) E := by
  refine .change ?_
  rintro _ w p hinv hl ha ⟨rfl, hk⟩
  refine ⟨_, ha, ?_, trivial, rfl, hK w hk⟩
  rw [add_sub_cancel_right]
  exact opening_inv hinv (hcount w) (owed_pos hb hl)

theorem pays_finish (o : OrderMap) {rest : Debt → ℤ} (hrest : 0 ≤ rest)
    {E : DartError → (Debt → ℤ) → OrderPages → Prop} :
    Pays pagesLedger answersInOrder
      (fun a w => a = rest + finishDebt ∧ opens o w ∧ selects w o)
      (change fun w => { w with orderedProductList := o.orderDetails } : OrdersProgram Unit)
      (fun _ a _ => a = rest ∧ True) E := by
  refine .change ?_
  rintro _ w p ⟨hcount, -⟩ - - ⟨rfl, ⟨hopened, hcalls⟩, hselects⟩
  refine ⟨rest, hrest, ⟨fun f => ?_, .inr fun o' ho' => ?_⟩, trivial, rfl, trivial⟩
  · have other : finishDebt (some f) = 0 := Pi.single_eq_of_ne (fun h => by cases h) 1
    simp only [Pi.sub_apply, Pi.add_apply, other, add_zero, add_sub_cancel_right]
    exact hcount f
  · obtain rfl : o = o' := Option.some_inj.1 (hopened.symm.trans ho')
    exact ⟨hselects, rfl, fun collection => .inl (hcalls collection)⟩

theorem pays_getFarmerProducts (farmerId : String) {b : Debt → ℤ} (K : OrderPages → Prop)
    {E : DartError → (Debt → ℤ) → OrderPages → Prop} :
    Pays pagesLedger answersInOrder (fun a w => a = b ∧ K w) (spawn (getFarmerProducts farmerId))
      (fun _ a w => a = b ∧ K w) E := by
  refine .spawn (pays_aside (quiet_getFarmerProducts farmerId) 0) ?_
  rintro _ w p - ha ⟨rfl, hk⟩
  exact ⟨0, _, le_rfl, ha, (zero_add _).symm, rfl, fun _ _ _ => ⟨rfl, hk⟩⟩

theorem pays_setSelectedOrder (order : OrderMap) (index : ℕ) {rest : Debt → ℤ}
    (hrest : 0 ≤ rest) : Pays pagesLedger answersInOrder
      (fun a w => a = rest + finishDebt ∧ opens order w ∧
        w.customerOrderList[index]? = some order)
      (setSelectedOrder order index) (fun _ a _ => a = rest ∧ True) fun _ _ _ => False := by
  have owed : 0 < (rest + finishDebt) none := by
    have := hrest none
    simp only [finishDebt, Pi.add_apply, Pi.single_eq_same, Pi.zero_apply] at this ⊢
    omega
  let selected (w : OrderPages) : Prop :=
    opens order w ∧ w.customerOrderList[index]? = some order ∧ selects w order
  have select : Pays pagesLedger answersInOrder
      (fun a w => a = rest + finishDebt ∧ opens order w ∧
        w.customerOrderList[index]? = some order)
      (change fun w => { w with selectedOrder := some order } : OrdersProgram Unit)
      (fun _ a w => a = rest + finishDebt ∧ selected w) fun _ _ _ => False := by
    refine pays_during owed (fun _ => ?_) fun w h => ?_
    · rfl
    · exact ⟨h.1, h.2, order, rfl, rfl⟩
  have clear : Pays pagesLedger answersInOrder (fun a w => a = rest + finishDebt ∧ selected w)
      (change fun w => { w with orderedProductList := [] } : OrdersProgram Unit)
      (fun _ a w => a = rest + finishDebt ∧ selected w) fun _ _ _ => False := by
    refine pays_during owed (fun _ => ?_) fun w h => ?_
    · rfl
    · exact h
  refine .bind select fun _ => .bind (pays_getFarmerProducts _ selected) fun _ =>
    .bind clear fun _ => .bind (R := fun list a w => list[index]? = some order ∧
      a = rest + finishDebt ∧ opens order w ∧ selects w order)
      (.look fun a w p _ h => ⟨h.2.2.1, h.1, h.2.1, h.2.2.2⟩) fun list => .given fun hlist => ?_
  rw [hlist]
  exact pays_finish order hrest

theorem callDebts_nonneg (o : OrderMap) : 0 ≤ callDebt (.farmer, o.farmerId) +
    (callDebt (.driver, o.driverId) + callDebt (.customer, o.customerId)) :=
  add_nonneg (callDebt_nonneg _) (add_nonneg (callDebt_nonneg _) (callDebt_nonneg _))

theorem pays_onTap (index : ℕ) : Pays pagesLedger answersInOrder (fun a _ => a = 0)
    (onTap index) (fun _ a _ => a = 0) fun _ _ _ => False := by
  refine .bind (R := fun list a w => a = 0 ∧ w.customerOrderList = list)
    (.look fun a w p _ h => ⟨h, rfl⟩) fun list => ?_
  cases hlist : list[index]? with
  | none => exact .pure fun _ _ h => h.1
  | some order =>
    let listed (w : OrderPages) : Prop := w.customerOrderList[index]? = some order
    have opened (w : OrderPages) (h : w.customerOrderList = list) : listed (opening order w) := by
      rw [← h] at hlist
      exact hlist
    refine .bind (pays_opening (Q := listed) order opened) fun _ => .bind ?_ fun _ =>
      .bind (pays_start .farmer order.farmerId ?_ fun _ => True) fun _ =>
      .bind (pays_start .driver order.driverId (callDebt_nonneg (.customer, order.customerId))
        fun _ => True) fun _ => ?_
    · refine (pays_setSelectedOrder order index (callDebts_nonneg order)).weaken (fun a w h => ?_)
        (fun _ _ _ h => h) fun _ _ _ h => h
      refine ⟨h.1.trans ?_, h.2⟩
      rw [openingDebt_eq]
      abel
    · exact add_nonneg (callDebt_nonneg _) (callDebt_nonneg _)
    · refine (pays_start .customer order.customerId le_rfl fun _ => True).weaken (fun a w h => ?_)
        (fun _ _ _ h => h.1) fun _ _ _ h => h
      rwa [add_zero]

theorem pays_navigateToDetail (o : OrderMap) : Pays pagesLedger answersInOrder
    (fun a w => a = 0 ∧ selects w o) (navigateToDetail o) (fun _ a _ => a = 0)
      fun _ _ _ => False := by
  let opened (w : OrderPages) : Prop := opens o w ∧ selects w o
  have owed : 0 < finishDebt none := by
    rw [finishDebt, Pi.single_eq_same]
    exact one_pos
  have clear : Pays pagesLedger answersInOrder (fun a w => a = finishDebt ∧ opened w)
      (change fun w => { w with orderedProductList := [] } : OrdersProgram Unit)
      (fun _ a w => a = finishDebt ∧ opened w) fun _ _ _ => False := by
    refine pays_during owed (fun _ => ?_) fun w h => ?_
    · rfl
    · exact h
  refine .bind (pays_opening (Q := fun w => selects w o) o fun w h => h) fun _ =>
    .bind ?_ fun _ =>
    .bind (pays_start .driver o.driverId
      (add_nonneg (callDebt_nonneg (.customer, o.customerId)) finishDebt_nonneg) opened) fun _ =>
    .bind (pays_start .customer o.customerId finishDebt_nonneg opened) fun _ =>
    .bind clear fun _ => ?_
  · refine (pays_start .farmer o.farmerId ?_ opened).weaken (fun a w h => ?_)
      (fun _ _ _ h => h) fun _ _ _ h => h
    · exact add_nonneg (callDebt_nonneg _) (add_nonneg (callDebt_nonneg _) finishDebt_nonneg)
    · exact ⟨h.1.trans (openingDebt_eq o), h.2⟩
  · refine (pays_finish o le_rfl).weaken (fun a w h => ?_) (fun _ _ _ h => h.1) fun _ _ _ h => h
    rwa [zero_add]

theorem pays_openNotification (orderId : String) : Pays pagesLedger answersInOrder
    (fun a _ => a = 0) (openNotification orderId) (fun _ a _ => a = 0) fun _ a _ => a = 0 := by
  unfold openNotification
  split
  case isTrue => exact .pure fun _ _ h => h
  case isFalse =>
    refine .bind (pays_aside (.tryCatch (quiet_query _) fun _ => .pure none) 0) fun response => ?_
    cases response with
    | none => exact .pure fun _ _ h => h
    | some o =>
      refine .bind (R := fun _ a w => a = 0 ∧ selects w o) (.note fun a w p _ h hacc => ⟨h, ?_⟩)
        fun _ => (pays_navigateToDetail o).weaken (fun _ _ h => h) (fun _ _ _ h => h)
          fun _ _ _ h => h.elim
      obtain ⟨shown, hshown, hid⟩ := (Option.any_eq_true _ _).1 hacc
      exact ⟨shown, hshown, of_decide_eq_true hid⟩

theorem quiet_getCustomerOrderList (uid : Uid) : Quiet aside (getCustomerOrderList uid) := by
  refine .tryCatch (.bind (.tryCatch (.bind (quiet_query _) fun docs => ?_) fun _ => .pure none)
    fun response => ?_) fun _ => .pure ()
  · split
    · exact .pure (some docs)
    · exact .pure none
  · cases response with
    | none => exact .pure ()
    | some orders => exact .change fun _ _ => ⟨trivial, rfl⟩

theorem pages_balance (uid : Uid) : pagesLedger.Balances answersInOrder (ordersHandler uid) := by
  intro e w p hinv hl _
  cases e with
  | documents docs =>
    have quiet : Quiet aside (change fun w => { w with documents := docs } : OrdersProgram Unit) :=
      .change fun _ _ => ⟨trivial, rfl⟩
    exact (pays_aside quiet 0).task hinv hl le_rfl rfl
  | getCustomerOrderList =>
    exact (pays_aside (quiet_getCustomerOrderList uid) 0).task hinv hl le_rfl rfl
  | onTap index =>
    exact ((pays_onTap index).weaken (fun _ _ h => h) (fun _ _ _ h => h)
      fun _ _ _ h => h.elim).task hinv hl le_rfl rfl
  | openNotification orderId => exact (pays_openNotification orderId).task hinv hl le_rfl rfl

theorem shows_of_upTo {w : OrderPages} (hw : shownUpTo w) (hcalls : ∀ f, w.underWay f = 0) :
    showsOpened w := by
  intro o ho
  obtain ⟨hselects, hproducts, hlists⟩ := hw o ho
  have settled (collection : LogInType) : belongs w (collection, idIn o collection) :=
    (hlists collection).resolve_left (by rw [hcalls]; exact lt_irrefl 0)
  refine ⟨hselects, hproducts, settled .farmer, settled .customer, settled .driver, fun hnone => ?_⟩
  have driver := (settled .driver).1
  simp only [showsOnly, idIn, hnone, ne_eq, not_true_eq_false, decide_false, Bool.false_and,
    Bool.or_false, List.isEmpty_iff] at driver
  exact driver

/-- Where all answers are harmless, the page shows the order opened last as soon as no call is
    under way. -/
theorem opened_order_shown (uid : Uid) {docs : Documents} {w : Pool OrderPages OrderAccess Unit}
    (hrun : Run (ordersHandler uid) answersInOrder ⟨{ documents := docs }, []⟩ w)
    (hrest : w.slots = []) : showsOpened w.state := by
  have idle : pagesLedger.Holds answersInOrder
      (⟨{ documents := docs }, []⟩ : Pool OrderPages OrderAccess Unit) 0 :=
    .idle rfl le_rfl ⟨fun _ => rfl, .inr fun o ho => by cases ho⟩
  have holds := idle.uncharged (pages_balance uid) (fun _ => rfl) hrun
  obtain ⟨hcount, hshown⟩ := holds.settled hrest
  refine shows_of_upTo (hshown.resolve_left (lt_irrefl _)) fun f => ?_
  have count := hcount f
  simp only [Pi.zero_apply, neg_zero] at count
  exact_mod_cast count

theorem noura_ne_empty : "noura" ≠ "" := by decide

def nouraUid : Uid := ⟨"noura", noura_ne_empty⟩

def twoOrders : Documents where
  orders := ((∅ : Std.TreeMap String Order).insert "1" {
    date := 2, customerId := "noura", driverId := "omar", farmerId := "palms"
    orderDetails := [{ productId := "dates", qty := 1 }] }).insert "2" {
      date := 1, customerId := "noura", farmerId := "palms"
      orderDetails := [{ productId := "figs", qty := 2 }] }
  profiles := fun collection id =>
    if (collection, id) ∈ [(LogInType.farmer, "palms"), (.driver, "omar"), (.customer, "noura")] then
      some .empty
    else none

def loadsList : List (Move OrdersEvent) := [.start .getCustomerOrderList, .serve 0, .resume 0]

/-- An order is opened from the list, and all four calls are answered in turn. -/
def taps (index : ℕ) : List (Move OrdersEvent) :=
  [.start (.onTap index), .serve 0, .serve 1, .serve 2, .serve 3, .resume 0, .resume 0, .resume 0,
    .resume 0]

def afterTaps (ms : List (Move OrdersEvent)) : Pool OrderPages OrderAccess Unit :=
  Pool.after (ordersHandler nouraUid) ⟨{ documents := twoOrders }, []⟩ ms

theorem delivered_order_shown : showsOpened (afterTaps (loadsList ++ taps 0)).state :=
  opened_order_shown nouraUid (Run.after (by decide +kernel) (by decide +kernel))
    (by decide +kernel)

/-- The order without a driver is opened second: the page still shows the driver of the first. -/
theorem driver_left_behind : ¬ ∀ (uid : Uid) (docs : Documents)
    (w : Pool OrderPages OrderAccess Unit),
    Run (ordersHandler uid) .free ⟨{ documents := docs }, []⟩ w → w.slots = [] →
      showsOpened w.state := by
  intro h
  let after : Pool OrderPages OrderAccess Unit := afterTaps (loadsList ++ taps 0 ++ taps 1)
  have run : Run (ordersHandler nouraUid) .free ⟨{ documents := twoOrders }, []⟩ after :=
    Run.after_free (by decide +kernel)
  have shows : showsOpened after.state := h nouraUid twoOrders after run (by decide +kernel)
  have opened : after.state.opened.any (fun o => o.docId = "2" ∧ o.driverId = "") = true := by
    decide +kernel
  have drivers : after.state.driverList.map (·.userId) = ["omar"] := by decide +kernel
  obtain ⟨o, ho, hnone⟩ := (Option.any_eq_true _ _).1 opened
  rw [(shows o ho).noDriver (of_decide_eq_true hnone).2] at drivers
  cases drivers

end Gherass.CustomerOrders
