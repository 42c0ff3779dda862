import Gherass.AddProdController
import Gherass.StockAccounts

set_option autoImplicit false

/-!
# Hidden when sold out

An order hides the product that it empties; an edit means to show it again, and hides it.
-/
namespace Gherass

open EventLoop EventLoop.Async FirebaseHelper

/-- What happens to a farmer's products: an ordered line, and an edit. -/
inductive StockEvent where
  | order (farmerId productId : String) (orderedQty : ℤ)
  | edit (d : Device) (form : ProductForm)

def stockProgram : StockEvent → Program Unit
  | .order farmerId productId orderedQty => updateProductQty farmerId productId orderedQty
  | .edit d form => AddProdController.updateProduct d form

def stockHandler (e : StockEvent) : Task World Access Bool := (stockProgram e).task

def hiddenRight (id : String) (w : World) : Prop :=
  ∀ p ∈ w.products id, p.isHidden = true ↔ p.qty = some 0

def positiveOrder : StockEvent → (Access → Bool) → World → Prop
  | .order _ _ orderedQty, _, _ => 0 < orderedQty
  | .edit _ _, _, _ => True

def editStores (id : String) (d : Device) (form : ProductForm) (ok : Access → Bool)
    (w : World) : Prop :=
  form.productId = id ∧ AddProdController.validationError form = none ∧ ok .plain = true ∧
    ∃ p ∈ w.products id, p.farmerId = d.uid

def notEditedNow (id : String) : StockEvent → (Access → Bool) → World → Prop
  | .order _ _ _, _, _ => True
  | .edit d form, ok, w => ¬ editStores id d form ok w

instance (id : String) (w : World) : Decidable (hiddenRight id w) := by
  unfold hiddenRight
  infer_instance

instance (e : StockEvent) (ok : Access → Bool) (w : World) : Decidable (positiveOrder e ok w) := by
  cases e with
  | order => exact inferInstanceAs (Decidable (0 < _))
  | edit => exact .isTrue trivial

section Steps

variable {id : String} {ok : Access → Bool} {s : World}

def counted (id : String) (w : World) : Prop := ∀ p ∈ w.products id, ∃ q, p.qty = some q ∧ 0 ≤ q

theorem order_deducts {farmerId productId : String} {orderedQty : ℤ} (hpos : 0 < orderedQty)
    (hs : hiddenRight id s ∧ counted id s) :
    hiddenRight id (deductQty farmerId productId orderedQty s) ∧
      counted id (deductQty farmerId productId orderedQty s) := by
  cases hat : s.productAt farmerId productId with
  | none => simpa only [deductQty, hat] using hs
  | some p =>
    obtain ⟨hp, hfarmer⟩ := productAt_stored hat
    by_cases hid : productId = id
    · subst hid
      obtain ⟨q, hq, hnonneg⟩ := hs.2 p hp
      have hright := hs.1 p hp
      have hstock : p.stock = q := by rw [FarmProduct.stock, hq, Option.getD_some]
      obtain ⟨left, hleft⟩ : ∃ left, left = if q - orderedQty < 0 then 0 else q - orderedQty :=
        ⟨_, rfl⟩
      have hset : (deductQty farmerId productId orderedQty s).products productId = some { p with
          qty := some left
          isHidden := if left = 0 then true else p.isHidden } := by
        simp [deductQty, hat, updateFarmProduct, hp, hfarmer, hstock, hleft]
      have hrest : 0 ≤ left ∧ (left ≠ 0 → q ≠ 0) := by
        rw [hleft]
        split
        · omega
        · omega
      rw [hiddenRight, counted, hset]
      refine ⟨fun p' hp' => ?_, fun p' hp' => ⟨left, ?_, hrest.1⟩⟩
      · cases hp'
        by_cases hempty : left = 0
        · simp [hempty]
        · -- something is left, so there was something before
          have hbefore : q ≠ 0 := hrest.2 hempty
          have hshown : p.isHidden = false := by simpa [hq, hbefore] using hright
          simp [hshown, hempty]
      · cases hp'
        rfl
    · have hsame : (deductQty farmerId productId orderedQty s).products id = s.products id := by
        simp [deductQty, hat, updateFarmProduct, hp, hfarmer, Function.update_of_ne (Ne.symm hid)]
      rw [hiddenRight, counted, hsame]
      exact hs

variable (ok) in
theorem order_keeps (farmerId productId : String) {orderedQty : ℤ} (hpos : 0 < orderedQty)
    (hs : hiddenRight id s ∧ counted id s) :
    hiddenRight id ((stockHandler (.order farmerId productId orderedQty)).alone ok s).2 ∧
      counted id ((stockHandler (.order farmerId productId orderedQty)).alone ok s).2 := by
  have hrun : ((stockHandler (.order farmerId productId orderedQty)).alone ok s).2 =
    qtyUpdated ok farmerId productId orderedQty s :=
    (yields_qtyUpdated farmerId productId orderedQty).task
  rw [hrun, qtyUpdated]
  split
  · exact order_deducts hpos hs
  · exact hs

theorem edit_alone (d : Device) (form : ProductForm) :
    ((stockHandler (.edit d form)).alone ok s).2 =
      if ok .plain = true ∧ AddProdController.validationError form = none ∧ form.productId ≠ ""
      then
        (updateFarmProduct d.uid form.productId (fun p =>
          { p with qty := some form.productQty, isHidden := if form.productQty < 0 then false
            else true }) s).1
      else s := by
  cases hplain : ok .plain with
  | false =>
    have lost : Yields ok (AddProdController.updateProduct d form) s (.error .state) s :=
      .bind_error (.call_lost hplain _ _)
    rw [if_neg fun h => by cases h.1]
    exact lost.task
  | true =>
    have answered : Yields ok (call .plain (fun w => (w, .ok ())) .state : Program Unit) s (.ok ())
      s := .call_answer hplain rfl
    cases hform : AddProdController.validationError form with
    | some error =>
      have stopped : Yields ok (AddProdController.updateProduct d form) s (.ok ()) s := by
        refine .bind answered ?_
        rw [hform]
        exact .pure ()
      rw [if_neg fun h => by cases h.2.1]
      exact stopped.task
    | none =>
      by_cases hid : form.productId = ""
      · have refused : Yields ok (updateProductToFarmer d.uid form.productId form.productQty
            (if form.productQty < 0 then false else true)) s (.ok ()) s := by
          rw [hid]
          exact .caught (.bind_error yields_checkPath_empty) (.pure ())
        have whole : Yields ok (AddProdController.updateProduct d form) s (.ok ()) s := by
          refine .bind answered ?_
          rw [hform]
          exact refused
        rw [if_neg fun h => h.2.2 hid]
        exact whole.task
      rw [if_pos ⟨rfl, rfl, hid⟩]
      let f (p : FarmProduct) : FarmProduct :=
        { p with qty := some form.productQty, isHidden := if form.productQty < 0 then false
          else true }
      have stored : Yields ok (updateProductToFarmer d.uid form.productId form.productQty
          (if form.productQty < 0 then false else true)) s (.ok ())
          (updateFarmProduct d.uid form.productId f s).1 := by
        cases hanswer : (updateFarmProduct d.uid form.productId f s).2 with
        | ok => exact .tryCatch (.bind (yields_checkPath hid) (.call_answer hplain hanswer))
        | error e =>
          exact .caught (.bind (yields_checkPath hid) (.call_answer hplain hanswer)) (.pure ())
      have whole : Yields ok (AddProdController.updateProduct d form) s (.ok ())
          (updateFarmProduct d.uid form.productId f s).1 := by
        refine .bind answered ?_
        rw [hform]
        exact stored
      exact whole.task

theorem edit_keeps {d : Device} {form : ProductForm} (h : ¬ editStores id d form ok s) :
    ((stockHandler (.edit d form)).alone ok s).2.products id = s.products id := by
  rw [edit_alone]
  split
  case isFalse => rfl
  case isTrue hgo =>
    obtain ⟨hplain, hform, -⟩ := hgo
    unfold updateFarmProduct
    split
    case h_2 => rfl
    case h_1 p hp =>
      split
      case isFalse => rfl
      case isTrue hfarmer =>
        have hne : id ≠ form.productId := fun heq =>
          h ⟨heq.symm, hform, hplain, p, heq ▸ hp, hfarmer⟩
        exact Function.update_of_ne hne ..

theorem edit_hides (hid : id ≠ "") {d : Device} {form : ProductForm}
    (h : editStores id d form ok s) :
    ¬ hiddenRight id ((stockHandler (.edit d form)).alone ok s).2 := by
  obtain ⟨rfl, hform, hplain, p, hp, hfarmer⟩ := h
  have hqty : 0 < form.productQty := AddProdController.validationError_qty hform
  have hset : ((stockHandler (.edit d form)).alone ok s).2.products form.productId =
      some { p with qty := some form.productQty, isHidden := true } := by
    have hshow : ¬ form.productQty < 0 := by omega
    rw [edit_alone, if_pos ⟨hplain, hform, hid⟩]
    simp [updateFarmProduct, Option.mem_def.1 hp, hfarmer, hshow]
  intro hright
  have hzero := (hright _ hset).1 rfl
  have : form.productQty = 0 := Option.some.inj hzero
  omega

variable (ok) in
theorem posted_right (hfree : s.products id = none) (d : Device) (form : ProductForm) :
    hiddenRight id ((AddProdController.postProducts d form id).task.alone ok s).2 ∧
      counted id ((AddProdController.postProducts d form id).task.alone ok s).2 := by
  have nothing : hiddenRight id s ∧ counted id s := by
    rw [hiddenRight, counted, hfree]
    exact ⟨fun _ h => (by cases h), fun _ h => (by cases h)⟩
  cases hplain : ok .plain with
  | false =>
    have lost : Yields ok (AddProdController.postProducts d form id) s (.error .state) s :=
      .bind_error (.call_lost hplain _ _)
    rw [lost.task]
    exact nothing
  | true =>
    have answered : Yields ok (call .plain (fun w => (w, .ok ())) .state : Program Unit) s (.ok ())
      s := .call_answer hplain rfl
    cases hform : AddProdController.validationError form with
    | some error =>
      have stopped : Yields ok (AddProdController.postProducts d form id) s (.ok ()) s := by
        refine .bind answered ?_
        rw [hform]
        exact .pure ()
      rw [stopped.task]
      exact nothing
    | none =>
      have hqty : 0 < form.productQty := AddProdController.validationError_qty hform
      let product : FarmProduct := { farmerId := d.uid, qty := some form.productQty }
      let added := (addProductDoc d.uid id form.productQty s).1
      have hadded : added.products id = some product := Function.update_self ..
      have hsame : Function.update added.products id (some product) = added.products := by
        rw [← hadded, Function.update_eq_self]
      have hstored : updateFarmProduct d.uid id (fun p => p) added = (added, .ok ()) := by
        rw [updateFarmProduct, hadded]
        dsimp only
        rw [if_pos rfl, hsame]
      have posted : Yields ok (AddProdController.postProducts d form id) s (.ok ()) added := by
        refine .bind answered ?_
        rw [hform]
        exact .tryCatch (.bind (.call_answer hplain rfl) (.call_eq hplain hstored))
      rw [posted.task, hiddenRight, counted, hadded]
      refine ⟨fun p hp => ?_, fun p hp => ?_⟩
      · cases hp
        have hne : form.productQty ≠ 0 := by omega
        simp [product, hne]
      · cases hp
        exact ⟨form.productQty, rfl, by omega⟩

end Steps

/-- Of a product that was posted, orders and edits keep the flag right exactly if no edit of it
    gets through. -/
theorem hidden_right_iff {id : String} (hid : id ≠ "") {u : World} (hfree : u.products id = none)
    (d : Device) (form : ProductForm) (ok : Access → Bool)
    {turns : List (StockEvent × (Access → Bool))}
    (hpos : EachMeets stockHandler positiveOrder
      ((AddProdController.postProducts d form id).task.alone ok u).2 turns) :
    (∀ n, hiddenRight id (runEach stockHandler
      ((AddProdController.postProducts d form id).task.alone ok u).2 (turns.take n))) ↔
    EachMeets stockHandler (notEditedNow id)
      ((AddProdController.postProducts d form id).task.alone ok u).2 turns := by
  have start := posted_right ok hfree d form
  generalize ((AddProdController.postProducts d form id).task.alone ok u).2 = s at hpos start ⊢
  induction turns generalizing s with
  | nil =>
    refine ⟨fun _ => trivial, fun _ n => ?_⟩
    rw [List.take_nil]
    exact start.1
  | cons turn turns ih =>
    obtain ⟨e, ok'⟩ := turn
    cases e with
    | order farmerId productId orderedQty =>
      have next := order_keeps ok' farmerId productId hpos.1 start
      refine ⟨fun h => ⟨trivial, (ih _ hpos.2 next).1 fun n => h (n + 1)⟩, fun h n => ?_⟩
      cases n with
      | zero => exact start.1
      | succ n => exact (ih _ hpos.2 next).2 h.2 n
    | edit d' form' =>
      have next : ¬ editStores id d' form' ok' s →
          hiddenRight id ((stockHandler (.edit d' form')).alone ok' s).2 ∧
            counted id ((stockHandler (.edit d' form')).alone ok' s).2 := fun hno => by
        rw [hiddenRight, counted, edit_keeps hno]
        exact start
      refine ⟨fun h => ?_, fun h n => ?_⟩
      · have hno : ¬ editStores id d' form' ok' s := fun hyes => edit_hides hid hyes (h 1)
        exact ⟨hno, (ih _ hpos.2 (next hno)).1 fun n => h (n + 1)⟩
      · cases n with
        | zero => exact start.1
        | succ n => exact (ih _ hpos.2 (next h.1)).2 h.2 n

def figsForm : ProductForm := ⟨"figs", "Figs", "image", "Ripe figs", 6, 5, "A"⟩

def figsPosted : World :=
  ((AddProdController.postProducts aFarmer figsForm "figs").task.alone (fun _ => true) {}).2

def figsOrdered : List (StockEvent × (Access → Bool)) :=
  [(.order "farmer" "figs" 2, fun _ => true), (.order "farmer" "figs" 3, fun _ => true)]

theorem hidden_right_figs :
    hiddenRight "figs" (runEach stockHandler figsPosted figsOrdered) := by
  have positive : EachMeets stockHandler positiveOrder figsPosted figsOrdered :=
    ⟨by decide, by decide, trivial⟩
  have unedited : EachMeets stockHandler (notEditedNow "figs") figsPosted figsOrdered :=
    ⟨trivial, trivial, trivial⟩
  exact (hidden_right_iff (by decide) rfl aFarmer figsForm (fun _ => true) positive).2 unedited 2

/-- The farmer sends off the form as it is; the figs are hidden, with five kilos in stock. -/
theorem edit_hides_figs : ¬ ∀ (u : World) (id : String) (d : Device) (form : ProductForm)
    (events : List StockEvent), id ≠ "" → u.products id = none → ∀ n, hiddenRight id
      (runEach stockHandler
        ((AddProdController.postProducts d form id).task.alone (fun _ => true) u).2
        ((events.map fun e => (e, fun _ => true)).take n)) := by
  intro h
  have right := h {} "figs" aFarmer figsForm [.edit aFarmer figsForm] (by decide) rfl 1
  exact absurd right (by decide +kernel)

end Gherass
