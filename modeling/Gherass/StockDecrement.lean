import Gherass.EventLoopLedger
import Gherass.Marketplace
import Mathlib.Algebra.Order.Group.Int
import Mathlib.Data.Int.ConditionallyCompleteOrder
import Mathlib.Order.ConditionallyCompleteLattice.Indexed

set_option autoImplicit false

/-!
# Overlapping stock deductions

`updateProductQty` writes what it computed from an earlier read. A run pays its quantity
when its write lands, if nothing was written since that read.
-/
namespace Gherass

open EventLoop EventLoop.Async FirebaseHelper

/-- A line of a placed order whose quantity is to be deducted. -/
structure Decrement where
  farmerId : String
  productId : String
  qty : ℤ
  pos : 0 < qty

def Decrement.run (e : Decrement) : Task World Access Bool :=
  (updateProductQty e.farmerId e.productId e.qty).task

def Decrement.amount (farmerId productId : String) (e : Decrement) : ℤ :=
  if e.farmerId = farmerId ∧ e.productId = productId then e.qty else 0

/-- The quantities of a product that a list of moves sets out to deduct. -/
def deducting (farmerId productId : String) : List (Move Decrement) → ℤ
  | [] => 0
  | .start e :: ms => e.amount farmerId productId + deducting farmerId productId ms
  | _ :: ms => deducting farmerId productId ms

/-- A deduction is written while the stock is still what it has read. -/
def readStillStored : Access → World → Bool
  | .updateQty farmerId productId currentQty, w =>
    (farmProduct farmerId productId w).all fun p => p.stock = currentQty
  | _, _ => true

namespace Decrement

def remaining (e : Decrement) (currentQty : ℤ) : ℤ :=
  if currentQty - e.qty < 0 then 0 else currentQty - e.qty

theorem remaining_eq (e : Decrement) (currentQty : ℤ) :
    e.remaining currentQty = max 0 (currentQty - e.qty) := by
  unfold remaining
  split
  · omega
  · omega

def store (e : Decrement) (currentQty : ℤ) (s : World) : World × Except DartError Unit :=
  updateFarmProduct e.farmerId e.productId (fun p =>
    { p with
      qty := some (e.remaining currentQty)
      isHidden := if e.remaining currentQty = 0 then true else p.isHidden }) s

def write (e : Decrement) (currentQty : ℤ) : Task World Access Bool :=
  (call (.updateQty e.farmerId e.productId currentQty) (e.store currentQty)
    DartError.firestore).task

def read (e : Decrement) : Task World Access Bool :=
  .call .plain id (fun s => match farmProduct e.farmerId e.productId s with
    | some p => e.write p.stock
    | none => .stop) .stop

theorem run_eq (e : Decrement) :
    e.run = if e.farmerId = "" ∨ e.productId = "" then .stop else e.read := by
  unfold run updateProductQty checkPath
  by_cases hf : e.farmerId = ""
  · simp only [hf, true_or, if_true]
    rfl
  · by_cases hp : e.productId = ""
    · simp only [hf, hp, or_true, if_true, if_false]
      rfl
    · simp only [hf, hp, or_self, if_false]
      change Task.call _ _ _ _ = Task.call _ _ _ _
      congr 1
      funext s
      dsimp only
      cases farmProduct e.farmerId e.productId s with
      | some p => rfl
      | none => rfl

theorem amount_nonneg (e : Decrement) (farmerId productId : String) :
    0 ≤ e.amount farmerId productId := by
  have := e.pos
  unfold amount
  split
  · omega
  · omega

theorem store_product (e : Decrement) {currentQty : ℤ} {s : World} {farmerId id : String}
    {p : FarmProduct} (hp : s.products id = some p) (hf : p.farmerId = farmerId)
    (hread : ∀ p', farmProduct e.farmerId e.productId s = some p' → p'.stock = currentQty)
    (hq : 0 ≤ p.stock) :
    ∃ p' : FarmProduct, (e.store currentQty s).1.products id = some p' ∧ p'.farmerId = farmerId ∧
      p'.stock = max 0 (p.stock - e.amount farmerId id) := by
  have other : e.amount farmerId id = 0 → p.stock = max 0 (p.stock - e.amount farmerId id) :=
    fun h => by omega
  by_cases hid : e.productId = id
  case neg =>
    have hzero : e.amount farmerId id = 0 := if_neg fun h => hid h.2
    refine ⟨p, ?_, hf, other hzero⟩
    unfold store updateFarmProduct
    split
    · split
      · exact (Function.update_of_ne (Ne.symm hid) ..).trans hp
      · exact hp
    · exact hp
  case pos =>
    subst hid
    unfold store updateFarmProduct
    simp only [hp]
    split
    case isFalse hne =>
      have hzero : e.amount farmerId e.productId = 0 := if_neg fun h => hne (hf.trans h.1.symm)
      exact ⟨p, hp, hf, other hzero⟩
    case isTrue heq =>
      have hcur : p.stock = currentQty := hread p (by simp [farmProduct, hp, heq])
      have hamount : e.amount farmerId e.productId = e.qty := if_pos ⟨heq.symm.trans hf, rfl⟩
      refine ⟨_, Function.update_self .., hf, ?_⟩
      rw [hamount, hcur, ← e.remaining_eq]
      rfl

def ledger (farmerId productId : String) (supplied : ℤ) : Ledger World Decrement ℤ where
  charge e := e.amount farmerId productId
  inv s paid := ∃ p, s.products productId = some p ∧ p.farmerId = farmerId ∧
    p.stock = max 0 (supplied - paid)
  rel _ _ := True
  refl _ := trivial
  trans _ _ := trivial

theorem charged_eq (farmerId productId : String) (supplied : ℤ) (ms : List (Move Decrement)) :
    (ledger farmerId productId supplied).charged ms = deducting farmerId productId ms := by
  induction ms with
  | nil => rfl
  | cons m ms ih =>
    cases m with
    | start e => exact congrArg _ ih
    | serve | lose | resume => exact ih

variable {farmerId productId : String} {supplied : ℤ}

theorem pays_write (e : Decrement) (currentQty : ℤ) (s : World) (p : ℤ) :
    (e.write currentQty).Pays (ledger farmerId productId supplied)
      (.lossless readStillStored : Guard World Access Decrement) s p
      (e.amount farmerId productId) := by
  rintro t q ⟨product, hs, hf, hstock⟩ - -
  refine ⟨fun hl => ⟨0, le_rfl, ?_, trivial, fun u r _ _ _ => ?_⟩, fun hl => hl.elim⟩
  · have hread : ∀ p', farmProduct e.farmerId e.productId t = some p' → p'.stock = currentQty := by
      change readStillStored _ t = true at hl
      simpa [readStillStored, Option.all_eq_true] using hl
    obtain ⟨product', hs', hf', hstock'⟩ := e.store_product hs hf hread (by omega)
    have := e.amount_nonneg farmerId productId
    exact ⟨product', hs', hf', by omega⟩
  · dsimp only
    cases (e.store currentQty t).2 with
    | ok | error => rfl

theorem pays_read (hf : farmerId ≠ "") (hp : productId ≠ "") (e : Decrement) (s : World) (p : ℤ) :
    e.read.Pays (ledger farmerId productId supplied)
      (.lossless readStillStored : Guard World Access Decrement) s p
      (e.amount farmerId productId) := by
  intro t q ht _ _
  refine ⟨fun _ => ⟨e.amount farmerId productId, e.amount_nonneg farmerId productId, ?_, trivial,
    fun u r _ _ _ => ?_⟩, fun hl => hl.elim⟩
  · rwa [add_sub_cancel_right]
  · dsimp only
    cases hread : farmProduct e.farmerId e.productId t with
    | some product => exact pays_write e product.stock u r
    | none =>
      obtain ⟨product, hs, hpf, -⟩ := ht
      have hother : ¬(e.farmerId = farmerId ∧ e.productId = productId) := fun ⟨hef, hep⟩ => by
        subst hef hep
        simp [farmProduct, hs, hpf] at hread
      exact if_neg hother

theorem balances (hf : farmerId ≠ "") (hp : productId ≠ "") (supplied : ℤ) :
    (ledger farmerId productId supplied).Balances (.lossless readStillStored) run := by
  intro e s p _ _ _
  rw [run_eq]
  split
  case isTrue hempty =>
    refine if_neg fun h => ?_
    rcases hempty with he | he
    · exact hf (h.1.symm.trans he)
    · exact hp (h.2.symm.trans he)
  case isFalse => exact pays_read hf hp e s p

end Decrement

/-- Once all runs are over, a product's stock is what all their quantities together leave
    of it, if each was written while the stock was still what its run had read. -/
theorem decrements_kept {u v : Market} {ms : List (Move Decrement)} (hu : u.slots = [])
    (hm : Meeting Decrement.run (.lossless readStillStored) u ms)
    (hx : exec Decrement.run u ms = some v) (hv : v.slots = []) {id : String} (hid : id ≠ "")
    {p : FarmProduct} (hp : u.state.products id = some p) (hf : p.farmerId ≠ "")
    (hq : 0 ≤ p.stock) :
    ∃ p', v.state.products id = some p' ∧
      p'.stock = max 0 (p.stock - deducting p.farmerId id ms) := by
  have start : (Decrement.ledger p.farmerId id p.stock).inv u.state 0 :=
    ⟨p, hp, rfl, by omega⟩
  have held := (Ledger.Holds.idle hu trivial start).run (Decrement.balances hf hid p.stock)
    (fun e => e.amount_nonneg p.farmerId id) hm hx
  obtain ⟨p', hp', -, hstock⟩ := held.settled hv
  refine ⟨p', hp', ?_⟩
  rwa [zero_add, Decrement.charged_eq] at hstock

def takeThree : Decrement := ⟨"farmer", "dates", 3, by decide⟩

def takeFour : Decrement := ⟨"farmer", "dates", 4, by decide⟩

def inTurn : List (Move Decrement) :=
  [.start takeThree, .serve 0, .resume 0, .serve 0, .start takeFour, .resume 0, .serve 0,
    .resume 0, .serve 0, .resume 0]

theorem decrements_kept_inTurn :
    ∃ p', (Pool.after Decrement.run ⟨datesMarket, []⟩ inTurn).state.products "dates" = some p' ∧
      p'.stock = max 0 (10 - (3 + (4 + 0))) :=
  decrements_kept (u := ⟨datesMarket, []⟩) (p := someDates) rfl (by decide +kernel)
    (exec_after (by decide +kernel)) (by decide +kernel) (by decide) rfl (by decide) (by decide)

/-- Both runs read ten; the second write forgets the first. -/
theorem decrement_lost : ¬ ∀ (u v : Market) (ms : List (Move Decrement)), u.slots = [] →
    exec Decrement.run u ms = some v → v.slots = [] → ∀ (id : String) (p : FarmProduct),
    id ≠ "" → u.state.products id = some p → p.farmerId ≠ "" → 0 ≤ p.stock →
    ∃ p', v.state.products id = some p' ∧
      p'.stock = max 0 (p.stock - deducting p.farmerId id ms) := by
  intro h
  let u : Market := ⟨datesMarket, []⟩
  let overlap : List (Move Decrement) := [.start takeThree, .start takeFour, .serve 0, .serve 1,
    .resume 0, .resume 0, .serve 0, .serve 1, .resume 0, .resume 0]
  obtain ⟨p, hp, hstock⟩ := h u (u.after Decrement.run overlap) overlap rfl
    (exec_after (by decide +kernel)) (by decide +kernel) "dates" _ (by decide) rfl (by decide)
    (by decide)
  have stored : ((u.after Decrement.run overlap).state.products "dates").map
      (·.stock) = some 6 := by decide +kernel
  rw [hp, Option.map_some] at stored
  rw [Option.some.inj stored] at hstock
  exact absurd hstock (by decide)

end Gherass
