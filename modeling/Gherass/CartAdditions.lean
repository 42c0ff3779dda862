import Gherass.CartItemPrograms
import Mathlib.Algebra.Order.Group.Int
import Mathlib.Algebra.Order.Monoid.Prod
import Mathlib.Data.Int.ConditionallyCompleteOrder
import Mathlib.Order.ConditionallyCompleteLattice.Indexed

set_option autoImplicit false

/-!
# Adding an item over and over

Every addition inserts, or adds to what it has read; whether the cart ends up with all of them
depends on whether that is still so when it writes.
-/
namespace Gherass

open EventLoop EventLoop.Async FirebaseHelper MyCartController

namespace CartItem

variable (i : CartItem)

def addition : Event → ℤ
  | .addToCart d p => if i.Concerns d.uid p then p.qty else 0
  | _ => 0

def added : List (Move Event) → ℤ
  | [] => 0
  | .start e :: ms => i.addition e + added ms
  | _ :: ms => added ms

def spared (l : Access) (w : World) : Bool :=
  match l.overwrites with
  | some (uid, p, id) => uid = i.uid → p.farmerId = i.farmerId → ¬ i.Is p → w.stored i id = none
  | none => true

/-- What is written of the item has been computed from what is stored of it when it is written: an
    insertion from there being none, a new quantity from the quantity, a validated one from the
    quantity and the stock. A reload shows the item, unless there is nothing to validate. -/
def upToDate (l : Access) (w : World) : Bool :=
  i.spared l w && match l with
  | .addLine uid p => i.Concerns uid p → w.lines i = []
  | .addQty uid p id existingQty => i.Concerns uid p → w.stored i id = some existingQty
  | .storeLine uid p previousQty => i.Concerns uid p → w.stored i p.id = some previousQty
  | .writeBack uid p totalQty =>
    i.Concerns uid p → (w.stored i p.id).map (min · totalQty) = some p.qty
  | .showCart d products => d.uid = i.uid → (∃ p ∈ products, i.Is p ∧ p.id ≠ "") ∨ w.Capped i
  | _ => true

/-- The writes are up to date, and no duplicate of the item is cleaned up. -/
def undisturbed (l : Access) (w : World) : Bool :=
  i.upToDate l w && match l with
  | .removeLine uid farmerId id => uid = i.uid → farmerId = i.farmerId → w.stored i id = none
  | _ => true

def shownAs (d : Device) (p : Product) (w : World) : Bool :=
  ((w.cartPages d).found p).all fun o => d.uid = i.uid → (i.Is ((w.cartPages d).objects o) ↔ i.Is p)

/-- The carts are in use, and of the item more is added but no other quantity is asked for. -/
def onlyAdded (e : Event) (w : World) : Bool :=
  e.group = .cart && match e with
  | .addToCart d p => i.Concerns d.uid p → 0 < p.qty
  | .updateQuantity d p _ => ¬ i.Concerns d.uid p ∧ i.shownAs d p w
  | _ => true

variable {i}

theorem spared_other {l : Access} {w : World} {p : Product} {id : String}
    (h : i.spared l w = true) (hl : l.overwrites = some (i.uid, p, id)) (hp : ¬ i.Is p)
    (hf : p.farmerId = i.farmerId) : w.stored i id = none := by
  rw [spared, hl] at h
  exact of_decide_eq_true h rfl hf hp

section UpToDate

variable {w : World} {p : Product} (hp : i.Is p)
include hp

theorem upToDate_addLine (h : i.upToDate (.addLine i.uid p) w = true) : w.lines i = [] :=
  of_decide_eq_true (Bool.and_eq_true_iff.1 h).2 ⟨rfl, hp⟩

theorem upToDate_addQty {id : String} {n : ℤ} (h : i.upToDate (.addQty i.uid p id n) w = true) :
    w.stored i id = some n := of_decide_eq_true (Bool.and_eq_true_iff.1 h).2 ⟨rfl, hp⟩

theorem upToDate_storeLine {n : ℤ} (h : i.upToDate (.storeLine i.uid p n) w = true) :
    w.stored i p.id = some n := of_decide_eq_true (Bool.and_eq_true_iff.1 h).2 ⟨rfl, hp⟩

theorem upToDate_writeBack {n : ℤ} (h : i.upToDate (.writeBack i.uid p n) w = true) :
    ∃ q, w.stored i p.id = some q ∧ min q n = p.qty :=
  Option.map_eq_some_iff.1 (of_decide_eq_true (Bool.and_eq_true_iff.1 h).2 ⟨rfl, hp⟩)

end UpToDate

theorem upToDate_showCart {d : Device} {products : List Product} {w : World}
    (h : i.upToDate (.showCart d products) w = true) (hd : d.uid = i.uid) :
    (∃ p ∈ products, i.Is p ∧ p.id ≠ "") ∨ w.Capped i :=
  of_decide_eq_true (Bool.and_eq_true_iff.1 h).2 hd

theorem shownAs_iff {d : Device} {p : Product} {w : World} (h : i.shownAs d p w = true) {o : ℕ}
    (ho : (w.cartPages d).found p = some o) (hd : d.uid = i.uid) :
    i.Is ((w.cartPages d).objects o) ↔ i.Is p := by
  rw [shownAs, ho, Option.all_some, decide_eq_true_eq] at h
  exact h hd

end CartItem

section Amounts

variable {i : CartItem} {s t : World} {n q : ℤ} {id : String}

theorem CartItem.Writes.stockOf {r : Option ℤ} (h : i.Writes id r s t) :
    t.stockOf i = s.stockOf i := h.later.stockOf i

theorem CartItem.Writes.stored_none (h : i.Writes id none s t) (hid : s.stored i id = none)
    (j : String) : t.stored i j = s.stored i j := by
  rw [h.stored]
  split
  case isTrue heq => rw [← heq, hid]
  case isFalse => rfl

theorem World.Amounts.insert (h : s.Amounts i n) (hnone : s.lines i = []) (hq : 0 < q)
    (hw : i.Writes id (some q) s t) : t.Amounts i (n + q) := by
  have none := lines_eq_nil.1 hnone
  have hn : n = 0 := by
    by_contra hne
    obtain ⟨id', q', hq', -⟩ := h.one_of_pos (lt_of_le_of_ne h.nonneg (Ne.symm hne))
    rw [none] at hq'
    cases hq'
  rw [hn, zero_add]
  exact .of_write hq hw.stored (fun j _ => none j) rfl

theorem World.Amounts.raise (h : s.Amounts i n) (hstored : s.stored i id = some q) {k : ℤ}
    (hk : 0 < k) (hw : i.Writes id (some (q + k)) s t) : t.Amounts i (n + k) := by
  obtain ⟨hn, hothers, hmin⟩ := h.of_stored hstored
  refine .of_write (by omega) hw.stored hothers ?_
  rw [hw.stockOf]
  omega

theorem World.Amounts.validate (h : s.Amounts i n) (hstored : s.stored i id = some q)
    (hw : i.Writes id (some (min q (s.stockOf i))) s t) : t.Amounts i n := by
  obtain ⟨hn, hothers, hmin⟩ := h.of_stored hstored
  refine .of_write hn hw.stored hothers ?_
  rw [hw.stockOf]
  omega

theorem CartItem.Writes.capped (hw : i.Writes id (some q) s t) (hq : q ≤ s.stockOf i)
    (hothers : ∀ j, j ≠ id → s.stored i j = none) : t.Capped i := capped_iff.2 fun j r hr => by
  rw [hw.stored] at hr
  split at hr
  case isTrue =>
    cases hr
    rwa [hw.stockOf]
  case isFalse hne =>
    rw [hothers j (Ne.symm hne)] at hr
    cases hr

end Amounts

section Ledger

variable (i : CartItem)

def additionLedger : Ledger World Event (ℤ × ℤ) where
  charge e := (max (i.addition e) 0, 0)
  inv s m := i.bystander.inv s ∧ s.Amounts i m.1 ∧ (m.2 = 0 → s.Capped i)
  rel := World.Later
  limit m := m.2 ≤ 0
  refl := .refl
  trans := .trans
  limit_le h hm := (Prod.le_def.1 h).2.trans hm
  limit_charge _ hm := by rwa [Prod.snd_add, add_zero]

def additionDebts : CartDebts (ℤ × ℤ) where
  adding n := (max n 0, 0)
  setting _ := 0
  validation := (0, 1)
  finishing := 0
  removal _ := 0
  listed _ := 0
  wants _ := True
  adding_nonneg n := Prod.le_def.2 ⟨le_max_right n 0, le_rfl⟩
  setting_nonneg _ := le_rfl
  validation_nonneg := Prod.le_def.2 ⟨le_rfl, zero_le_one⟩
  finishing_nonneg := le_rfl
  removal_nonneg _ := le_rfl
  listed_nonneg _ := le_rfl

abbrev additionGuard : Guard World Access Event :=
  .computed i.onlyAdded i.undisturbed fun _ _ => false

variable {i} {s t : World} {m : ℤ × ℤ}

theorem additions_page {d : Device} {f : MyCartController → MyCartController}
    (hs : (additionLedger i).inv s m) (allocated : (f (s.cartPages d)).Allocated)
    (objects : (s.cartPages d).KeepsObjects (f (s.cartPages d))) :
    Books (additionLedger i) s (s.setCartPage d f) m := by
  obtain ⟨inv, later⟩ := page_later hs.1 allocated objects
  exact ⟨⟨inv, hs.2.1.congr (fun _ => rfl) rfl, fun h => (hs.2.2 h).congr (fun _ => rfl) rfl⟩,
    later⟩

theorem additions_stored {id : String} {r : Option ℤ} {k : ℤ} (hk : 0 < k)
    (hs : (additionLedger i).inv s m) (hl : (additionLedger i).limit (m + additionDebts.adding k))
    (hw : i.Writes id r s t) (hamounts : t.Amounts i (m.1 + k)) :
    Books (additionLedger i) s t (m + additionDebts.adding k -
      (additionDebts.validation + additionDebts.finishing)) := by
  have hsum : m + additionDebts.adding k - (additionDebts.validation + additionDebts.finishing) =
      (m.1 + k, m.2 - 1) := by
    refine Prod.ext ?_ ?_
    · change m.1 + max k 0 - (0 + 0) = m.1 + k
      omega
    · change m.2 + 0 - (1 + 0) = m.2 - 1
      omega
  have hlimit : m.2 + 0 ≤ 0 := hl
  rw [hsum]
  refine ⟨⟨fun d => ?_, hamounts, fun hzero => ?_⟩, hw.later⟩
  · rw [hw.pages]
    exact hs.1 d
  · change m.2 - 1 = 0 at hzero
    omega

theorem additions_kept {id : String} {r : Option ℤ} {v : ℤ × ℤ} (hv : v.1 = 0)
    (hs : (additionLedger i).inv s m) (hw : i.Writes id r s t) (hamounts : t.Amounts i m.1)
    (hcapped : t.Capped i) : Books (additionLedger i) s t (m + v) := by
  refine ⟨⟨fun d => ?_, ?_, fun _ => hcapped⟩, hw.later⟩
  · rw [hw.pages]
    exact hs.1 d
  · rw [Prod.fst_add, hv, add_zero]
    exact hamounts

theorem additionGuard_adds {d : Device} {p : Product}
    (h : (additionGuard i).start (.addToCart d p) s) (hp : i.Concerns d.uid p) : 0 < p.qty :=
  of_decide_eq_true (Bool.and_eq_true_iff.1 h).2 hp

theorem additionGuard_updates {d : Device} {p : Product} {x : ℤ}
    (h : (additionGuard i).start (.updateQuantity d p x) s) :
    ¬ i.Concerns d.uid p ∧ i.shownAs d p s = true := of_decide_eq_true (Bool.and_eq_true_iff.1 h).2

theorem additionGuard_access {l : Access} (h : (additionGuard i).access l s) :
    i.upToDate l s = true := (Bool.and_eq_true_iff.1 h).1

theorem additions_adds {d : Device} {p : Product} (hp : i.Concerns d.uid p) (hqty : 0 < p.qty) :
    CartLedger.Adds i additionDebts (additionLedger i) (additionGuard i) d p where
  request s m _ hs _ := by
    have hsum :
        m + (additionLedger i).charge (.addToCart d p) - additionDebts.adding p.qty = m := by
      simp only [additionLedger, additionDebts, CartItem.addition, if_pos hp, add_sub_cancel_right]
    rw [hsum]
    exact ⟨⟨⟨hs.1, hs.2.1.congr (fun _ => rfl) rfl, fun h => (hs.2.2 h).congr (fun _ => rfl) rfl⟩,
      rfl, fun _ _ ho => ⟨ho, rfl⟩⟩, trivial⟩
  object s m _ hs := by
    obtain ⟨allocated, objects, -⟩ := allocated_addObject (hs.1 d) p
    exact additions_page hs allocated objects
  line id s t m h _ hw hs hl := by
    have hnone := CartItem.upToDate_addLine hp.2 (additionGuard_access h)
    exact additions_stored hqty hs hl hw (hs.2.1.insert hnone hqty hw)
  qty id n s t m h hw hs hl := by
    have hstored := CartItem.upToDate_addQty hp.2 (additionGuard_access h)
    rw [hstored] at hw
    exact additions_stored hqty hs hl hw (hs.2.1.raise hstored hqty hw)
  store q previousQty s t m hq hsum h hw hs hl := by
    have hstored := CartItem.upToDate_storeLine hq (additionGuard_access h)
    rw [hsum] at hw
    exact additions_stored hqty hs hl hw (hs.2.1.raise hstored hqty hw)

theorem cartLedger_additions (i : CartItem) :
    CartLedger i additionDebts (additionLedger i) (additionGuard i) where
  later _ _ h := h
  covers := ⟨fun _ _ h => h.1, fun _ _ _ hr hi h =>
    ⟨hi, h.2.1.congr hr.1.stored (hr.2.stockOf i), fun h0 =>
      (h.2.2 h0).congr hr.1.stored (hr.2.stockOf i)⟩, fun _ _ hr => hr.2⟩
  lossless _ _ h := by cases h
  events _ _ h := of_decide_eq_true (Bool.and_eq_true_iff.1 h).1
  charge e h := by
    have hzero : i.addition e = 0 := by
      cases e with
      | addToCart d p =>
        refine if_neg fun hp => (h d p hp).1 rfl
      | _ => rfl
    change ((max (i.addition e) 0 : ℤ), (0 : ℤ)) = 0
    rw [hzero]
    rfl
  others l t p id hl h hp hf :=
    CartItem.spared_other (Bool.and_eq_true_iff.1 (Bool.and_eq_true_iff.1 h).1).1 hl hp hf
  shownAs d p x s o h hd ho := CartItem.shownAs_iff (additionGuard_updates h).2 ho hd
  shownOwn d p x s hp h := absurd hp (additionGuard_updates h).1
  accepted d p x totalQty s hp h _ := by
    obtain ⟨_, h⟩ := h
    exact absurd hp (additionGuard_updates h).1
  adds d p s hp h := additions_adds hp (additionGuard_adds h hp)
  sets d p x s hp h _ := absurd hp (additionGuard_updates h).1
  removes d p x s hp h _ := absurd hp (additionGuard_updates h).1
  ended p s m _ hs _ := by
    rw [show m + additionDebts.finishing = m from add_zero m]
    exact ⟨⟨hs.1, hs.2.1.congr (fun _ => rfl) rfl, fun h => (hs.2.2 h).congr (fun _ => rfl) rfl⟩,
      rfl, fun _ _ ho => ⟨ho, rfl⟩⟩
  removeLine id s t m h hw hs := by
    have hid := of_decide_eq_true (Bool.and_eq_true_iff.1 h).2 rfl rfl
    refine ⟨⟨fun d => by rw [hw.pages]; exact hs.1 d, hs.2.1.congr (hw.stored_none hid) hw.stockOf,
      fun h0 => (hs.2.2 h0).congr (hw.stored_none hid) hw.stockOf⟩, hw.later⟩
  replaced d products s m _ _ hs := by
    obtain ⟨allocated, objects⟩ := allocated_replaceList (s.cartPages d) products
    exact additions_page hs allocated objects
  shown d products s m hd h hs _ := by
    rcases CartItem.upToDate_showCart (additionGuard_access h) hd with hown | hcapped
    · exact .inl hown
    · refine .inr ⟨hs.1, ?_, fun _ => hcapped⟩
      rw [Prod.fst_add, show (additionDebts.validation).1 = 0 from rfl, add_zero]
      exact hs.2.1
  writeBack p v s t m hp hv _ h hw hs _ := by
    obtain ⟨q, hq, hmin⟩ := CartItem.upToDate_writeBack hp (additionGuard_access h)
    rw [← hmin] at hw
    refine additions_kept ?_ hs hw (hs.2.1.validate hq hw)
      (hw.capped (min_le_right ..) (hs.2.1.of_stored hq).2.1)
    rcases hv with rfl | rfl
    · rfl
    · rfl

theorem addition_nonneg {e : Event} (h : (additionGuard i).start e s) : 0 ≤ i.addition e := by
  cases e with
  | addToCart d p =>
    change 0 ≤ if i.Concerns d.uid p then p.qty else 0
    split
    case isTrue hp => exact (additionGuard_adds h hp).le
    case isFalse => exact le_rfl
  | _ => exact le_rfl

theorem charged_added {flow : StatusLists} {ids : IdSupply} {w v : Market} {ms : List (Move Event)}
    (hm : Meeting (handler flow ids) (additionGuard i) w ms)
    (hx : exec (handler flow ids) w ms = some v) :
    (additionLedger i).charged ms = (i.added ms, 0) := by
  induction ms generalizing w with
  | nil => rfl
  | cons move ms ih =>
    obtain ⟨u, hu, hx⟩ := Option.bind_eq_some_iff.1 hx
    simp only [Meeting, hu] at hm
    rw [Ledger.charged_cons, ih hm.2 hx]
    cases move with
    | start e =>
      have charge : (additionLedger i).charge e = (i.addition e, 0) := by
        change ((max (i.addition e) 0 : ℤ), (0 : ℤ)) = _
        rw [max_eq_left (addition_nonneg hm.1.1)]
      rw [Ledger.charged, Ledger.charged, add_zero, charge]
      rfl
    | serve | lose | resume => exact zero_add _

end Ledger

/-- In every run in which additions of an item are up to date when they are stored, and the
    reloads show what they are to validate, there is in the end one document for the item, with
    all that was added, as far as the stock goes. -/
theorem added_up {i : CartItem} {flow : StatusLists} {ids : IdSupply} {w v : Market}
    {ms : List (Move Event)} {n : ℤ} (hw : w.slots = [])
    (hpages : ∀ d, (w.state.cartPages d).Allocated) (hn : w.state.Amounts i n)
    (hcapped : w.state.Capped i) (hm : Meeting (handler flow ids) (additionGuard i) w ms)
    (hx : exec (handler flow ids) w ms = some v) (hv : v.slots = []) :
    (v.state.lines i).map (fun doc => doc.2.qty) =
      if n + i.added ms = 0 then [] else [min (n + i.added ms) (v.state.stockOf i)] := by
  have start : (additionLedger i).inv w.state (n, 0) := ⟨hpages, hn, fun _ => hcapped⟩
  have nonneg (e : Event) : 0 ≤ (additionLedger i).charge e :=
    Prod.le_def.2 ⟨le_max_right _ 0, le_rfl⟩
  have held := (Ledger.Holds.idle hw le_rfl start).run
    ((cartLedger_additions i).balances nonneg flow ids) nonneg hm hx
  rw [charged_added hm hx, Prod.mk_add_mk, add_zero] at held
  obtain ⟨-, hamounts, hcap⟩ := held.settled hv
  exact hamounts.lines_eq (hcap rfl)

theorem dateFarmer_ne_empty : "farmer" ≠ "" := by decide

def dateItem : CartItem := ⟨aCustomer.uid, "farmer", "dates", dateFarmer_ne_empty⟩

def someKilos (qty : ℤ) : Product :=
  { farmerId := "farmer", prodId := "dates", name := "Dates", price := 4, qty := qty }

/-- The program that has waited longest is served and goes on, `n` times over. -/
def oldestFirst (n : ℕ) : List (Move Event) := (List.replicate n [.serve 0, .resume 0]).flatten

/-- The second addition comes when the first has been served `k` times. -/
def addedTwice (qty qty' : ℤ) (k l : ℕ) : List (Move Event) :=
  .start (.addToCart aCustomer (someKilos qty)) :: oldestFirst k ++
    .start (.addToCart aCustomer (someKilos qty')) :: oldestFirst l

theorem datesMarket_lacks : datesMarket.Amounts dateItem 0 :=
  ⟨le_rfl, fun _ => lines_eq_nil.1 (by decide +kernel), fun h => absurd h (lt_irrefl 0)⟩

theorem datesMarket_pages (d : Device) : (datesMarket.cartPages d).Allocated :=
  fun _ ho => by cases ho

theorem thirteen_added :
    (((⟨datesMarket, []⟩ : Market).after smallHandler (addedTwice 8 5 2 19)).state.lines
      dateItem).map (fun doc => doc.2.qty) = [10] := by
  exact (@added_up dateItem smallFlow.toStatusLists .longer ⟨datesMarket, []⟩ _
    (addedTwice 8 5 2 19) 0 rfl datesMarket_pages datesMarket_lacks (by decide +kernel)
    (by decide +kernel) (exec_after (by decide +kernel)) (by decide +kernel)).trans
    (by decide +kernel)

/-- Both additions find no document, and both insert one; the reload deletes the second. -/
theorem second_addition_lost : ¬ ∀ (w v : Market) (ms : List (Move Event)), w.slots = [] →
    (∀ d, (w.state.cartPages d).Allocated) → w.state.Amounts dateItem 0 →
    Meeting smallHandler (.computed dateItem.onlyAdded (fun _ _ => true) fun _ _ => false) w ms →
    exec smallHandler w ms = some v → v.slots = [] → 0 < dateItem.added ms →
    (v.state.lines dateItem).map (fun doc => doc.2.qty) =
      [min (dateItem.added ms) (v.state.stockOf dateItem)] := by
  intro h
  have both := h ⟨datesMarket, []⟩ _ (addedTwice 2 3 0 24) rfl datesMarket_pages datesMarket_lacks
    (by decide +kernel) (exec_after (by decide +kernel)) (by decide +kernel) (by decide +kernel)
  exact absurd both (by decide +kernel)

end Gherass
