import Gherass.CartAdditions
import Mathlib.Algebra.Order.Pi

set_option autoImplicit false

/-!
# The quantity that was asked for last

One change of an item after another, among reloads and validations that are still under way:
what was asked for is what is stored when all of them are over.
-/
namespace Gherass

open EventLoop EventLoop.Async FirebaseHelper MyCartController

/-- How far the program of a request has come. -/
inductive CartPhase where
  | adding (n : ℤ)
  | setting (x : ℤ)
  | finishing
  deriving DecidableEq

abbrev CartDues := (CartPhase → ℤ) × (String → ℤ) × ℤ

namespace CartItem

variable (i : CartItem)

/-- The writes are up to date, a deletion finds the item only if it is not wanted, and a request
    is within the stock and is for what is on show. -/
def answered (l : Access) (w : World) : Bool :=
  i.upToDate l w && match l with
  | .removeLine uid farmerId id => uid = i.uid → farmerId = i.farmerId →
    w.stored i id = none ∨ (w.wanted i).qty ≤ 0
  | .checkQuantity d p quantity totalQty => i.Concerns d.uid p → quantity ≤ totalQty
  | .removeItem d p => i.Concerns d.uid p →
    ((w.cartPages d).shown.find? fun item => item.id = p.id).any (·.farmerId = i.farmerId)
  | _ => true

/-- A change of the item is asked for when the program of the last one is over; another quantity
    is asked for where the item is on show and stored. -/
def oneByOne (e : Event) (w : World) : Bool :=
  e.group = .cart && match e with
  | .addToCart d p => i.Concerns d.uid p → 0 < p.qty ∧ (w.wanted i).pending = false ∧
    ((w.wanted i).qty = 0 → w.lines i = [])
  | .updateQuantity d p _ => i.shownAs d p w ∧ (i.Concerns d.uid p → p.id ≠ "" ∧
    ((w.cartPages d).found p).isSome ∧ w.stored i p.id ≠ none ∧ (w.wanted i).pending = false ∧
      0 < (w.wanted i).qty)
  | _ => true

/-- What is stored is what is wanted, or a deletion that is owed will make it so. -/
def Settled (s : World) (deletions : String → ℤ) : Prop :=
  s.Amounts i (s.wanted i).qty ∨ ((s.wanted i).qty = 0 ∧
    ∃ id, deletions id < 0 ∧ ∀ j, j ≠ id → s.stored i j = none)

/-- What is stored, by how far the program of the last request has come. -/
inductive Stage (s : World) (deletions : String → ℤ) : Option CartPhase → Prop where
  | ended (pending : (s.wanted i).pending = false) (settled : i.Settled s deletions) :
    Stage s deletions none
  | finishing (pending : (s.wanted i).pending = true) (settled : i.Settled s deletions) :
    Stage s deletions (some .finishing)
  | adding (n : ℤ) (pending : (s.wanted i).pending = true) (pos : 0 < n)
    (stored : s.Amounts i ((s.wanted i).qty - n)) : Stage s deletions (some (.adding n))
  | setting (x old : ℤ) (pending : (s.wanted i).pending = true) (pos : 0 < x)
    (asked : (s.wanted i).qty = x) (stored : s.Amounts i old) :
    Stage s deletions (some (.setting x))

end CartItem

section Stages

variable {i : CartItem} {s t : World} {r r' : String → ℤ} {f : Option CartPhase}

theorem CartItem.Settled.congr (h : i.Settled s r) (hs : ∀ id, t.stored i id = s.stored i id)
    (hwanted : (t.wanted i).qty = (s.wanted i).qty) (hp : t.stockOf i = s.stockOf i) :
    i.Settled t r := by
  rcases h with h | ⟨hzero, id, hid, hothers⟩
  · exact .inl (by rw [hwanted]; exact h.congr hs hp)
  · exact .inr ⟨hwanted.trans hzero, id, hid, fun j hj => (hs j).trans (hothers j hj)⟩

theorem CartItem.Stage.congr (h : i.Stage s r f) (hs : ∀ id, t.stored i id = s.stored i id)
    (hwanted : t.wanted i = s.wanted i) (hp : t.stockOf i = s.stockOf i) : i.Stage t r f := by
  cases h with
  | ended pending settled => exact .ended (hwanted ▸ pending) (settled.congr hs (by rw [hwanted]) hp)
  | finishing pending settled =>
    exact .finishing (hwanted ▸ pending) (settled.congr hs (by rw [hwanted]) hp)
  | adding n pending pos stored =>
    exact .adding n (hwanted ▸ pending) pos (by rw [hwanted]; exact stored.congr hs hp)
  | setting x old pending pos asked stored =>
    exact .setting x old (hwanted ▸ pending) pos (hwanted ▸ asked) (stored.congr hs hp)

theorem CartItem.Settled.delete (h : i.Settled s r) {id : String}
    (hw : i.Writes id none s t) (hid : s.stored i id = none ∨ (s.wanted i).qty ≤ 0)
    (hr : ∀ j, j ≠ id → r' j = r j) : i.Settled t r' := by
  have none_of (hall : ∀ j, j ≠ id → s.stored i j = none) : ∀ j, t.stored i j = none := fun j => by
    rw [hw.stored]
    split
    case isTrue => rfl
    case isFalse hne => exact hall j (Ne.symm hne)
  have empty (hzero : (s.wanted i).qty = 0) (hall : ∀ j, j ≠ id → s.stored i j = none) :
      i.Settled t r' := by
    refine .inl ⟨?_, fun _ => none_of hall, fun hpos => ?_⟩
    · rw [hw.wanted, hzero]
    · rw [hw.wanted, hzero] at hpos
      exact absurd hpos (lt_irrefl 0)
  rcases h with h | ⟨hzero, id', hneg, hothers⟩
  · rcases hid with hnone | hle
    · refine .inl ?_
      rw [hw.wanted]
      exact h.congr (hw.stored_none hnone) hw.stockOf
    · have hzero := le_antisymm hle h.nonneg
      exact empty hzero fun j _ => h.none_of_zero hzero j
  · by_cases heq : id' = id
    · exact empty hzero (heq ▸ hothers)
    · refine .inr ⟨by rw [hw.wanted, hzero], id', by rwa [hr id' heq], fun j hj => ?_⟩
      rw [hw.stored]
      split
      case isTrue => rfl
      case isFalse => exact hothers j hj

theorem World.Capped.delete (h : s.Capped i) {id : String} (hw : i.Writes id none s t) :
    t.Capped i := capped_iff.2 fun j q hq => by
  rw [hw.stored] at hq
  split at hq
  case isTrue => cases hq
  case isFalse =>
    rw [hw.stockOf]
    exact capped_iff.1 h j q hq

theorem CartItem.Stage.delete (h : i.Stage s r f) {id : String}
    (hw : i.Writes id none s t) (hid : s.stored i id = none ∨ (s.wanted i).qty ≤ 0)
    (hr : ∀ j, j ≠ id → r' j = r j) : i.Stage t r' f := by
  cases h with
  | ended pending settled => exact .ended (hw.wanted ▸ pending) (settled.delete hw hid hr)
  | finishing pending settled => exact .finishing (hw.wanted ▸ pending) (settled.delete hw hid hr)
  | adding n pending pos stored =>
    have hnone : s.stored i id = none := hid.resolve_right fun hle => by
      have := stored.nonneg
      omega
    refine .adding n (hw.wanted ▸ pending) pos ?_
    rw [hw.wanted]
    exact stored.congr (hw.stored_none hnone) hw.stockOf
  | setting x old pending pos asked stored =>
    have hnone : s.stored i id = none := hid.resolve_right fun hle => by omega
    exact .setting x old (hw.wanted ▸ pending) pos (hw.wanted ▸ asked)
      (stored.congr (hw.stored_none hnone) hw.stockOf)

theorem CartItem.Stage.others (h : i.Stage s r f) {id : String} {q : ℤ}
    (hstored : s.stored i id = some q) : ∀ j, j ≠ id → s.stored i j = none := by
  have settled (h : i.Settled s r) : ∀ j, j ≠ id → s.stored i j = none := by
    rcases h with h | ⟨-, id', -, hothers⟩
    · exact (h.of_stored hstored).2.1
    · obtain rfl : id = id' := by
        by_contra hne
        rw [hothers id hne] at hstored
        cases hstored
      exact hothers
  cases h with
  | ended _ h | finishing _ h => exact settled h
  | adding n _ _ stored | setting x n _ _ _ stored => exact (stored.of_stored hstored).2.1

theorem CartItem.Stage.validate (h : i.Stage s r f) {id : String} {q : ℤ}
    (hstored : s.stored i id = some q) (hw : i.Writes id (some (min q (s.stockOf i))) s t) :
    i.Stage t r f := by
  have settled (h : i.Settled s r) : i.Settled t r := by
    rcases h with h | ⟨hzero, id', hneg, hothers⟩
    · exact .inl (by rw [hw.wanted]; exact h.validate hstored hw)
    · refine .inr ⟨by rw [hw.wanted, hzero], id', hneg, fun j hj => ?_⟩
      rw [hw.stored, if_neg fun heq => ?_]
      · exact hothers j hj
      · rw [heq, hothers j hj] at hstored
        cases hstored
  cases h with
  | ended pending h => exact .ended (hw.wanted ▸ pending) (settled h)
  | finishing pending h => exact .finishing (hw.wanted ▸ pending) (settled h)
  | adding n pending pos stored =>
    exact .adding n (hw.wanted ▸ pending) pos (by rw [hw.wanted]; exact stored.validate hstored hw)
  | setting x old pending pos asked stored =>
    exact .setting x old (hw.wanted ▸ pending) pos (hw.wanted ▸ asked) (stored.validate hstored hw)

def CartPhase.owed : Option CartPhase → CartPhase → ℤ
  | none => 0
  | some k => -Pi.single k 1

theorem CartPhase.eq_of_owed {k : CartPhase} (hk : owed f k < 0) : f = some k := by
  cases f with
  | none => exact absurd hk (lt_irrefl 0)
  | some k' =>
    by_contra hne
    rw [owed, Pi.neg_apply, Pi.single_eq_of_ne fun heq => hne (by rw [heq])] at hk
    exact absurd hk (lt_irrefl _)

theorem CartPhase.eq_none_of_owed (hf : owed f = 0) : f = none := by
  cases f with
  | none => rfl
  | some k =>
    have own := congrFun hf k
    rw [owed, Pi.neg_apply, Pi.single_eq_same] at own
    cases own

theorem CartItem.Stage.idle (h : i.Stage s r f) (hp : (s.wanted i).pending = false) :
    f = none ∧ i.Settled s r := by
  cases h with
  | ended _ settled => exact ⟨rfl, settled⟩
  | finishing pending | adding _ pending | setting _ _ pending =>
    rw [hp] at pending
    cases pending

end Stages

section Ledger

variable (i : CartItem)

def requestLedger : Ledger World Event CartDues where
  charge _ := 0
  inv s m := i.bystander.inv s ∧ (∃ f, m.1 = CartPhase.owed f ∧ i.Stage s m.2.1 f) ∧
    (m.2.2 = 0 → s.Capped i)
  rel := World.Later
  limit m := m ≤ 0
  refl := .refl
  trans := .trans
  limit_le h hm := h.trans hm
  limit_charge _ hm := by rwa [add_zero]

def phaseDue (k : CartPhase) : CartDues := (Pi.single k 1, 0, 0)

theorem phaseDue_nonneg (k : CartPhase) : 0 ≤ phaseDue k :=
  Prod.le_def.2 ⟨Pi.single_nonneg.2 zero_le_one, le_rfl⟩

def requestDebts : CartDebts CartDues where
  adding n := phaseDue (.adding n)
  setting x := phaseDue (.setting x)
  validation := (0, 0, 1)
  finishing := phaseDue .finishing
  removal id := (0, Pi.single id 1, 0)
  listed _ := 0
  wants _ := True
  adding_nonneg _ := phaseDue_nonneg _
  setting_nonneg _ := phaseDue_nonneg _
  validation_nonneg := Prod.le_def.2 ⟨le_rfl, Prod.le_def.2 ⟨le_rfl, zero_le_one⟩⟩
  finishing_nonneg := phaseDue_nonneg _
  removal_nonneg _ := Prod.le_def.2 ⟨le_rfl, Prod.le_def.2 ⟨Pi.single_nonneg.2 zero_le_one, le_rfl⟩⟩
  listed_nonneg _ := le_rfl

abbrev requestGuard : Guard World Access Event :=
  .computed i.oneByOne i.answered fun _ _ => false

variable {i} {s t : World} {m : CartDues} {f : Option CartPhase}

theorem paid_phase {k : CartPhase} (hf : m.1 = CartPhase.owed f)
    (hl : (requestLedger i).limit (m + phaseDue k)) : f = some k ∧ m.1 + Pi.single k 1 = 0 := by
  have hk : m.1 k + (Pi.single k 1 : CartPhase → ℤ) k ≤ 0 := (Prod.le_def.1 hl).1 k
  rw [Pi.single_eq_same] at hk
  obtain rfl : f = some k := CartPhase.eq_of_owed (by rw [← hf]; omega)
  exact ⟨rfl, by rw [hf, CartPhase.owed, neg_add_cancel]⟩

theorem validations_le {k : CartPhase} (hl : (requestLedger i).limit (m + phaseDue k)) :
    m.2.2 ≤ 0 := by
  have := (Prod.le_def.1 (Prod.le_def.1 hl).2).2
  change m.2.2 + 0 ≤ 0 at this
  omega

theorem requests_page {d : Device} {f : MyCartController → MyCartController}
    (hs : (requestLedger i).inv s m) (allocated : (f (s.cartPages d)).Allocated)
    (objects : (s.cartPages d).KeepsObjects (f (s.cartPages d))) :
    Books (requestLedger i) s (s.setCartPage d f) m := by
  obtain ⟨inv, later⟩ := page_later hs.1 allocated objects
  obtain ⟨k, hk, stage⟩ := hs.2.1
  exact ⟨⟨inv, ⟨k, hk, stage.congr (fun _ => rfl) rfl rfl⟩,
    fun h => (hs.2.2 h).congr (fun _ => rfl) rfl⟩, later⟩

theorem requests_begin {d : Device} {p : Product} {x : ℤ → ℤ} {k : CartPhase} {m' : CartDues}
    (hp : i.Concerns d.uid p) (hs : (requestLedger i).inv s m)
    (hpending : (s.wanted i).pending = false) (hphase : m'.1 = m.1 - Pi.single k 1)
    (hvalid : m'.2.2 = m.2.2) (stage : i.Settled s m.2.1 →
      (s.request d.uid p x).wanted i = ⟨x (s.wanted i).qty, true⟩ →
        i.Stage (s.request d.uid p x) m'.2.1 (some k)) :
    Books (requestLedger i) s (s.request d.uid p x) m' := by
  obtain ⟨f, hf, hstage⟩ := hs.2.1
  obtain ⟨hidle, settled⟩ := hstage.idle hpending
  subst hidle
  have hwanted := wanted_request s hp x
  refine ⟨⟨hs.1, ⟨some k, ?_, stage settled hwanted⟩, fun h => ?_⟩, rfl, fun _ _ ho => ⟨ho, rfl⟩⟩
  · rw [hphase, hf]
    exact zero_sub _
  · exact (hs.2.2 (hvalid.symm.trans h)).congr (fun _ => rfl) rfl

theorem requests_stored {id : String} {r : Option ℤ} {k : CartPhase} {m' : CartDues}
    (hs : (requestLedger i).inv s m) (hl : (requestLedger i).limit (m + phaseDue k))
    (hw : i.Writes id r s t) (hphase : m'.1 = m.1 + Pi.single k 1 - Pi.single .finishing 1)
    (hdeletions : m'.2.1 = m.2.1)
    (stored : i.Stage s m.2.1 (some k) →
      (s.wanted i).pending = true ∧ t.Amounts i (s.wanted i).qty)
    (capped : m'.2.2 = 0 → t.Capped i) : Books (requestLedger i) s t m' := by
  obtain ⟨f, hf, hstage⟩ := hs.2.1
  obtain ⟨rfl, hzero⟩ := paid_phase hf hl
  obtain ⟨hpending, hamounts⟩ := stored hstage
  refine ⟨⟨fun d => ?_, ⟨some .finishing, ?_, ?_⟩, capped⟩, hw.later⟩
  · rw [hw.pages]
    exact hs.1 d
  · rw [hphase, hzero]
    exact zero_sub _
  · rw [hdeletions]
    exact .finishing (by rwa [hw.wanted]) (.inl (by rwa [hw.wanted]))

theorem requests_added {id : String} {r : Option ℤ} {n : ℤ} (hs : (requestLedger i).inv s m)
    (hl : (requestLedger i).limit (m + requestDebts.adding n)) (hw : i.Writes id r s t)
    (hadded : s.Amounts i ((s.wanted i).qty - n) → t.Amounts i ((s.wanted i).qty - n + n)) :
    Books (requestLedger i) s t (m + requestDebts.adding n -
      (requestDebts.validation + requestDebts.finishing)) := by
  refine requests_stored hs hl hw (congrArg (_ - ·) (zero_add _)) ?_ (fun stage => ?_) fun h => ?_
  · change m.2.1 + 0 - (0 + 0) = m.2.1
    rw [add_zero, add_zero, sub_zero]
  · cases stage with
    | adding n pending pos stored =>
      have hamounts := hadded stored
      rw [sub_add_cancel] at hamounts
      exact ⟨pending, hamounts⟩
  · have := validations_le hl
    change m.2.2 + 0 - (1 + 0) = 0 at h
    omega

theorem requests_deleted {id : String} {m' : CartDues} (hs : (requestLedger i).inv s m)
    (hw : i.Writes id none s t) (hid : s.stored i id = none ∨ (s.wanted i).qty ≤ 0)
    (hphase : m'.1 = m.1) (hdeletions : ∀ j, j ≠ id → m'.2.1 j = m.2.1 j)
    (hvalid : m'.2.2 = m.2.2) : Books (requestLedger i) s t m' := by
  obtain ⟨f, hf, stage⟩ := hs.2.1
  refine ⟨⟨fun d => ?_, ⟨f, hphase.trans hf, stage.delete hw hid hdeletions⟩, fun h => ?_⟩,
    hw.later⟩
  · rw [hw.pages]
    exact hs.1 d
  · exact (hs.2.2 (hvalid.symm.trans h)).delete hw

theorem requestGuard_adds {d : Device} {p : Product}
    (h : (requestGuard i).start (.addToCart d p) s) (hp : i.Concerns d.uid p) :
    0 < p.qty ∧ (s.wanted i).pending = false ∧ ((s.wanted i).qty = 0 → s.lines i = []) :=
  of_decide_eq_true (Bool.and_eq_true_iff.1 h).2 hp

theorem requestGuard_updates {d : Device} {p : Product} {x : ℤ}
    (h : (requestGuard i).start (.updateQuantity d p x) s) :
    i.shownAs d p s ∧ (i.Concerns d.uid p → p.id ≠ "" ∧ ((s.cartPages d).found p).isSome ∧
      s.stored i p.id ≠ none ∧ (s.wanted i).pending = false ∧ 0 < (s.wanted i).qty) :=
  of_decide_eq_true (Bool.and_eq_true_iff.1 h).2

theorem requestGuard_access {l : Access} (h : (requestGuard i).access l s) :
    i.upToDate l s = true := (Bool.and_eq_true_iff.1 h).1

theorem requests_adds {d : Device} {p : Product} (hp : i.Concerns d.uid p) (hqty : 0 < p.qty) :
    CartLedger.Adds i requestDebts (requestLedger i) (requestGuard i) d p where
  request s m h hs _ := by
    obtain ⟨-, hpending, hlines⟩ := requestGuard_adds h hp
    refine ⟨requests_begin hp hs hpending (congrArg (· - _) (add_zero m.1)) ?_
      fun settled hwanted => ?_, trivial⟩
    · change m.2.2 + 0 - 0 = m.2.2
      omega
    · refine .adding p.qty (by rw [hwanted]) hqty ?_
      have hold : s.Amounts i (s.wanted i).qty := by
        rcases settled with h | ⟨hzero, -⟩
        · exact h
        · rw [hzero]
          exact ⟨le_rfl, fun _ => lines_eq_nil.1 (hlines hzero), fun h => absurd h (lt_irrefl 0)⟩
      rw [hwanted, add_sub_cancel_right]
      exact hold.congr (fun _ => rfl) rfl
  object s m _ hs := by
    obtain ⟨allocated, objects, -⟩ := allocated_addObject (hs.1 d) p
    exact requests_page hs allocated objects
  line id s t m h _ hw hs hl := by
    have hnone := CartItem.upToDate_addLine hp.2 (requestGuard_access h)
    exact requests_added hs hl hw fun hamounts => hamounts.insert hnone hqty hw
  qty id n s t m h hw hs hl := by
    have hstored := CartItem.upToDate_addQty hp.2 (requestGuard_access h)
    rw [hstored] at hw
    exact requests_added hs hl hw fun hamounts => hamounts.raise hstored hqty hw
  store q previousQty s t m hq hsum h hw hs hl := by
    have hstored := CartItem.upToDate_storeLine hq (requestGuard_access h)
    rw [hsum] at hw
    exact requests_added hs hl hw fun hamounts => hamounts.raise hstored hqty hw

theorem requests_sets {d : Device} {p : Product} {x : ℤ} (hp : i.Concerns d.uid p) (hx : 0 < x) :
    CartLedger.Sets i requestDebts (requestLedger i) (requestGuard i) d p x where
  request s m h hs _ := by
    obtain ⟨-, -, -, hpending, hwants⟩ := (requestGuard_updates h).2 hp
    refine requests_begin hp hs hpending (congrArg (· - _) (add_zero m.1)) ?_
      fun settled hwanted => ?_
    · change m.2.2 + 0 - 0 = m.2.2
      omega
    · have hold : s.Amounts i (s.wanted i).qty := settled.resolve_right fun h => by omega
      refine .setting x _ (by rw [hwanted]) hx ?_ (hold.congr (fun _ => rfl) rfl)
      rw [hwanted]
      exact max_eq_left hx.le
  store q previousQty s t m hq hqty hstock h hw hs hl := by
    have hstored := CartItem.upToDate_storeLine hq (requestGuard_access h)
    obtain ⟨f, -, hstage⟩ := hs.2.1
    refine requests_stored hs hl hw rfl ?_ (fun stage => ?_) fun _ =>
      hw.capped hstock (hstage.others hstored)
    · change m.2.1 + 0 - 0 = m.2.1
      rw [add_zero, sub_zero]
    · cases stage with
      | setting x old pending pos asked stored =>
        rw [asked]
        exact ⟨pending, .of_write hx hw.stored (stored.of_stored hstored).2.1 rfl⟩

theorem requests_removes {d : Device} {p : Product} {x : ℤ} (hp : i.Concerns d.uid p)
    (hx : x ≤ 0) : CartLedger.Removes i requestDebts (requestLedger i) (requestGuard i) d p x where
  request s m h hs hl := by
    obtain ⟨-, -, hstored, hpending, hwants⟩ := (requestGuard_updates h).2 hp
    refine requests_begin (k := .finishing) hp hs hpending ?_ ?_ fun settled hwanted => ?_
    · change m.1 + 0 - (0 + Pi.single .finishing 1) = m.1 - Pi.single .finishing 1
      rw [add_zero, zero_add]
    · change m.2.2 + 0 - (0 + 0) = m.2.2
      omega
    · obtain ⟨q, hq⟩ := Option.ne_none_iff_exists'.1 hstored
      have hold : s.Amounts i (s.wanted i).qty := settled.resolve_right fun h => by omega
      refine .finishing (by rw [hwanted]) (.inr ⟨?_, p.id, ?_, (hold.of_stored hq).2.1⟩)
      · rw [hwanted]
        exact max_eq_right hx
      · have hneg : m.2.1 p.id + 0 ≤ 0 := (Prod.le_def.1 (Prod.le_def.1 hl).2).1 p.id
        change m.2.1 p.id + 0 - ((Pi.single p.id 1 : String → ℤ) p.id + 0) < 0
        rw [Pi.single_eq_same]
        omega
  removable q s hid hq h := by
    have hfound := of_decide_eq_true (Bool.and_eq_true_iff.1 h).2 ⟨hp.1, hq⟩
    rw [hid, Option.any_eq_true] at hfound
    obtain ⟨item, hitem, hfarmer⟩ := hfound
    exact ⟨item, hitem, of_decide_eq_true hfarmer⟩
  line s t m h hw hs _ := by
    have hid := of_decide_eq_true (Bool.and_eq_true_iff.1 h).2 rfl rfl
    rw [show requestDebts.listed p.id = 0 from rfl, sub_zero]
    refine requests_deleted hs hw hid (add_zero m.1) (fun j hj => ?_) (add_zero m.2.2)
    change m.2.1 j + (Pi.single p.id 1 : String → ℤ) j = m.2.1 j
    rw [Pi.single_eq_of_ne hj, add_zero]
  unlist s m hs _ := by
    rw [show m + requestDebts.listed p.id = m from add_zero m]
    refine requests_page hs (fun o ho => hs.1 d o ?_) fun _ ho => ⟨ho, rfl⟩
    simp only [removeWhere, setList, Function.update_self] at ho
    exact List.mem_of_mem_filter ho

theorem cartLedger_requests (i : CartItem) :
    CartLedger i requestDebts (requestLedger i) (requestGuard i) where
  later _ _ h := h
  covers := ⟨fun _ _ h => h.1, fun _ _ _ hr hi h => by
    obtain ⟨f, hf, stage⟩ := h.2.1
    exact ⟨hi, ⟨f, hf, stage.congr hr.1.stored hr.1.wanted (hr.2.stockOf i)⟩, fun h0 =>
      (h.2.2 h0).congr hr.1.stored (hr.2.stockOf i)⟩, fun _ _ hr => hr.2⟩
  lossless _ _ h := by cases h
  events _ _ h := of_decide_eq_true (Bool.and_eq_true_iff.1 h).1
  charge _ _ := rfl
  others l t p id hl h hp hf :=
    CartItem.spared_other (Bool.and_eq_true_iff.1 (requestGuard_access h)).1 hl hp hf
  shownAs d p x s o h hd ho := CartItem.shownAs_iff (requestGuard_updates h).1 ho hd
  shownOwn d p x s hp h := by
    obtain ⟨hid, hfound, -⟩ := (requestGuard_updates h).2 hp
    exact .inr ⟨hid, Option.isSome_iff_exists.1 hfound⟩
  accepted d p x totalQty s hp _ h := .inr (of_decide_eq_true (Bool.and_eq_true_iff.1 h).2 hp)
  adds d p s hp h := requests_adds hp (requestGuard_adds h hp).1
  sets d p x s hp _ hx := requests_sets hp hx
  removes d p x s hp _ hx := requests_removes hp hx
  ended p s m hp hs hl := by
    obtain ⟨f, hf, stage⟩ := hs.2.1
    obtain ⟨rfl, hzero⟩ := paid_phase hf hl
    have hwanted := wanted_requestOver s hp
    refine ⟨⟨hs.1, ⟨none, hzero, ?_⟩, fun h => ?_⟩, rfl, fun _ _ ho => ⟨ho, rfl⟩⟩
    · change i.Stage _ (m.2.1 + 0) none
      rw [add_zero]
      cases stage with
      | finishing pending settled =>
        exact .ended (congrArg Request.pending hwanted)
          (settled.congr (fun _ => rfl) (by rw [hwanted]) rfl)
    · have hvalid : m.2.2 + 0 = 0 := h
      rw [add_zero] at hvalid
      exact (hs.2.2 hvalid).congr (fun _ => rfl) rfl
  removeLine id s t m h hw hs :=
    requests_deleted hs hw (of_decide_eq_true (Bool.and_eq_true_iff.1 h).2 rfl rfl) rfl
      (fun _ _ => rfl) rfl
  replaced d products s m _ _ hs := by
    obtain ⟨allocated, objects⟩ := allocated_replaceList (s.cartPages d) products
    exact requests_page hs allocated objects
  shown d products s m hd h hs _ := by
    rcases CartItem.upToDate_showCart (requestGuard_access h) hd with hown | hcapped
    · exact .inl hown
    · obtain ⟨f, hf, stage⟩ := hs.2.1
      refine .inr ⟨hs.1, ⟨f, (add_zero m.1).trans hf, ?_⟩, fun _ => hcapped⟩
      change i.Stage s (m.2.1 + 0) f
      rwa [add_zero]
  writeBack p v s t m hp hv _ h hw hs _ := by
    obtain ⟨q, hq, hmin⟩ := CartItem.upToDate_writeBack hp (requestGuard_access h)
    rw [← hmin] at hw
    obtain ⟨f, hf, stage⟩ := hs.2.1
    obtain ⟨hphase, hdeletions⟩ : v.1 = 0 ∧ v.2.1 = 0 := by
      rcases hv with rfl | rfl
      · exact ⟨rfl, rfl⟩
      · exact ⟨rfl, rfl⟩
    refine ⟨⟨fun d => ?_, ⟨f, ?_, ?_⟩, fun _ => hw.capped (min_le_right ..) (stage.others hq)⟩,
      hw.later⟩
    · rw [hw.pages]
      exact hs.1 d
    · rw [Prod.fst_add, hphase, add_zero, hf]
    · rw [Prod.snd_add, Prod.fst_add, hdeletions, add_zero]
      exact stage.validate hq hw

end Ledger

/-- In every run in which the requests come one by one and what is written is up to date when it
    is written, the cart ends up with what was asked for last, as far as the stock goes. -/
theorem last_request_stored {i : CartItem} {flow : StatusLists} {ids : IdSupply} {w v : Market}
    (hw : w.slots = []) (hpages : ∀ d, (w.state.cartPages d).Allocated)
    (hpending : (w.state.wanted i).pending = false)
    (hstored : w.state.Amounts i (w.state.wanted i).qty) (hcapped : w.state.Capped i)
    (hrun : Run (handler flow ids) (requestGuard i) w v) (hv : v.slots = []) :
    (v.state.lines i).map (fun doc => doc.2.qty) =
      if (v.state.wanted i).qty = 0 then []
      else [min (v.state.wanted i).qty (v.state.stockOf i)] := by
  have start : (requestLedger i).inv w.state 0 :=
    ⟨hpages, ⟨none, rfl, .ended hpending (.inl hstored)⟩, fun _ => hcapped⟩
  have held := (Ledger.Holds.idle hw le_rfl start).uncharged
    ((cartLedger_requests i).balances (fun _ => le_rfl) flow ids) (fun _ => rfl) hrun
  obtain ⟨-, ⟨f, hf, stage⟩, hcap⟩ := held.settled hv
  obtain rfl := CartPhase.eq_none_of_owed hf.symm
  have settled : i.Settled v.state 0 := by
    cases stage with
    | ended _ settled => exact settled
  have hamounts := settled.resolve_right fun ⟨_, _, hneg, _⟩ => lt_irrefl _ hneg
  exact hamounts.lines_eq (hcap rfl)

def inOrder (slots : List ℕ) : List (Move Event) :=
  (slots.map fun slot => [.serve slot, .resume slot]).flatten

def fiveForTwo (slots : List ℕ) : List (Move Event) :=
  .start (.addToCart aCustomer (someKilos 2)) :: oldestFirst 11 ++
    .start (.updateQuantity aCustomer { someKilos 2 with id := "x" } 5) :: inOrder slots

theorem five_stored :
    (((⟨datesMarket, []⟩ : Market).after smallHandler
      (fiveForTwo (0 :: 1 :: List.replicate 14 0))).state.lines dateItem).map
        (fun doc => doc.2.qty) = [5] := by
  have hrun : Run smallHandler (requestGuard dateItem) ⟨datesMarket, []⟩
      ((⟨datesMarket, []⟩ : Market).after smallHandler
        (fiveForTwo (0 :: 1 :: List.replicate 14 0))) :=
    .after (by decide +kernel) (by decide +kernel)
  exact (last_request_stored (i := dateItem) rfl datesMarket_pages rfl datesMarket_lacks
    (by decide +kernel) hrun (by decide +kernel)).trans (by decide +kernel)

/-- The reload reads the two kilos before the five are written, and its validation writes them
    back after. -/
theorem two_written_back : ¬ ∀ (w v : Market) (ms : List (Move Event)), w.slots = [] →
    (∀ d, (w.state.cartPages d).Allocated) → (w.state.wanted dateItem).pending = false →
    w.state.Amounts dateItem (w.state.wanted dateItem).qty → w.state.Capped dateItem →
    Meeting smallHandler (.computed dateItem.oneByOne (fun _ _ => true) fun _ _ => false) w ms →
    exec smallHandler w ms = some v → v.slots = [] → 0 < (v.state.wanted dateItem).qty →
    (v.state.lines dateItem).map (fun doc => doc.2.qty) =
      [min (v.state.wanted dateItem).qty (v.state.stockOf dateItem)] := by
  intro h
  have both := h ⟨datesMarket, []⟩ _ (fiveForTwo ([0, 0, 1, 1, 0] ++ List.replicate 11 0)) rfl
    datesMarket_pages rfl datesMarket_lacks (by decide +kernel) (by decide +kernel)
    (exec_after (by decide +kernel)) (by decide +kernel) (by decide +kernel)
  exact absurd both (by decide +kernel)

end Gherass
