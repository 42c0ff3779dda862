import Gherass.CartRequests

set_option autoImplicit false

/-!
# Removing an item

A removal deletes the item's document and strikes it off the list, while reloads that have read it
and validations that write it back are still under way.
-/
namespace Gherass

open EventLoop EventLoop.Async FirebaseHelper MyCartController

/-- The removals that have yet to delete the document under an id, and those that have deleted it
    but not yet struck it off the list. -/
abbrev RemovalDues := (String → ℤ) × (String → ℤ)

namespace CartItem

variable (i : CartItem) (d : Device)

def Unwanted (w : World) : Prop := (w.wanted i).qty = 0

instance (w : World) : Decidable (i.Unwanted w) := inferInstanceAs (Decidable (_ = _))

/-- The item is not in the cart, and the page does not list it. -/
def Removed (w : World) : Prop :=
  w.lines i = [] ∧ ∀ p ∈ (w.cartPages d).shown, ¬ i.Is p

instance (w : World) : Decidable (i.Removed d w) := inferInstanceAs (Decidable (_ ∧ _))

/-- A removed item is written only over a document that is still there, and is listed only
    while its document is; a removal is within the stock and finds the item on the page. -/
def staysRemoved (l : Access) (w : World) : Bool :=
  i.spared l w && match l with
  | .addLine uid p => i.Concerns uid p → ¬ i.Unwanted w
  | .storeLine uid p _ => i.Concerns uid p → i.Unwanted w → w.stored i p.id ≠ none
  | .writeBack uid p _ => i.Concerns uid p → i.Unwanted w → w.stored i p.id ≠ none
  | .showCart d' products =>
    d' = d → i.Unwanted w → ∀ p ∈ products, i.Is p → w.stored i p.id ≠ none
  | .checkQuantity d' p quantity totalQty =>
    i.Concerns d'.uid p → quantity ≤ 0 → quantity ≤ totalQty
  | .removeItem d' p => i.Concerns d'.uid p →
    ((w.cartPages d').shown.find? fun item => item.id = p.id).any (·.farmerId = i.farmerId)
  | _ => true

/-- The item is removed on the page `d`, where it is listed under the id of its only document. -/
def removedOn (e : Event) (w : World) : Bool :=
  e.group = .cart && match e with
  | .addToCart d' p => i.Concerns d'.uid p → 0 < p.qty
  | .updateQuantity d' p quantity => i.shownAs d' p w ∧ (i.Concerns d'.uid p → quantity ≤ 0 →
    d' = d ∧ p.id ≠ "" ∧ ((w.cartPages d').found p).isSome ∧
      (∀ doc ∈ w.lines i, doc.1 = p.id) ∧ ∀ q ∈ (w.cartPages d).shown, i.Is q → q.id = p.id)
  | _ => true

/-- What is left of an item that is not wanted has removals coming for it. -/
structure Leaving (s : World) (dues : RemovalDues) : Prop where
  stored : ∀ id, s.stored i id ≠ none → dues.1 id < 0
  shown : ∀ p ∈ (s.cartPages d).shown, i.Is p → dues.1 p.id < 0 ∨ dues.2 p.id < 0

end CartItem

section Ledger

variable (i : CartItem) (d : Device)

def removalLedger : Ledger World Event RemovalDues where
  charge _ := 0
  inv s m := i.bystander.inv s ∧ 0 ≤ (s.wanted i).qty ∧ (i.Unwanted s → i.Leaving d s m)
  rel := World.Later
  limit m := m ≤ 0
  refl := .refl
  trans := .trans
  limit_le h hm := h.trans hm
  limit_charge _ hm := by rwa [add_zero]

def removalDebts : CartDebts RemovalDues where
  adding _ := 0
  setting _ := 0
  validation := 0
  finishing := 0
  removal id := (Pi.single id 1, 0)
  listed id := (0, Pi.single id 1)
  wants s := ¬ i.Unwanted s
  adding_nonneg _ := le_rfl
  setting_nonneg _ := le_rfl
  validation_nonneg := le_rfl
  finishing_nonneg := le_rfl
  removal_nonneg _ := Prod.le_def.2 ⟨Pi.single_nonneg.2 zero_le_one, le_rfl⟩
  listed_nonneg _ := Prod.le_def.2 ⟨le_rfl, Pi.single_nonneg.2 zero_le_one⟩

abbrev removalGuard : Guard World Access Event :=
  .computed (i.removedOn d) (i.staysRemoved d) fun _ _ => false

variable {i d} {s t : World} {m : RemovalDues}

theorem removals_page {d' : Device} {f : MyCartController → MyCartController} {m' : RemovalDues}
    (hs : (removalLedger i d).inv s m) (allocated : (f (s.cartPages d')).Allocated)
    (objects : (s.cartPages d').KeepsObjects (f (s.cartPages d'))) (hdues : m'.1 = m.1)
    (shown : i.Unwanted s → i.Leaving d s m →
      ∀ p ∈ ((s.setCartPage d' f).cartPages d).shown, i.Is p → m'.1 p.id < 0 ∨ m'.2 p.id < 0) :
    Books (removalLedger i d) s (s.setCartPage d' f) m' := by
  obtain ⟨inv, later⟩ := page_later hs.1 allocated objects
  exact ⟨⟨inv, hs.2.1, fun h => ⟨fun id hid => hdues ▸ (hs.2.2 h).stored id hid,
    shown h (hs.2.2 h)⟩⟩, later⟩

theorem removals_write {id : String} {r : Option ℤ} {m' : RemovalDues}
    (hs : (removalLedger i d).inv s m) (hw : i.Writes id r s t) (hsame : m' = m)
    (stays : i.Unwanted s → r ≠ none → s.stored i id ≠ none) :
    Books (removalLedger i d) s t m' := by
  subst hsame
  have hwanted : i.Unwanted t ↔ i.Unwanted s := by rw [CartItem.Unwanted, hw.wanted]; rfl
  refine ⟨⟨fun d' => by rw [hw.pages]; exact hs.1 d', by rw [hw.wanted]; exact hs.2.1, fun h => ?_⟩,
    hw.later⟩
  obtain ⟨stored, shown⟩ := hs.2.2 (hwanted.1 h)
  refine ⟨fun j hj => stored j ?_, by rwa [hw.pages]⟩
  rw [hw.stored] at hj
  split at hj
  case isTrue heq => exact heq ▸ stays (hwanted.1 h) hj
  case isFalse => exact hj

theorem removals_wanted {d' : Device} {p : Product} {x : ℤ → ℤ} {m' : RemovalDues}
    (hp : i.Concerns d'.uid p) (hs : (removalLedger i d).inv s m)
    (hx : 0 < x (s.wanted i).qty) :
    Books (removalLedger i d) s (s.request d'.uid p x) m' ∧
      ¬ i.Unwanted (s.request d'.uid p x) := by
  have hwanted : ((s.request d'.uid p x).wanted i).qty = x (s.wanted i).qty :=
    congrArg Request.qty (wanted_request s hp x)
  have hnot : ¬ i.Unwanted (s.request d'.uid p x) := fun h => by
    rw [CartItem.Unwanted, hwanted] at h
    omega
  exact ⟨⟨⟨hs.1, by rw [hwanted]; exact hx.le, fun h => absurd h hnot⟩, rfl,
    fun _ _ ho => ⟨ho, rfl⟩⟩, hnot⟩

theorem removalGuard_updates {d' : Device} {p : Product} {x : ℤ}
    (h : (removalGuard i d).start (.updateQuantity d' p x) s) :
    i.shownAs d' p s ∧ (i.Concerns d'.uid p → x ≤ 0 → d' = d ∧ p.id ≠ "" ∧
      ((s.cartPages d').found p).isSome ∧ (∀ doc ∈ s.lines i, doc.1 = p.id) ∧
        ∀ q ∈ (s.cartPages d).shown, i.Is q → q.id = p.id) :=
  of_decide_eq_true (Bool.and_eq_true_iff.1 h).2

theorem removals_owed (m : RemovalDues) (n : ℤ) : m + (removalDebts i).adding n -
    ((removalDebts i).validation + (removalDebts i).finishing) = m := by
  change m + 0 - (0 + 0) = m
  rw [add_zero, add_zero, sub_zero]

theorem removals_adds {d' : Device} {p : Product} (hp : i.Concerns d'.uid p) (hqty : 0 < p.qty) :
    CartLedger.Adds i (removalDebts i) (removalLedger i d) (removalGuard i d) d' p where
  request s m h hs _ := removals_wanted hp hs (by have hwants := hs.2.1; omega)
  object s m hwants hs := by
    obtain ⟨allocated, objects, -⟩ := allocated_addObject (hs.1 d') p
    exact removals_page hs allocated objects rfl fun h => absurd h hwants
  line id s t m h _ hw hs _ := by
    have hwants := of_decide_eq_true (Bool.and_eq_true_iff.1 h).2 ⟨rfl, hp.2⟩
    exact removals_write hs hw (removals_owed m _) fun h _ => absurd h hwants
  qty id n s t m _ hw hs _ := removals_write hs hw (removals_owed m _) fun _ hr hnone =>
    hr (by rw [hnone, Option.map_none])
  store q previousQty s t m hq _ h hw hs _ :=
    removals_write hs hw (removals_owed m _) fun hgone _ =>
      of_decide_eq_true (Bool.and_eq_true_iff.1 h).2 ⟨rfl, hq⟩ hgone

theorem removals_sets {d' : Device} {p : Product} {x : ℤ} (hp : i.Concerns d'.uid p) (hx : 0 < x) :
    CartLedger.Sets i (removalDebts i) (removalLedger i d) (removalGuard i d) d' p x where
  request s m _ hs _ :=
    (removals_wanted (x := fun _ => max x 0) hp hs (lt_max_of_lt_left hx)).1
  store q previousQty s t m hq _ _ h hw hs _ := removals_write hs hw (by
    change m + 0 - 0 = m
    rw [add_zero, sub_zero]) fun hgone _ =>
      of_decide_eq_true (Bool.and_eq_true_iff.1 h).2 ⟨rfl, hq⟩ hgone

theorem removals_removes {d' : Device} {p : Product} {x : ℤ} (hp : i.Concerns d'.uid p)
    (hx : x ≤ 0) (hd : d' = d) :
    CartLedger.Removes i (removalDebts i) (removalLedger i d) (removalGuard i d) d' p x where
  request s m h hs hl := by
    obtain ⟨-, -, -, hlines, hshown⟩ := (removalGuard_updates h).2 hp hx
    have hwanted : ((s.request d'.uid p fun _ => max x 0).wanted i).qty = 0 :=
      (congrArg Request.qty (wanted_request s hp _)).trans (max_eq_right hx)
    have hneg : m.1 p.id + 0 - ((Pi.single p.id 1 : String → ℤ) p.id + 0) < 0 := by
      have hle : m.1 p.id + 0 ≤ 0 := (Prod.le_def.1 hl).1 p.id
      rw [Pi.single_eq_same]
      omega
    refine ⟨⟨hs.1, hwanted.ge, fun _ => ⟨fun id hid => ?_, fun q hq hi => .inl ?_⟩⟩, rfl,
      fun _ _ ho => ⟨ho, rfl⟩⟩
    · obtain ⟨q, hq⟩ := Option.ne_none_iff_exists'.1 hid
      obtain ⟨r, hr, -⟩ := mem_of_stored (w := s) hq
      have hsame : id = p.id := hlines _ hr
      rw [hsame]
      exact hneg
    · rw [hshown q hq hi]
      exact hneg
  removable q s hid hq h := by
    have hfound := of_decide_eq_true (Bool.and_eq_true_iff.1 h).2 ⟨hp.1, hq⟩
    rw [hid, Option.any_eq_true] at hfound
    obtain ⟨item, hitem, hfarmer⟩ := hfound
    exact ⟨item, hitem, of_decide_eq_true hfarmer⟩
  line s t m _ hw hs hl := by
    have hwanted : i.Unwanted t ↔ i.Unwanted s := by rw [CartItem.Unwanted, hw.wanted]; rfl
    have hle : m.2 p.id + 0 ≤ 0 := (Prod.le_def.1 hl).2 p.id
    refine ⟨⟨fun d' => by rw [hw.pages]; exact hs.1 d', by rw [hw.wanted]; exact hs.2.1,
      fun h => ⟨fun j hj => ?_, fun q hq hi => ?_⟩⟩, hw.later⟩
    · rw [hw.stored] at hj
      split at hj
      case isTrue => exact absurd rfl hj
      case isFalse hne =>
        change m.1 j + (Pi.single p.id 1 : String → ℤ) j - 0 < 0
        rw [Pi.single_eq_of_ne (Ne.symm hne), add_zero, sub_zero]
        exact (hs.2.2 (hwanted.1 h)).stored j hj
    · rw [hw.pages] at hq
      change m.1 q.id + (Pi.single p.id 1 : String → ℤ) q.id - 0 < 0 ∨
        m.2 q.id + 0 - (Pi.single p.id 1 : String → ℤ) q.id < 0
      by_cases hid : q.id = p.id
      · rw [hid, Pi.single_eq_same]
        exact .inr (by omega)
      · rw [Pi.single_eq_of_ne hid, add_zero, sub_zero, add_zero, sub_zero]
        exact (hs.2.2 (hwanted.1 h)).shown q hq hi
  unlist s m hs _ := by
    have list : ∀ o ∈ ((s.cartPages d').removeWhere p.id).lists
        ((s.cartPages d').removeWhere p.id).myCartList,
        o ∈ (s.cartPages d').lists (s.cartPages d').myCartList ∧
          ((s.cartPages d').objects o).id ≠ p.id := fun o ho => by
      simp only [removeWhere, setList, Function.update_self] at ho
      exact ⟨List.mem_of_mem_filter ho, of_decide_eq_true (List.mem_filter.1 ho).2⟩
    refine removals_page hs (fun o ho => hs.1 d' o (list o ho).1) (fun _ ho => ⟨ho, rfl⟩)
      (add_zero m.1) fun _ leaving q hq hi => ?_
    subst hd
    rw [World.setCartPage_self] at hq
    obtain ⟨o, ho, rfl⟩ := List.mem_map.1 hq
    obtain ⟨ho, hid⟩ := list o ho
    change m.1 ((s.cartPages d').objects o).id + 0 < 0 ∨ m.2 ((s.cartPages d').objects o).id +
      (Pi.single p.id 1 : String → ℤ) ((s.cartPages d').objects o).id < 0
    rw [Pi.single_eq_of_ne hid, add_zero, add_zero]
    exact leaving.shown _ (List.mem_map.2 ⟨o, ho, rfl⟩) hi

theorem cartLedger_removals (hd : d.uid = i.uid) :
    CartLedger i (removalDebts i) (removalLedger i d) (removalGuard i d) where
  later _ _ h := h
  covers := by
    refine ⟨fun _ _ h => h.1, fun s t m hr hi h => ?_, fun _ _ hr => hr.2⟩
    have hwanted : i.Unwanted t ↔ i.Unwanted s := by rw [CartItem.Unwanted, hr.1.wanted]; rfl
    refine ⟨hi, by rw [hr.1.wanted]; exact h.2.1, fun hgone =>
      ⟨fun id hid => ?_, fun p hp his => ?_⟩⟩
    · rw [hr.1.stored] at hid
      exact (h.2.2 (hwanted.1 hgone)).stored id hid
    · obtain ⟨q, hq, hkey⟩ := hr.1.shown d hd p hp his
      have hid : q.id = p.id := congrArg (·.2.1) hkey
      rw [← hid]
      exact (h.2.2 (hwanted.1 hgone)).shown q hq ((i.is_of_key hkey).2 his)
  lossless _ _ h := by cases h
  events _ _ h := of_decide_eq_true (Bool.and_eq_true_iff.1 h).1
  charge _ _ := rfl
  others l t p id hl h hp hf :=
    CartItem.spared_other (Bool.and_eq_true_iff.1 h).1 hl hp hf
  shownAs d' p x s o h hd' ho := CartItem.shownAs_iff (removalGuard_updates h).1 ho hd'
  shownOwn d' p x s hp h := by
    rcases lt_or_ge 0 x with hx | hx
    · exact .inl (if_pos hx)
    · obtain ⟨-, hid, hfound, -⟩ := (removalGuard_updates h).2 hp hx
      exact .inr ⟨hid, Option.isSome_iff_exists.1 hfound⟩
  accepted d' p x totalQty s hp _ h := by
    rcases lt_or_ge 0 x with hx | hx
    · exact .inl (if_pos hx)
    · exact .inr (of_decide_eq_true (Bool.and_eq_true_iff.1 h).2 hp hx)
  adds d' p s hp h := removals_adds hp (of_decide_eq_true (Bool.and_eq_true_iff.1 h).2 hp)
  sets d' p x s hp _ hx := removals_sets hp hx
  removes d' p x s hp h hx := removals_removes hp hx ((removalGuard_updates h).2 hp hx).1
  ended p s m hp hs _ := by
    have hwanted := wanted_requestOver s hp
    have hsame : i.Unwanted (s.requestOver i.uid p) ↔ i.Unwanted s := by
      rw [CartItem.Unwanted, hwanted]
      rfl
    rw [show m + (removalDebts i).finishing = m from add_zero m]
    refine ⟨⟨hs.1, by rw [hwanted]; exact hs.2.1, fun h => ?_⟩, rfl, fun _ _ ho => ⟨ho, rfl⟩⟩
    exact ⟨(hs.2.2 (hsame.1 h)).stored, (hs.2.2 (hsame.1 h)).shown⟩
  removeLine id s t m _ hw hs := removals_write hs hw rfl fun _ hr => absurd rfl hr
  replaced d' products s m _ h hs := by
    obtain ⟨allocated, objects⟩ := allocated_replaceList (s.cartPages d') products
    refine removals_page hs allocated objects rfl fun hgone leaving q hq hi => ?_
    by_cases heq : d' = d
    · subst heq
      rw [World.setCartPage_self, shown_replaceList] at hq
      have hstored := of_decide_eq_true (Bool.and_eq_true_iff.1 h).2 rfl hgone q hq hi
      exact .inl (leaving.stored _ hstored)
    · simp only [World.setCartPage, Function.update_of_ne (Ne.symm heq)] at hq
      exact leaving.shown q hq hi
  shown d' products s m _ _ hs _ := .inr (by
    rw [show m + (removalDebts i).validation = m from add_zero m]
    exact hs)
  writeBack p v s t m hp hv _ h hw hs _ := removals_write hs hw (by
    rcases hv with rfl | rfl
    · exact add_zero m
    · exact add_zero m) fun hgone _ =>
      of_decide_eq_true (Bool.and_eq_true_iff.1 h).2 ⟨rfl, hp⟩ hgone

end Ledger

/-- In every run in which a removed item is written only over a document that is still there, and
    listed only while its document is, an item that has been removed on a page and not asked for
    again is in the end neither in the cart nor on the page. -/
theorem removed_stays_removed {i : CartItem} {d : Device} {flow : StatusLists} {ids : IdSupply}
    {w v : Market} (hd : d.uid = i.uid) (hw : w.slots = [])
    (hpages : ∀ d, (w.state.cartPages d).Allocated) (hwanted : 0 ≤ (w.state.wanted i).qty)
    (hremoved : i.Unwanted w.state → i.Removed d w.state)
    (hrun : Run (handler flow ids) (removalGuard i d) w v) (hv : v.slots = [])
    (hgone : i.Unwanted v.state) : i.Removed d v.state := by
  have start : (removalLedger i d).inv w.state 0 := by
    refine ⟨hpages, hwanted, fun h => ⟨fun id hid => ?_, fun p hp hi => ?_⟩⟩
    · exact absurd (lines_eq_nil.1 (hremoved h).1 id) hid
    · exact absurd hi ((hremoved h).2 p hp)
  have held := (Ledger.Holds.idle hw le_rfl start).uncharged
    ((cartLedger_removals hd).balances (fun _ => le_rfl) flow ids) (fun _ => rfl) hrun
  obtain ⟨stored, shown⟩ := (held.settled hv).2.2 hgone
  refine ⟨lines_eq_nil.2 fun id => ?_, fun p hp hi => ?_⟩
  · by_contra hid
    exact lt_irrefl _ (stored id hid)
  · exact (shown p hp hi).elim (lt_irrefl _) (lt_irrefl _)

def noneForTwo (slots : List ℕ) : List (Move Event) :=
  .start (.addToCart aCustomer (someKilos 2)) :: oldestFirst 11 ++
    .start (.openCart aCustomer "farmer") :: inOrder [0, 0, 0] ++
      .start (.updateQuantity aCustomer { someKilos 2 with id := "x" } 0) :: inOrder slots

theorem dates_removed :
    dateItem.Removed aCustomer ((⟨datesMarket, []⟩ : Market).after smallHandler
      (noneForTwo (List.replicate 12 0))).state := by
  have hrun : Run smallHandler (removalGuard dateItem aCustomer) ⟨datesMarket, []⟩
      ((⟨datesMarket, []⟩ : Market).after smallHandler (noneForTwo (List.replicate 12 0))) :=
    .after (by decide +kernel) (by decide +kernel)
  exact removed_stays_removed (i := dateItem) rfl rfl datesMarket_pages (by decide +kernel)
    (fun _ => ⟨by decide +kernel, fun _ hp => by cases hp⟩) hrun (by decide +kernel)
    (by decide +kernel)

/-- The validation has read the stock before the deletion and writes the dates back after it. -/
theorem dates_written_back : ¬ ∀ (w v : Market) (ms : List (Move Event)), w.slots = [] →
    (∀ d, (w.state.cartPages d).Allocated) → 0 ≤ (w.state.wanted dateItem).qty →
    (dateItem.Unwanted w.state → dateItem.Removed aCustomer w.state) →
    Meeting smallHandler (.computed (dateItem.removedOn aCustomer) (fun _ _ => true)
      fun _ _ => false) w ms →
    exec smallHandler w ms = some v → v.slots = [] → dateItem.Unwanted v.state →
    dateItem.Removed aCustomer v.state := by
  intro h
  have removed := h ⟨datesMarket, []⟩ _ (noneForTwo ([0, 1, 2, 3, 1] ++ List.replicate 9 0)) rfl
    datesMarket_pages (by decide +kernel) (fun _ => ⟨by decide +kernel, fun _ hp => by cases hp⟩)
    (by decide +kernel) (exec_after (by decide +kernel)) (by decide +kernel) (by decide +kernel)
  exact absurd removed.1 (by decide +kernel)

end Gherass
