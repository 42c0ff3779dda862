import Gherass.OrderPlacement

set_option autoImplicit false

/-!
# What a read of the cart returns

A read goes through the farmers' documents and stops at the first one with products
below it, whatever farmer it was asked for.
-/
namespace Gherass

open EventLoop EventLoop.Async FirebaseHelper

namespace CartStore

def firstFarmer (c : CartStore) : Option String :=
  c.docs.toList.find? fun farmerId => (c.products farmerId).toList ≠ []

def read (c : CartStore) : List Product :=
  match c.firstFarmer with
  | some farmerId => (c.products farmerId).toList.map (·.2)
  | none => []

def withoutDocs (c : CartStore) : CartStore :=
  { c with docs := c.docs.toList.foldl (·.erase ·) c.docs }

theorem mem_foldl_erase {farmerId : String} (ids : List String) (docs : Std.TreeSet String) :
    farmerId ∈ ids.foldl (·.erase ·) docs ↔ farmerId ∈ docs ∧ farmerId ∉ ids := by
  induction ids generalizing docs with
  | nil => simp
  | cons id ids ih =>
    rw [List.foldl_cons, ih, Std.TreeSet.mem_erase, List.mem_cons]
    simp only [ne_eq, Std.LawfulEqCmp.compare_eq_iff_eq]
    grind

theorem withoutDocs_docs (c : CartStore) : c.withoutDocs.docs.toList = [] := by
  refine List.eq_nil_iff_forall_not_mem.2 fun farmerId h => ?_
  obtain ⟨hmem, hnot⟩ := (mem_foldl_erase _ _).1 (Std.TreeSet.mem_toList.1 h)
  exact hnot (Std.TreeSet.mem_toList.2 hmem)

theorem firstFarmer_withoutDocs (c : CartStore) : c.withoutDocs.firstFarmer = none := by
  rw [firstFarmer, withoutDocs_docs]
  rfl

@[simp] theorem read_withoutDocs (c : CartStore) : c.withoutDocs.read = [] := by
  rw [read, firstFarmer_withoutDocs]

theorem read_of_first {c : CartStore} {farmerId : String} (h : c.firstFarmer = some farmerId)
    (p : Product) : p ∈ c.read ↔ ∃ id : String, (c.products farmerId)[id]? = some p := by
  rw [read, h, List.mem_map]
  constructor
  · rintro ⟨⟨id, q⟩, hq, rfl⟩
    exact ⟨id, Std.TreeMap.mem_toList_iff_getElem?_eq_some.1 hq⟩
  · rintro ⟨id, hid⟩
    exact ⟨(id, p), Std.TreeMap.mem_toList_iff_getElem?_eq_some.2 hid, rfl⟩

end CartStore

variable {ok : Access → Bool} {s : World}

theorem yields_firstNonempty (plain : ok .plain = true) (uid : Uid) (docs : List String) :
    Yields ok (firstNonempty uid docs) s
      (.ok (docs.find? fun farmerId => ((s.carts uid).products farmerId).toList ≠ [])) s := by
  induction docs with
  | nil => exact .pure none
  | cons farmerId rest ih =>
    refine .bind (yields_get plain _) ?_
    rw [List.find?_cons]
    cases hfarmer : decide (((s.carts uid).products farmerId).toList ≠ []) with
    | true =>
      rw [if_pos (of_decide_eq_true hfarmer)]
      exact .pure _
    | false =>
      rw [if_neg (of_decide_eq_false hfarmer)]
      exact ih

theorem yields_fetchInitialCart (plain : ok .plain = true) (uid : Uid) :
    Yields ok (fetchInitialCart uid) s (.ok (s.carts uid).firstFarmer) s := by
  refine .tryCatch (.bind (yields_get plain _) ?_)
  split
  case isTrue hnil =>
    rw [CartStore.firstFarmer, hnil]
    exact .pure none
  case isFalse => exact yields_firstNonempty plain uid _

theorem yields_fetchCustomerCartProducts (uid : Uid) (farmerId : String) :
    Yields ok (fetchCustomerCartProducts uid farmerId) s
      (.ok (if ok .plain then (s.carts uid).read else [])) s := by
  cases plain : ok .plain with
  | true =>
    refine .tryCatch (.bind (yields_fetchInitialCart plain uid) ?_)
    rw [if_pos rfl, CartStore.read]
    cases (s.carts uid).firstFarmer with
    | some first => exact yields_get plain _
    | none => exact yields_get plain _
  | false =>
    have hfirst : Yields ok (fetchInitialCart uid) s (.ok none) s :=
      .caught (.bind_error (.call_lost plain _ _)) (.pure none)
    exact .caught (.bind hfirst (.call_lost plain _ _)) (.pure _)

theorem yields_cartDelete (uid : Uid) :
    Yields ok (cartDelete uid) s (.ok ())
      (if ok .plain then s.setCart uid CartStore.withoutDocs else s) := by
  cases plain : ok .plain with
  | true => exact .tryCatch (.bind (yields_get plain _) (.call plain _ _))
  | false => exact .caught (.bind_error (.call_lost plain _ _)) (.pure _)

def lookUp (uid : Uid) (farmerId : String) (p : Product) : Program Bool := do
  let products ← fetchCustomerCartProducts uid farmerId
  pure (decide (p ∈ products))

def readsBack (uid : Uid) (farmerId : String) (p : Product) (w : World) : Prop :=
  ((lookUp uid farmerId p).result.alone (fun _ => true) w).1 = some true

instance (uid : Uid) (farmerId : String) (p : Product) (w : World) :
    Decidable (readsBack uid farmerId p w) := inferInstanceAs (Decidable (_ = _))

theorem readsBack_iff {uid : Uid} {farmerId : String} {p : Product} {w : World} :
    readsBack uid farmerId p w ↔ p ∈ (w.carts uid).read := by
  have hread : Yields (fun _ => true) (lookUp uid farmerId p) w
      (.ok (decide (p ∈ (w.carts uid).read))) w :=
    .bind (yields_fetchCustomerCartProducts uid farmerId) (.pure _)
  rw [readsBack, hread.result]
  simp

end Gherass
