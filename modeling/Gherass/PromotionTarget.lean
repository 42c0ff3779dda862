import Gherass.DiscountLinks

set_option autoImplicit false

/-!
# The product that a promotion is written to

A tap on a row selects its product, and every row that is built after that selects its own if it
has the name of the product that was tapped.
-/
namespace Gherass.Shop

open EventLoop InventoryController

/-- A tap on a row, a rebuild of the rows in view, and a reload of the list. -/
inductive FormMove where
  | tap (index : ℕ)
  | rebuild (visible : List ℕ)
  | reload (response : List Fields)

def FormMove.apply : FormMove → FarmerApp → FarmerApp
  | .tap index => selectItem index
  | .rebuild visible => fun a => visible.foldl (fun a index => buildItem index a) a
  | .reload response => assignProducts response

def runForm (ms : List FormMove) (a : FarmerApp) : FarmerApp := ms.foldl (fun a m => m.apply a) a

/-- Whoever sends the form off writes the discount to the product `id`, with a record of it, and to
    no other product of the farmer. -/
def Reaches (d : Device) (a : FarmerApp) (id : String) : Prop :=
  ∀ (table : Char → List Char) (ids : IdSupply) (ok : ShopAccess → Bool) (w : ShopWorld)
    (m : Fields),
    (∀ l, ok l = true) → w.apps d = a → ((w.promotions d.uid).map (·.docId)).Nodup →
    (w.products d.uid)[id]? = some m → ∀ e, e = .createPromotion d ∨ e = .updatePromotions d →
      ∃ selected ∈ a.maps, selected.fields.get "id" = .text id ∧
        (afterEvent table ids ok e w).products d.uid = (w.products d.uid).insert id
          (m.merge (PromotionsController.withDiscount a.promotions selected.fields))

def rowId (name : String) (a : FarmerApp) (index : ℕ) : Option String :=
  match item? a index with
  | some (_, id, n) => if name = n then some id else none
  | none => none

/-- The ids of the rows with the name, in the order in which they are built. -/
def builtIds (name : String) : List FormMove → FarmerApp → List String
  | [], _ => []
  | .tap _ :: ms, a => builtIds name ms a
  | .rebuild visible :: ms, a => visible.filterMap (rowId name a) ++ builtIds name ms a
  | .reload response :: ms, a => builtIds name ms (assignProducts response a)

/-- The product `id` is selected, with one of its records, and under its name. -/
structure Selects (a : FarmerApp) (name id : String) : Prop where
  named : a.promotions.promotionProductName = name
  chosen : a.promotions.selectedProductId = id
  record : ∃ selected, a.maps[a.promotions.selectedProduct]? = some selected ∧
    selected.fields.get "id" = .text id

section Rows

variable {a b : FarmerApp} {name id : String} {index ref : ℕ}

theorem item?_map (h : item? a index = some (ref, id, name)) :
    ∃ m, a.maps[ref]? = some m ∧ m.fields.get "id" = .text id := by
  obtain ⟨ref', -, h⟩ := Option.bind_eq_some_iff.1 h
  obtain ⟨m, hm, h⟩ := Option.bind_eq_some_iff.1 h
  split at h
  case h_2 => cases h
  rename_i id' name' hid hname
  cases h
  exact ⟨m, hm, hid⟩

theorem selects_tap (h : item? a index = some (ref, id, name)) :
    Selects (selectItem index a) name id := by
  rw [selectItem, h]
  exact ⟨rfl, rfl, item?_map h⟩

def sameRows (a b : FarmerApp) : Prop := b.maps = a.maps ∧ b.farmerProducts = a.farmerProducts

theorem buildItem_rows (index : ℕ) (a : FarmerApp) : sameRows a (buildItem index a) := by
  unfold buildItem
  split
  · split
    · exact ⟨rfl, rfl⟩
    · exact ⟨rfl, rfl⟩
  · exact ⟨rfl, rfl⟩

theorem rebuild_rows (visible : List ℕ) (a : FarmerApp) :
    sameRows a (visible.foldl (fun a index => buildItem index a) a) := by
  induction visible generalizing a with
  | nil => exact ⟨rfl, rfl⟩
  | cons index visible ih =>
    obtain ⟨hmaps, hlist⟩ := buildItem_rows index a
    obtain ⟨hmaps', hlist'⟩ := ih (buildItem index a)
    exact ⟨hmaps'.trans hmaps, hlist'.trans hlist⟩

theorem selectItem_rows (index : ℕ) (a : FarmerApp) : sameRows a (selectItem index a) := by
  unfold selectItem
  split
  · exact ⟨rfl, rfl⟩
  · exact ⟨rfl, rfl⟩

theorem rowId_congr (h : sameRows a b) (name : String) : rowId name b = rowId name a := by
  funext index
  rw [rowId, rowId, item?, item?, h.1, h.2]

theorem builtIds_congr (h : sameRows a b) (name : String) (ms : List FormMove) :
    builtIds name ms b = builtIds name ms a := by
  induction ms generalizing a b with
  | nil => rfl
  | cons m ms ih =>
    cases m with
    | tap index => exact ih h
    | rebuild visible => rw [builtIds, builtIds, rowId_congr h, ih h]
    | reload response =>
      refine ih ⟨?_, ?_⟩
      · simp only [assignProducts, h.1]
      · simp only [assignProducts, h.1]

theorem selects_build (h : Selects a name id) (index : ℕ) :
    Selects (buildItem index a) name ((rowId name a index).getD id) := by
  unfold buildItem rowId
  cases hitem : item? a index with
  | none => exact h
  | some item =>
    obtain ⟨ref, id', n⟩ := item
    by_cases hn : name = n
    · simp only [h.named, hn, if_true, Option.getD_some]
      exact ⟨rfl, rfl, item?_map hitem⟩
    · simp only [h.named, hn, if_false, Option.getD_none]
      exact h

theorem selects_rebuild (h : Selects a name id) (visible : List ℕ) :
    Selects (visible.foldl (fun a index => buildItem index a) a) name
      ((visible.filterMap (rowId name a)).getLast?.getD id) := by
  induction visible generalizing a id with
  | nil => exact h
  | cons index visible ih =>
    have tail := ih (selects_build h index)
    rw [rowId_congr (buildItem_rows index a)] at tail
    rw [List.foldl_cons, List.filterMap_cons]
    cases hrow : rowId name a index with
    | none =>
      rw [hrow] at tail
      exact tail
    | some id' =>
      rw [hrow] at tail
      simpa [List.getLast?_cons] using tail

theorem selects_reload (h : Selects a name id) (response : List Fields) :
    Selects (assignProducts response a) name id := by
  obtain ⟨selected, hselected, hid⟩ := h.record
  have bound := (List.getElem?_eq_some_iff.1 hselected).1
  exact ⟨h.named, h.chosen, selected, (List.getElem?_append_left bound).trans hselected, hid⟩

theorem selects_run {ms : List FormMove} (hms : ∀ index, .tap index ∉ ms) (h : Selects a name id) :
    Selects (runForm ms a) name ((builtIds name ms a).getLast?.getD id) := by
  induction ms generalizing a id with
  | nil => exact h
  | cons m ms ih =>
    have later : ∀ index, .tap index ∉ ms := fun index hmem =>
      hms index (List.mem_cons_of_mem _ hmem)
    cases m with
    | tap index => exact absurd List.mem_cons_self (hms index)
    | reload response => exact ih later (selects_reload h response)
    | rebuild visible =>
      have tail := ih later (selects_rebuild h visible)
      rw [builtIds_congr (rebuild_rows visible a)] at tail
      rw [builtIds, List.getLast?_append]
      cases hlast : (builtIds name ms a).getLast? with
      | none =>
        rw [hlast] at tail
        exact tail
      | some last =>
        rw [hlast] at tail
        exact tail

end Rows

section Writes

variable {a : FarmerApp} {d : Device} {name id chosen : String}

theorem reaches_of_selects (hvalid : PromotionsController.validationError a.promotions = none)
    (hid : id ≠ "") (h : Selects a name id) : Reaches d a id := by
  intro table ids ok w m hok happ hdocs hm e he
  obtain ⟨selected, hselected, hrecord⟩ := h.record
  rw [← happ] at hvalid hselected
  have hchosen : (w.apps d).promotions.selectedProductId = id := by rw [happ, h.chosen]
  refine ⟨selected, List.mem_of_getElem? (happ ▸ hselected), hrecord, ?_⟩
  rw [← happ, ← hchosen]
  rw [← hchosen] at hid hm
  rcases he with rfl | rfl
  · have created : Leaves ok (shopProgram table ids (.createPromotion d)) w d.uid _ _ :=
      leaves_createPromotion hok ids hdocs hvalid hid hm hselected
    exact (after_leaves created).2
  · have updated : Leaves ok (shopProgram table ids (.updatePromotions d)) w d.uid _ _ :=
      leaves_updatePromotions hok hdocs hvalid hid hm hselected
    exact (after_leaves updated).2

def twoProducts (d : Device) (a : FarmerApp) (id chosen : String) : ShopWorld where
  products := Function.update (fun _ => ∅) d.uid
    (((∅ : Std.TreeMap String Fields).insert id .empty).insert chosen .empty)
  apps := Function.update (fun _ => {}) d a

theorem chosen_of_reaches (hvalid : PromotionsController.validationError a.promotions = none)
    (hchosen : chosen ≠ "") (h : Selects a name chosen) (hreach : Reaches d a id) :
    chosen = id := by
  by_contra hne
  let w := twoProducts d a id chosen
  have happ : w.apps d = a := by simp [w, twoProducts]
  have stored : w.products d.uid = ((∅ : Std.TreeMap String Fields).insert id .empty).insert
      chosen .empty := by simp [w, twoProducts]
  have hid : (w.products d.uid)[id]? = some .empty := by
    rw [stored, Std.TreeMap.getElem?_insert, if_neg fun h => hne (Std.compare_eq_iff_eq.1 h),
      Std.TreeMap.getElem?_insert_self]
  have other : (w.products d.uid)[chosen]? = some .empty := by
    rw [stored, Std.TreeMap.getElem?_insert_self]
  have nodup : ((w.promotions d.uid).map (·.docId)).Nodup := List.nodup_nil
  obtain ⟨record, hrecord, -⟩ := h.record
  rw [← h.chosen] at other hchosen
  rw [← happ] at hvalid hrecord hchosen other
  obtain ⟨selected, -, -, hafter⟩ := hreach (fun c => [c]) .longer (fun _ => true) w .empty
    (fun _ => rfl) happ nodup hid (.createPromotion d) (.inl rfl)
  have created : Leaves (fun _ => true) (shopProgram (fun c => [c]) .longer (.createPromotion d)) w
      d.uid _ _ :=
    leaves_createPromotion (fun _ => rfl) .longer nodup hvalid hchosen other hrecord
  have same := congrArg (·[id]?) (hafter.symm.trans (after_leaves created).2)
  have elsewhere : ¬ compare (w.apps d).promotions.selectedProductId id = .eq := fun heq => by
    rw [happ, h.chosen] at heq
    exact hne (Std.compare_eq_iff_eq.1 heq)
  simp only [Std.TreeMap.getElem?_insert_self] at same
  rw [Std.TreeMap.getElem?_insert, if_neg elsewhere, hid] at same
  have price := (congrFun (Option.some_inj.1 same) "discount_price").symm.trans price_promoted
  cases price

end Writes

/-- The promotion reaches the product whose row was tapped last exactly if the row with its name
    that was built last, if there is one, is its own. -/
theorem reaches_iff (d : Device) {a : FarmerApp} {index ref : ℕ} {id name : String}
    (htap : item? a index = some (ref, id, name)) {ms : List FormMove}
    (hms : ∀ index, .tap index ∉ ms)
    (hvalid : PromotionsController.validationError
      (runForm (.tap index :: ms) a).promotions = none)
    (hids : ∀ m ∈ (runForm (.tap index :: ms) a).maps, m.fields.get "id" ≠ .text "") :
    Reaches d (runForm (.tap index :: ms) a) id ↔
      ∀ last, (builtIds name ms a).getLast? = some last → last = id := by
  have selected := selects_run hms (selects_tap htap)
  rw [builtIds_congr (selectItem_rows index a)] at selected
  have hne : (builtIds name ms a).getLast?.getD id ≠ "" := by
    obtain ⟨record, hrecord, hid⟩ := selected.record
    intro hempty
    rw [hempty] at hid
    exact hids record (List.mem_of_getElem? hrecord) hid
  constructor
  · intro h last hlast
    have same := chosen_of_reaches hvalid hne selected h
    rwa [hlast, Option.getD_some] at same
  · intro h
    have same : (builtIds name ms a).getLast?.getD id = id := by
      cases hlast : (builtIds name ms a).getLast? with
      | none => rfl
      | some last => rw [Option.getD_some, h last hlast]
    rw [same] at selected hne
    exact reaches_of_selects hvalid hne selected

/-- The form, with a list in which two products may have one name. -/
def twoRows (name other : String) : FarmerApp where
  maps := [{}, ⟨.empty, .ofList [("id", .text "first"), ("name", .text name)]⟩,
    ⟨.empty, .ofList [("id", .text "second"), ("name", .text other)]⟩]
  farmerProducts := [1, 2]
  promotions :=
    { startDate := "1/6/2025", endDate := "9/6/2025", promotionDescription := "Summer",
      promotionNewPrice := "4" }

theorem twoRows_tap (name other : String) :
    item? (twoRows name other) 0 = some (1, "first", name) := by
  rfl

theorem dates_and_figs : Reaches seller
    (runForm [.tap 0, .rebuild [0, 1]] (twoRows "Dates" "Figs")) "first" := by
  have plain (index : ℕ) : FormMove.tap index ∉ [FormMove.rebuild [0, 1]] := by simp
  refine (reaches_iff seller (twoRows_tap "Dates" "Figs") plain ?_ ?_).2 ?_
  · decide
  · decide
  · decide

/-- Of two of one name, it is the one whose row is built last. -/
theorem dates_twice : item? (twoRows "Dates" "Dates") 0 = some (1, "first", "Dates") ∧
    ¬ Reaches seller (runForm [.tap 0, .rebuild [0, 1]] (twoRows "Dates" "Dates")) "first" := by
  have second : Selects (runForm [.tap 0, .rebuild [0, 1]] (twoRows "Dates" "Dates")) "Dates"
      "second" := ⟨rfl, rfl, _, rfl, rfl⟩
  refine ⟨twoRows_tap .., fun h => ?_⟩
  exact absurd (chosen_of_reaches (by decide) (by decide) second h) (by decide)

end Gherass.Shop
