import Gherass.FarmPage

set_option autoImplicit false

/-!
# The tabs of a farm's page

Who a product is meant for is stored in the words of the form that it was added with, and
compared with other words when the farm's page is filled.
-/
namespace Gherass.Shop

open Gherass.Shop.ProductController

namespace ProductController

def categoryList : List String := ["All products", "Fruits", "Vegetables", "Others"]

def filterProductsByCategory (categorySelectedValue : ℕ) (c : ProductController) :
    ProductController :=
  let selectedCategory := categoryList.getD categorySelectedValue ""
  if selectedCategory = "All products" then
    { c with farmerProducts := c.fruits ++ c.vegetables ++ c.others }
  else if selectedCategory = "Fruits" then { c with farmerProducts := c.fruits }
  else if selectedCategory = "Vegetables" then { c with farmerProducts := c.vegetables }
  else if selectedCategory = "Others" then { c with farmerProducts := c.others }
  else c

end ProductController

def organizations : List String := ["Organizations", "الشركات"]

def individuals : List String := ["Individuals", "الأفراد"]

def both : List String := ["Both", "كلاهما"]

def visibilityOptions : List String := organizations ++ individuals ++ both

/-- What a customer registers with. The form shows the segment of the personal accounts until
    one is chosen, and stores nothing then. -/
def accountTypes : List String := ["", "Personal account", "Business account"]

def ownGroup (accountType : String) : List String :=
  if accountType = "Business account" then organizations else individuals

/-- The product is not hidden, and is meant for the account type or for both. -/
def isMeantFor (accountType : String) (product : Fields) : Bool :=
  product.get "isHidden" ≠ .bool true ∧
    ∃ v ∈ ownGroup accountType ++ both, product.get "visibility" = .text v

def mapOf (doc : String × Fields) : Fields := doc.2.withId doc.1

def categoryTabs : List (ℕ × String) := [(1, "fruits"), (2, "vegetables"), (3, "others")]

/-- The products that are meant for the account type are on the page, each of them once and
    under its tab if it has one, and no others are. -/
structure ShowsExactly (table : Char → List Char) (accountType : String)
    (docs : List (String × Fields)) (c : ProductController) : Prop where
  loaded : c.farmerProducts.Perm ((docs.filter fun doc => isMeantFor accountType doc.2).map mapOf)
  all : (filterProductsByCategory 0 c).farmerProducts.Perm
    ((docs.filter fun doc => isMeantFor accountType doc.2).map mapOf)
  tab (i : ℕ) (category : String) : (i, category) ∈ categoryTabs →
    (filterProductsByCategory i c).farmerProducts.Perm
      ((docs.filter fun doc => isMeantFor accountType doc.2 && hasCategory table category doc.2).map
        mapOf)

/-- The words of the visibility are those that the page looks for. -/
def isFoundFor (accountType : String) (product : Fields) : Prop :=
  product.get "visibility" = .text "Both" ∨
    accountType = "Personal account" ∧ product.get "visibility" = .text "Individuals"

section Words

variable {accountType : String} {m : Fields}

theorem passes_iff (ha : accountType ∈ accountTypes)
    (hv : ∃ v ∈ visibilityOptions, m.get "visibility" = .text v) :
    passes (accountTypeOf (some (some accountType))) m = true ↔
      m.get "isHidden" ≠ .bool true ∧ isFoundFor accountType m := by
  obtain ⟨v, hv, htext⟩ := hv
  have nonempty : v ≠ "" := fun h => absurd (h ▸ hv) (by decide)
  have typo : v ≠ "Orgnization" := fun h => absurd (h ▸ hv) (by decide)
  unfold passes isVisible isFoundFor
  rw [htext]
  simp only [accountTypes, List.mem_cons, List.not_mem_nil, or_false] at ha
  rcases ha with rfl | rfl | rfl
  · simp [accountTypeOf, nonempty]
  · simp [accountTypeOf]
    tauto
  · simp [accountTypeOf, typo]

theorem isMeantFor_of_passes (ha : accountType ∈ accountTypes)
    (hv : ∃ v ∈ visibilityOptions, m.get "visibility" = .text v)
    (h : passes (accountTypeOf (some (some accountType))) m = true) :
    isMeantFor accountType m = true := by
  obtain ⟨hhidden, hfound⟩ := (passes_iff ha hv).1 h
  refine decide_eq_true ⟨hhidden, ?_⟩
  rcases hfound with hboth | ⟨rfl, hown⟩
  · exact ⟨"Both", List.mem_append_right _ (by decide), hboth⟩
  · exact ⟨"Individuals", by decide, hown⟩

end Words

section Lists

variable {α β : Type} {l : List α} {p q : α → Bool}

theorem filter_perm_iff (f : α → β) (h : ∀ x ∈ l, p x = true → q x = true) :
    ((l.filter p).map f).Perm ((l.filter q).map f) ↔ ∀ x ∈ l, q x = true → p x = true := by
  constructor
  · intro hperm x hx hq
    have twice : (l.filter q).filter p = l.filter p := by
      rw [List.filter_filter]
      refine List.filter_congr fun y hy => ?_
      by_cases hp : p y = true
      · rw [hp, h y hy hp, Bool.and_self]
      · rw [Bool.not_eq_true] at hp
        rw [hp, Bool.false_and]
    have lengths := hperm.length_eq
    rw [List.length_map, List.length_map, ← twice, List.length_filter_eq_length_iff] at lengths
    exact lengths x (List.mem_filter.2 ⟨hx, hq⟩)
  · intro hall
    have same : l.filter p = l.filter q := List.filter_congr fun x hx =>
      Bool.eq_iff_iff.2 ⟨h x hx, hall x hx⟩
    rw [same]

theorem filter_append_three {r : α → Bool} (hpq : ∀ x, p x = true → q x = false)
    (hpr : ∀ x, p x = true → r x = false) (hqr : ∀ x, q x = true → r x = false) :
    (l.filter p ++ l.filter q ++ l.filter r).Perm (l.filter fun x => p x || q x || r x) := by
  induction l with
  | nil => exact .refl _
  | cons x l ih =>
    cases hp : p x with
    | true => simpa [hp, hpq x hp, hpr x hp] using ih
    | false =>
      cases hq : q x with
      | true =>
        have front : (l.filter p ++ x :: l.filter q ++ l.filter r).Perm
            (x :: (l.filter p ++ l.filter q ++ l.filter r)) := List.perm_middle.append_right _
        have rest := front.trans (ih.cons x)
        simpa [hp, hq, hqr x hq] using rest
      | false =>
        cases hr : r x with
        | true =>
          have rest := List.perm_middle.trans (ih.cons x)
          simpa [hp, hq, hr] using rest
        | false => simpa [hp, hq, hr] using ih

end Lists

section Page

variable {table : Char → List Char} {accountType : String} {docs : List (String × Fields)}
  {c : ProductController}

theorem hasCategory_mapOf (category : String) (doc : String × Fields) :
    hasCategory table category (mapOf doc) = hasCategory table category doc.2 := by
  have hcategory : (mapOf doc).get "category" = doc.2.get "category" :=
    Fields.get_congr (Fields.withId_of_ne (by decide))
  rw [hasCategory, hasCategory, hcategory]

theorem passes_mapOf (accountType : String) (doc : String × Fields) :
    passes accountType (mapOf doc) = passes accountType doc.2 :=
  passes_congr (withId_same doc.1 doc.2)

theorem hasCategory_unique {category category' : String} {m : Fields}
    (h : hasCategory table category m = true) (hne : category ≠ category') :
    hasCategory table category' m = false := by
  unfold hasCategory at h ⊢
  rw [of_decide_eq_true h]
  simpa using hne

theorem filter_kept (category : String) :
    ((docs.map mapOf).filter (passes c.accountType)).filter (hasCategory table category) =
      (docs.filter fun doc =>
        passes c.accountType doc.2 && hasCategory table category doc.2).map mapOf := by
  rw [List.filter_filter, List.filter_map]
  refine congrArg _ (List.filter_congr fun doc _ => ?_)
  rw [Function.comp_apply, hasCategory_mapOf, passes_mapOf, Bool.and_comm]

def isListedIn (table : Char → List Char) (m : Fields) : Bool :=
  hasCategory table "fruits" m || hasCategory table "vegetables" m || hasCategory table "others" m

theorem isListedIn_iff {m : Fields} : isListedIn table m = true ↔ isListed table m := by
  simp [isListedIn, isListed, or_assoc]

theorem assignProducts_perm :
    (assignProducts table (docs.map mapOf) c).farmerProducts.Perm
      ((docs.filter fun doc => passes c.accountType doc.2 && isListedIn table doc.2).map
        mapOf) := by
  simp only [assignProducts, filter_kept]
  rw [← List.map_append, ← List.map_append]
  refine List.Perm.map _ ((filter_append_three ?_ ?_ ?_).trans ?_)
  · intro doc h
    rw [hasCategory_unique (Bool.and_eq_true_iff.1 h).2 (by decide), Bool.and_false]
  · intro doc h
    rw [hasCategory_unique (Bool.and_eq_true_iff.1 h).2 (by decide), Bool.and_false]
  · intro doc h
    rw [hasCategory_unique (Bool.and_eq_true_iff.1 h).2 (by decide), Bool.and_false]
  · refine List.Perm.of_eq (List.filter_congr fun doc _ => ?_)
    rw [isListedIn, Bool.and_or_distrib_left, Bool.and_or_distrib_left]

theorem filterProductsByCategory_assigned {i : ℕ} {category : String}
    (htab : (i, category) ∈ categoryTabs) :
    (filterProductsByCategory i (assignProducts table (docs.map mapOf) c)).farmerProducts =
      (docs.filter fun doc =>
        passes c.accountType doc.2 && hasCategory table category doc.2).map mapOf := by
  simp only [categoryTabs, List.mem_cons, List.not_mem_nil, or_false, Prod.mk.injEq] at htab
  rcases htab with ⟨rfl, rfl⟩ | ⟨rfl, rfl⟩ | ⟨rfl, rfl⟩
  · exact filter_kept "fruits"
  · exact filter_kept "vegetables"
  · exact filter_kept "others"

theorem isListed_of_tab {i : ℕ} {category : String} {m : Fields}
    (htab : (i, category) ∈ categoryTabs) (hm : hasCategory table category m = true) :
    isListed table m := by
  refine ⟨category, ?_, hm⟩
  simp only [categoryTabs, List.mem_cons, List.not_mem_nil, or_false, Prod.mk.injEq] at htab
  rcases htab with ⟨-, rfl⟩ | ⟨-, rfl⟩ | ⟨-, rfl⟩
  · decide
  · decide
  · decide

theorem showsExactly_assigned (ha : accountType ∈ accountTypes)
    (hc : c.accountType = accountTypeOf (some (some accountType)))
    (hdocs : ∀ doc ∈ docs, ∃ v ∈ visibilityOptions, doc.2.get "visibility" = .text v) :
    ShowsExactly table accountType docs (assignProducts table (docs.map mapOf) c) ↔
      ∀ doc ∈ docs, isMeantFor accountType doc.2 = true →
        isFoundFor accountType doc.2 ∧ isListed table doc.2 := by
  have meant : ∀ doc ∈ docs, (passes c.accountType doc.2 && isListedIn table doc.2) = true →
      isMeantFor accountType doc.2 = true := fun doc hdoc h => by
    rw [hc] at h
    exact isMeantFor_of_passes ha (hdocs doc hdoc) (Bool.and_eq_true_iff.1 h).1
  have found : ∀ doc ∈ docs, isMeantFor accountType doc.2 = true →
      ((passes c.accountType doc.2 && isListedIn table doc.2) = true ↔
        isFoundFor accountType doc.2 ∧ isListed table doc.2) := fun doc hdoc h => by
    have hidden := (of_decide_eq_true h).1
    rw [Bool.and_eq_true_iff, hc, passes_iff ha (hdocs doc hdoc), isListedIn_iff,
      and_iff_right hidden]
  constructor
  · intro h doc hdoc hmeant
    have kept := (filter_perm_iff mapOf meant).1 (assignProducts_perm.symm.trans h.loaded)
    exact (found doc hdoc hmeant).1 (kept doc hdoc hmeant)
  · intro h
    have kept := (filter_perm_iff mapOf meant).2 fun doc hdoc hmeant =>
      (found doc hdoc hmeant).2 (h doc hdoc hmeant)
    have whole := assignProducts_perm.trans kept
    refine ⟨whole, whole, fun i category htab => ?_⟩
    rw [filterProductsByCategory_assigned htab]
    refine List.Perm.map _ (List.Perm.of_eq (List.filter_congr fun doc hdoc => ?_))
    by_cases hcategory : hasCategory table category doc.2 = true
    · have both : passes c.accountType doc.2 = true ↔ isMeantFor accountType doc.2 = true := by
        have listed := isListedIn_iff.2 (isListed_of_tab htab hcategory)
        refine ⟨fun hpass => meant doc hdoc (Bool.and_eq_true_iff.2 ⟨hpass, listed⟩),
          fun hmeant => ?_⟩
        exact (Bool.and_eq_true_iff.1 ((found doc hdoc hmeant).2 (h doc hdoc hmeant))).1
      rw [Bool.eq_iff_iff.2 both]
    · rw [Bool.not_eq_true] at hcategory
      rw [hcategory, Bool.and_false, Bool.and_false]

end Page

section Loaded

variable {table : Char → List Char} {p : ℕ} {d : Device} {w : ShopWorld} {accountType : String}

theorem forall_swept {P : Fields → Prop} (farmerId : String) (hP : ∀ m m' : Fields,
      (∀ k ∉ "id" :: discountFields, m' k = m k) → (P m' ↔ P m)) :
    (∀ doc ∈ ((swept (fun _ => true) p d w).products farmerId).toList, P doc.2) ↔
      ∀ (id : String) (m : Fields), (w.products farmerId)[id]? = some m → P m := by
  constructor
  · intro h id m hm
    have stored : ((swept (fun _ => true) p d w).products farmerId)[id]? = _ :=
      swept_products farmerId id
    rw [hm, Option.map_some] at stored
    split at stored
    · have swept := h (id, m.without discountFields)
        (Std.TreeMap.mem_toList_iff_getElem?_eq_some.2 stored)
      exact (hP m _ (without_same m)).1 swept
    · exact h (id, m) (Std.TreeMap.mem_toList_iff_getElem?_eq_some.2 stored)
  · rintro h ⟨id, m'⟩ hdoc
    have stored := Std.TreeMap.mem_toList_iff_getElem?_eq_some.1 hdoc
    rw [swept_products] at stored
    split at stored
    · obtain ⟨m, hm, rfl⟩ := Option.map_eq_some_iff.1 stored
      exact (hP m _ (without_same m)).2 (h id m hm)
    · exact h id m' stored

def docsAfter (table : Char → List Char) (p : ℕ) (d : Device) (w : ShopWorld) :
    List (String × Fields) :=
  ((afterFetch table (fun _ => true) p d w).products (w.pages p).farmerId).toList

theorem docsAfter_eq (hl : loadsProducts (fun _ => true) p d w) : docsAfter table p d w =
    ((swept (fun _ => true) p d w).products (w.pages p).farmerId).toList := by
  rw [docsAfter, afterFetch, (yields_loaded hl).task]
  rfl

theorem meant_congr {m m' : Fields} (h : ∀ k ∉ "id" :: discountFields, m' k = m k) :
    isMeantFor accountType m' = isMeantFor accountType m ∧
      (isFoundFor accountType m' ↔ isFoundFor accountType m) := by
  have hhidden : m'.get "isHidden" = m.get "isHidden" := Fields.get_congr (h _ (by decide))
  have hvisible : m'.get "visibility" = m.get "visibility" := Fields.get_congr (h _ (by decide))
  simp only [isMeantFor, isFoundFor, hhidden, hvisible, and_self]

theorem showsExactly_nil {c : ProductController} : ShowsExactly table accountType [] c ↔
    c.farmerProducts = [] ∧ c.fruits = [] ∧ c.vegetables = [] ∧ c.others = [] := by
  constructor
  · intro h
    exact ⟨h.loaded.eq_nil, (h.tab 1 "fruits" (by decide)).eq_nil,
      (h.tab 2 "vegetables" (by decide)).eq_nil, (h.tab 3 "others" (by decide)).eq_nil⟩
  · rintro ⟨hproducts, hfruits, hvegetables, hothers⟩
    have all : (filterProductsByCategory 0 c).farmerProducts = [] := by
      change c.fruits ++ c.vegetables ++ c.others = []
      rw [hfruits, hvegetables, hothers]
      rfl
    refine ⟨.of_eq hproducts, .of_eq all, fun i category htab => .of_eq ?_⟩
    simp only [categoryTabs, List.mem_cons, List.not_mem_nil, or_false, Prod.mk.injEq] at htab
    rcases htab with ⟨rfl, rfl⟩ | ⟨rfl, rfl⟩ | ⟨rfl, rfl⟩
    · exact hfruits
    · exact hvegetables
    · exact hothers

end Loaded

/-- The page of a farm shows what is meant for the customer exactly if all of that is marked
    `Both`, or `Individuals` for a personal account, and is of a category with a tab. A farm
    without products is shown right on a page that shows nothing yet. -/
theorem showsExactly_iff (table : Char → List Char) (p : ℕ) (d : Device) (w : ShopWorld)
    (accountType : String) (ha : accountType ∈ accountTypes)
    (hprofile : w.profiles d.logInType d.uid = some (some accountType))
    (hfarm : (w.pages p).farmerId ≠ "")
    (hvisibility : ∀ (id : String) (m : Fields),
      (w.products (w.pages p).farmerId)[id]? = some m →
        ∃ v ∈ visibilityOptions, m.get "visibility" = .text v) :
    ShowsExactly table accountType (docsAfter table p d w)
        ((afterFetch table (fun _ => true) p d w).pages p) ↔
      ((∀ id : String, (w.products (w.pages p).farmerId)[id]? = none) →
        (w.pages p).farmerProducts = [] ∧ (w.pages p).fruits = [] ∧
          (w.pages p).vegetables = [] ∧ (w.pages p).others = []) ∧
      ∀ (id : String) (m : Fields), (w.products (w.pages p).farmerId)[id]? = some m →
        isMeantFor accountType m = true → isFoundFor accountType m ∧ isListed table m := by
  have hl : loadsProducts (fun _ => true) p d w := ⟨hfarm, rfl, fun _ _ => rfl, rfl⟩
  have type : accountTypeRead (fun _ => true) d w = accountTypeOf (some (some accountType)) := by
    rw [accountTypeRead, if_pos rfl, hprofile]
  have fetch : fetched (swept (fun _ => true) p d w) (w.pages p).farmerId =
      (((swept (fun _ => true) p d w).products (w.pages p).farmerId).toList).map mapOf := rfl
  have words := (forall_swept (w := w) (p := p) (d := d) (w.pages p).farmerId
    (P := fun m => ∃ v ∈ visibilityOptions, m.get "visibility" = .text v) fun m m' h => by
      rw [Fields.get_congr (h "visibility" (by decide))]).2 hvisibility
  have condition := forall_swept (w := w) (p := p) (d := d) (w.pages p).farmerId
    (P := fun m => isMeantFor accountType m = true → isFoundFor accountType m ∧ isListed table m)
    fun m m' h => by rw [(meant_congr h).1, (meant_congr h).2, isListed_congr h]
  have absent := forall_swept (w := w) (p := p) (d := d) (w.pages p).farmerId
    (P := fun _ => False) fun _ _ _ => .rfl
  rw [docsAfter_eq hl, shown_loaded hl, showProducts, fetch, type]
  obtain ⟨docs, hdocs⟩ : ∃ docs,
    docs = ((swept (fun _ => true) p d w).products (w.pages p).farmerId).toList := ⟨_, rfl⟩
  rw [← hdocs] at words condition absent ⊢
  cases docs with
  | nil =>
    have nothing := absent.1 fun _ h => (List.not_mem_nil h).elim
    rw [List.map_nil, if_pos List.isEmpty_nil, showsExactly_nil]
    refine ⟨fun h => ⟨fun _ => h, fun id m hm => (nothing id m hm).elim⟩, fun h => h.1 ?_⟩
    exact fun id => Option.eq_none_iff_forall_ne_some.2 fun m hm => nothing id m hm
  | cons doc docs =>
    have something : ¬ ∀ id : String, (w.products (w.pages p).farmerId)[id]? = none := fun h => by
      refine absent.2 (fun id m hm => ?_) doc List.mem_cons_self
      rw [h id] at hm
      cases hm
    rw [if_neg (by simp), showsExactly_assigned ha rfl words, condition]
    exact ⟨fun h => ⟨fun hnone => absurd hnone something, h⟩, fun h => h.2⟩

def buyer : Device := ⟨⟨"customer", customer_ne_empty⟩, .customer, 0⟩

def figBasket (visibility : String) : Fields :=
  .ofList [("category", .text "fruits"), ("visibility", .text visibility)]

def figStall (visibility accountType : String) : ShopWorld where
  products farmerId :=
    if farmerId = "farmer" then (∅ : Std.TreeMap String Fields).insert "figs" (figBasket visibility)
    else ∅
  profiles _ _ := some (some accountType)
  pages _ := { farmerId := "farmer" }

theorem figStall_products {visibility accountType id : String} {m : Fields} :
    ((figStall visibility accountType).products "farmer")[id]? = some m ↔
      id = "figs" ∧ m = figBasket visibility := by
  have stored : (figStall visibility accountType).products "farmer" =
      (∅ : Std.TreeMap String Fields).insert "figs" (figBasket visibility) := by simp [figStall]
  rw [stored, Std.TreeMap.getElem?_insert]
  split
  case isTrue h => simp [eq_comm, Std.compare_eq_iff_eq.1 h]
  case isFalse h =>
    have other : id ≠ "figs" := fun heq => h (Std.compare_eq_iff_eq.2 heq.symm)
    simp [other]

theorem figStall_shown :
    ShowsExactly (fun c => [c]) "Personal account"
      (docsAfter (fun c => [c]) 0 buyer (figStall "Both" "Personal account"))
      ((afterFetch (fun c => [c]) (fun _ => true) 0 buyer
        (figStall "Both" "Personal account")).pages 0) := by
  refine (showsExactly_iff _ 0 buyer _ "Personal account" (by decide) rfl (by decide) ?_).2 ⟨?_, ?_⟩
  · intro id m hm
    obtain ⟨-, rfl⟩ := figStall_products.1 hm
    exact ⟨"Both", by decide, rfl⟩
  · intro h
    have stored : ((figStall "Both" "Personal account").products "farmer")["figs"]? =
        some (figBasket "Both") := figStall_products.2 ⟨rfl, rfl⟩
    exact absurd ((h "figs").symm.trans stored) (by simp)
  · intro id m hm _
    obtain ⟨-, rfl⟩ := figStall_products.1 hm
    exact ⟨.inl rfl, "fruits", by decide, by decide⟩

/-- Figs for organizations are kept from a business account. -/
theorem figStall_dropped :
    "Business account" ∈ accountTypes ∧
      (∀ (id : String) (m : Fields),
        ((figStall "Organizations" "Business account").products "farmer")[id]? = some m →
          ∃ v ∈ visibilityOptions, m.get "visibility" = .text v) ∧
      ¬ ShowsExactly (fun c => [c]) "Business account"
        (docsAfter (fun c => [c]) 0 buyer (figStall "Organizations" "Business account"))
        ((afterFetch (fun c => [c]) (fun _ => true) 0 buyer
          (figStall "Organizations" "Business account")).pages 0) := by
  refine ⟨by decide, fun id m hm => ?_, fun h => ?_⟩
  · obtain ⟨-, rfl⟩ := figStall_products.1 hm
    exact ⟨"Organizations", by decide, rfl⟩
  · have loads : loadsProducts (fun _ => true) 0 buyer
        (figStall "Organizations" "Business account") :=
      ⟨by decide, rfl, fun _ _ => rfl, rfl⟩
    have kept : ((swept (fun _ => true) 0 buyer (figStall "Organizations" "Business account")).products
        "farmer")["figs"]? = _ := swept_products "farmer" "figs"
    rw [if_neg fun h => absurd h.1 (by decide), figStall_products.2 ⟨rfl, rfl⟩] at kept
    have listed : ("figs", figBasket "Organizations") ∈ docsAfter (fun c => [c]) 0 buyer
        (figStall "Organizations" "Business account") := by
      rw [docsAfter_eq loads]
      exact Std.TreeMap.mem_toList_iff_getElem?_eq_some.2 kept
    have shown := h.loaded.mem_iff.2
      (List.mem_map_of_mem (List.mem_filter.2 ⟨listed, by decide⟩))
    obtain ⟨-, hpass, -⟩ := (mem_shown_fetched rfl loads).1 shown
    exact absurd hpass (by decide)

end Gherass.Shop
