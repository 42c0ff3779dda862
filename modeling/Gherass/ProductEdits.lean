import Gherass.DiscountLinks
import Gherass.FieldMaps

set_option autoImplicit false

/-!
# Editing a product

The page that edits a product loads most of its fields. The category comes from the list of
categories instead, whenever it arrives, and the product is hidden when it is saved.
-/
namespace Gherass.Shop

open EventLoop EventLoop.Async Gherass.Shop.FirebaseHelper

namespace Fields

variable (m : Fields) (k : String)

/-- `m[k]`, where a string is expected -/
def text? : Option String :=
  match m.get k with
  | .text s => some s
  | _ => none

/-- `m[k]`, where an integer is expected -/
def int? : Option ℤ :=
  match m.get k with
  | .int n => some n
  | _ => none

variable {m k} {s : String} {n : ℤ}

theorem eq_of_text (h : m.text? k = some s) : m k = some (.text s) := by
  unfold text? get at h
  cases hk : m k with
  | none => simp [hk] at h
  | some v =>
    rw [hk, Option.getD_some] at h
    split at h
    case h_1 => cases h; rfl
    case h_2 => cases h

theorem eq_of_int (h : m.int? k = some n) : m k = some (.int n) := by
  unfold int? get at h
  cases hk : m k with
  | none => simp [hk] at h
  | some v =>
    rw [hk, Option.getD_some] at h
    split at h
    case h_1 => cases h; rfl
    case h_2 => cases h

end Fields

/-- The page's controller. The categories are given by their names. -/
structure AddProdController where
  form : ProductForm := ⟨"", "", "", "", "", "", "", "", 0, 0, "", ""⟩
  categoryList : List String := []

namespace AddProdController

def loadImage (decodes : String → Bool) (image : Value) (base64ProdImage : String) :
    Option String :=
  match image with
  | .null => some base64ProdImage
  | .text image => if decodes image then some image else none
  | _ => none

/-- Fails if a field does not have its type, or if the image cannot be decoded. -/
def updateFields (decodes : String → Bool) (arguments : Fields) (c : AddProdController) :
    Option AddProdController := do
  let productName ← arguments.text? "name"
  let base64ProdImage ← loadImage decodes (arguments.get "image") c.form.base64ProdImage
  let productId ← arguments.text? "id"
  let productType ← arguments.text? "prodType"
  let productDescription ← arguments.text? "description"
  let productVisibility ← arguments.text? "visibility"
  let productPrice ← arguments.int? "price"
  let productQty ← arguments.int? "qty"
  let productQuality ← arguments.text? "quality"
  let productionDate ← arguments.text? "productionDate"
  return { c with
    form := { c.form with
      productName := productName
      base64ProdImage := base64ProdImage
      productId := productId
      productType := productType
      productDescription := productDescription
      productVisibility := productVisibility
      productPrice := productPrice
      productQty := productQty
      productQuality := productQuality
      productionDate := productionDate } }

def select (selectedCategory : String) (c : AddProdController) : AddProdController :=
  { c with form := { c.form with selectedCategory := selectedCategory } }

def getCategoryList (response : Option (List String)) (c : AddProdController) :
    AddProdController :=
  let loaded := { c with categoryList := c.categoryList ++ response.getD [] }
  match loaded.categoryList.getLast? with
  | some last => loaded.select last
  | none => loaded

def customDropdownWidget (c : AddProdController) : AddProdController :=
  if c.form.selectedCategory ∈ c.categoryList then c
  else c.select (c.categoryList.head?.getD "others")

/-- What the translator makes of the name: a text in the language. -/
def translatedName (translate : String → String → String) (productName : String) : String :=
  if productName.toList.any (fun c => 'a' ≤ c ∧ c ≤ 'z') then translate productName "ar"
  else translate productName "en"

def toSave (translate : String → String → String) (c : AddProdController) : ProductForm :=
  { c.form with productNameTranslated := translatedName translate c.form.productName }

end AddProdController

/-- The page builds its form, and the list of categories arrives. -/
inductive PageMove where
  | build
  | categories (response : Option (List String))
  deriving DecidableEq

def PageMove.apply : PageMove → AddProdController → AddProdController
  | .build => AddProdController.customDropdownWidget
  | .categories response => AddProdController.getCategoryList response

def runPage (ms : List PageMove) (c : AddProdController) : AddProdController :=
  ms.foldl (fun c m => m.apply c) c

def arrived : List PageMove → List String
  | [] => []
  | .build :: ms => arrived ms
  | .categories response :: ms => response.getD [] ++ arrived ms

/-- The category that the page shows: the last of those that have arrived, or the default. -/
def shownCategory (ms : List PageMove) : String :=
  match (arrived ms).getLast? with
  | some last => last
  | none => if .build ∈ ms then "others" else ""

/-- Whoever saves the page leaves the product `id` as it is. -/
def SavesAsIs (translate : String → String → String) (d : Device) (id : String) (m : Fields)
    (c : AddProdController) : Prop :=
  ∀ (table : Char → List Char) (ids : IdSupply) (ok : ShopAccess → Bool) (w : ShopWorld),
    (∀ l, ok l = true) → (w.products d.uid)[id]? = some m →
      ((afterEvent table ids ok (.updateProduct d (c.toSave translate)) w).products d.uid)[id]? =
        some m

section Page

variable {ms : List PageMove} {c : AddProdController}

structure Shows (ms : List PageMove) (form : ProductForm) (c : AddProdController) : Prop where
  categories : c.categoryList = arrived ms
  form : c.form = { form with selectedCategory := shownCategory ms }

theorem arrived_append (ms ms' : List PageMove) :
    arrived (ms ++ ms') = arrived ms ++ arrived ms' := by
  induction ms with
  | nil => rfl
  | cons m ms ih =>
    cases m with
    | build => exact ih
    | categories response =>
      rw [List.cons_append, arrived, arrived, ih, List.append_assoc]

theorem shown_of_last {last : String} (h : (arrived ms).getLast? = some last) :
    shownCategory ms = last := by rw [shownCategory, h]

theorem shown_of_none (h : arrived ms = []) :
    shownCategory ms = if .build ∈ ms then "others" else "" := by rw [shownCategory, h]; rfl

theorem shows_build {form : ProductForm} (h : Shows ms form c) :
    Shows (ms ++ [.build]) form c.customDropdownWidget := by
  have same : arrived (ms ++ [.build]) = arrived ms := by
    rw [arrived_append]
    exact List.append_nil _
  unfold AddProdController.customDropdownWidget
  rw [h.categories, h.form]
  cases hlast : (arrived ms).getLast? with
  | none =>
    have none : arrived ms = [] := List.getLast?_eq_none_iff.1 hlast
    have shown : shownCategory (ms ++ [.build]) = "others" := by
      rw [shown_of_none (same.trans none), if_pos (by simp)]
    rw [none, if_neg List.not_mem_nil]
    refine ⟨h.categories.trans same.symm, ?_⟩
    rw [AddProdController.select, h.form, shown]
    rfl
  | some last =>
    have shown : shownCategory (ms ++ [.build]) = shownCategory ms := by
      rw [shown_of_last hlast, shown_of_last ((congrArg _ same).trans hlast)]
    rw [if_pos (by rw [shown_of_last hlast]; exact List.mem_of_getLast? hlast)]
    refine ⟨h.categories.trans same.symm, ?_⟩
    rw [h.form, shown]

theorem shows_categories {form : ProductForm} (h : Shows ms form c)
    (response : Option (List String)) :
    Shows (ms ++ [.categories response]) form (c.getCategoryList response) := by
  have more : arrived (ms ++ [.categories response]) = arrived ms ++ response.getD [] := by
    rw [arrived_append]
    simp [arrived]
  unfold AddProdController.getCategoryList
  simp only [h.categories, ← more]
  split
  case h_1 last hlast =>
    refine ⟨rfl, ?_⟩
    rw [AddProdController.select, h.form, shown_of_last hlast]
  case h_2 hlast =>
    have none : arrived (ms ++ [.categories response]) = [] := List.getLast?_eq_none_iff.1 hlast
    have before : arrived ms = [] := (List.append_eq_nil_iff.1 (more.symm.trans none)).1
    refine ⟨rfl, ?_⟩
    rw [shown_of_none none, h.form, shown_of_none before]
    simp

theorem shows_run (ms : List PageMove) {ms₀ : List PageMove} {form : ProductForm}
    (h : Shows ms₀ form c) : Shows (ms₀ ++ ms) form (runPage ms c) := by
  induction ms generalizing ms₀ c with
  | nil => rwa [List.append_nil]
  | cons m ms ih =>
    rw [List.append_cons]
    cases m with
    | build => exact ih (shows_build h)
    | categories response => exact ih (shows_categories h response)

end Page

section Saved

variable {d : Device} {id : String} {m : Fields} {c : AddProdController}
  {translate : String → String → String}

def savedData (form : ProductForm) : List (String × Value) :=
  AddProdController.productData form ++
    [("isHidden", .bool (if form.productQty < 0 then false else true))]

theorem savesAsIs_iff (hid : c.form.productId ≠ "")
    (hvalid : AddProdController.validationError c.form = none) :
    SavesAsIs translate d c.form.productId m c ↔
      m.merge (.ofList (savedData (c.toSave translate))) = m := by
  have saved (table : Char → List Char) (ids : IdSupply) {ok : ShopAccess → Bool} {w : ShopWorld}
      (hok : ∀ l, ok l = true) (hm : (w.products d.uid)[c.form.productId]? = some m) :
      ((afterEvent table ids ok (.updateProduct d (c.toSave translate)) w).products d.uid)[
        c.form.productId]? = some (m.merge (.ofList (savedData (c.toSave translate)))) := by
    obtain ⟨stored, hstored⟩ : ∃ stored, stored = w.setProducts d.uid
      (·.insert c.form.productId (m.merge (.ofList (savedData (c.toSave translate))))) := ⟨_, rfl⟩
    have store : updateProductDoc d.uid c.form.productId
        (·.merge (.ofList (savedData (c.toSave translate)))) w = (stored, .ok ()) := by
      rw [updateProductDoc, hm, hstored]
    have write : Yields ok (updateProductToFarmer d.uid c.form.productId
        (.ofList (savedData (c.toSave translate))) none) w (.ok ()) stored :=
      .tryCatch (.bind (yields_checkDoc hid) (.call_eq (hok _) store))
    have run : Yields ok (AddProdController.updateProduct d (c.toSave translate)) w (.ok ())
        stored := by
      have valid : AddProdController.validationError (c.toSave translate) = none := hvalid
      refine .bind (.call_answer (hok _) rfl) ?_
      rw [valid]
      exact write
    have after : afterEvent table ids ok (.updateProduct d (c.toSave translate)) w = stored :=
      run.task
    rw [after, hstored, ShopWorld.products_setProducts, Std.TreeMap.getElem?_insert_self]
  constructor
  · intro h
    let w : ShopWorld :=
      { products := Function.update (fun _ => ∅) d.uid ((∅ : Std.TreeMap String Fields).insert
          c.form.productId m) }
    have stored : (w.products d.uid)[c.form.productId]? = some m := by simp [w]
    have same := h (fun c => [c]) .longer (fun _ => true) w (fun _ => rfl) stored
    rw [saved _ _ (fun _ => rfl) stored] at same
    exact Option.some_inj.1 same
  · intro h table ids ok w hok hm
    rw [saved table ids hok hm, h]

theorem savedData_keys (form : ProductForm) : ((savedData form).map Prod.fst).Nodup := by
  have keys : (savedData form).map Prod.fst = ["name", "translatedName", "image", "category",
      "prodType", "description", "visibility", "price", "qty", "quality", "productionDate",
      "isHidden"] := rfl
  rw [keys]
  decide

def loadedData (form : ProductForm) : List (String × Value) :=
  [("name", .text form.productName), ("image", .text form.base64ProdImage),
    ("id", .text form.productId), ("prodType", .text form.productType),
    ("description", .text form.productDescription), ("visibility", .text form.productVisibility),
    ("price", .int form.productPrice), ("qty", .int form.productQty),
    ("quality", .text form.productQuality), ("productionDate", .text form.productionDate)]

theorem image_of_valid {form : ProductForm} (h : AddProdController.validationError form = none) :
    form.base64ProdImage ≠ "" := by
  unfold AddProdController.validationError at h
  grind

theorem qty_of_valid {form : ProductForm} (h : AddProdController.validationError form = none) :
    ¬ form.productQty < 0 := by
  unfold AddProdController.validationError at h
  grind

theorem fields_loaded {decodes : String → Bool} {arguments : Fields}
    (h : AddProdController.updateFields decodes arguments {} = some c)
    (himage : c.form.base64ProdImage ≠ "") :
    c = { form := { c.form with selectedCategory := "" } } ∧
      ∀ e ∈ loadedData c.form, arguments e.1 = some e.2 := by
  obtain ⟨productName, hname, h⟩ := Option.bind_eq_some_iff.1 h
  obtain ⟨base64ProdImage, hloaded, h⟩ := Option.bind_eq_some_iff.1 h
  obtain ⟨productId, hid, h⟩ := Option.bind_eq_some_iff.1 h
  obtain ⟨productType, htype, h⟩ := Option.bind_eq_some_iff.1 h
  obtain ⟨productDescription, hdescription, h⟩ := Option.bind_eq_some_iff.1 h
  obtain ⟨productVisibility, hvisibility, h⟩ := Option.bind_eq_some_iff.1 h
  obtain ⟨productPrice, hprice, h⟩ := Option.bind_eq_some_iff.1 h
  obtain ⟨productQty, hqty, h⟩ := Option.bind_eq_some_iff.1 h
  obtain ⟨productQuality, hquality, h⟩ := Option.bind_eq_some_iff.1 h
  obtain ⟨productionDate, hdate, h⟩ := Option.bind_eq_some_iff.1 h
  cases h
  have image : arguments.text? "image" = some base64ProdImage := by
    unfold AddProdController.loadImage at hloaded
    split at hloaded
    case h_1 =>
      cases hloaded
      exact absurd rfl himage
    case h_2 image hget =>
      split at hloaded
      case isTrue =>
        cases hloaded
        rw [Fields.text?, hget]
      case isFalse => cases hloaded
    case h_3 => cases hloaded
  refine ⟨rfl, ?_⟩
  simp only [loadedData, List.forall_mem_cons]
  exact ⟨Fields.eq_of_text hname, Fields.eq_of_text image, Fields.eq_of_text hid,
    Fields.eq_of_text htype, Fields.eq_of_text hdescription, Fields.eq_of_text hvisibility,
    Fields.eq_of_int hprice, Fields.eq_of_int hqty, Fields.eq_of_text hquality,
    Fields.eq_of_text hdate, List.forall_mem_nil _⟩

end Saved

/-- A product that is opened and saved stays as it is exactly if it was hidden, and had the category
    that the page shows. -/
theorem unchanged_iff (translate : String → String → String) (decodes : String → Bool) (d : Device)
    {id : String} {m : Fields} {c : AddProdController} (hid : id ≠ "")
    (hdoc : m.withId id "id" = some (.text id))
    (hload : AddProdController.updateFields decodes (m.withId id) {} = some c)
    (hvalid : AddProdController.validationError c.form = none)
    (htranslated : m "translatedName" =
      some (.text (AddProdController.translatedName translate c.form.productName)))
    (ms : List PageMove) :
    SavesAsIs translate d id m (runPage ms c) ↔
      m "category" = some (.text (shownCategory ms)) ∧ m "isHidden" = some (.bool true) := by
  have image : c.form.base64ProdImage ≠ "" := image_of_valid hvalid
  obtain ⟨hc, hfields⟩ := fields_loaded hload image
  have opened : Shows [] c.form c := ⟨congrArg (·.categoryList) hc, congrArg (·.form) hc⟩
  obtain ⟨-, hform⟩ := shows_run ms opened
  rw [List.nil_append] at hform
  have productId : c.form.productId = id := by
    have same := (hfields ("id", .text c.form.productId) (by simp [loadedData])).symm.trans hdoc
    exact Value.text.inj (Option.some_inj.1 same)
  have stored : ∀ e ∈ loadedData c.form, e.1 ≠ "id" → m e.1 = some e.2 := fun e he hne =>
    (Fields.withId_of_ne hne).symm.trans (hfields e he)
  have saves : SavesAsIs translate d id m (runPage ms c) ↔
      ∀ e ∈ savedData ((runPage ms c).toSave translate), m e.1 = some e.2 := by
    refine Iff.trans ?_ (FieldMaps.merge_ofList_eq_self_iff (savedData_keys _))
    have target : (runPage ms c).form.productId = id := by rw [hform]; exact productId
    rw [← target]
    exact savesAsIs_iff (by rwa [target]) (by rw [hform]; exact hvalid)
  simp only [loadedData, List.forall_mem_cons] at stored
  rw [saves, AddProdController.toSave, hform]
  simp only [savedData, AddProdController.productData, List.cons_append, List.nil_append,
    List.forall_mem_cons, if_neg (qty_of_valid hvalid)]
  obtain ⟨hname, himage, -, htype, hdescription, hvisibility, hprice, hqty, hquality, hdate, -⟩ :=
    stored
  constructor
  · rintro ⟨-, -, -, hcategory, -, -, -, -, -, -, -, hhidden, -⟩
    exact ⟨hcategory, hhidden⟩
  · rintro ⟨hcategory, hhidden⟩
    exact ⟨hname (by decide), htranslated, himage (by decide), hcategory, htype (by decide),
      hdescription (by decide), hvisibility (by decide), hprice (by decide), hqty (by decide),
      hquality (by decide), hdate (by decide), hhidden, List.forall_mem_nil _⟩

def storedDates (category : String) (isHidden : Bool) : Fields :=
  .ofList [("id", .text "dates"), ("name", .text "Dates"), ("translatedName", .text "Tumur"),
    ("image", .text "image"), ("category", .text category), ("prodType", .text ""),
    ("description", .text "Fresh"), ("visibility", .text "Both"), ("price", .int 5),
    ("qty", .int 20), ("quality", .text "Organic"), ("productionDate", .text "1/6/2025"),
    ("isHidden", .bool isHidden)]

def datesForm : ProductForm :=
  ⟨"dates", "Dates", "", "image", "", "", "Fresh", "Both", 5, 20, "Organic", "1/6/2025"⟩

def loadedLate : List PageMove := [.build, .categories (some ["fruits", "others"]), .build]

theorem hiddenOther_unchanged : SavesAsIs (fun _ _ => "Tumur") seller "dates"
    (storedDates "others" true)
    (runPage loadedLate ⟨datesForm, []⟩) := by
  refine (unchanged_iff (fun _ _ => "Tumur") (fun _ => true) seller (by decide) ?_ ?_ ?_ ?_ _).2 ?_
  · rfl
  · rfl
  · decide
  · rfl
  · exact ⟨rfl, rfl⟩

/-- A product on sale gets hidden, and one of the first category moves to the last. -/
theorem fruits_moved :
    AddProdController.updateFields (fun _ => true) (storedDates "fruits" false) {} =
      some ⟨datesForm, []⟩ ∧
    AddProdController.validationError datesForm = none ∧
    ¬ SavesAsIs (fun _ _ => "Tumur") seller "dates" (storedDates "others" false)
      (runPage loadedLate ⟨datesForm, []⟩) ∧
    ¬ SavesAsIs (fun _ _ => "Tumur") seller "dates" (storedDates "fruits" true)
      (runPage loadedLate ⟨datesForm, []⟩) := by
  have saves {m : Fields} : SavesAsIs (fun _ _ => "Tumur") seller "dates" m
      (runPage loadedLate ⟨datesForm, []⟩) → _ :=
    (savesAsIs_iff (c := runPage loadedLate ⟨datesForm, []⟩) (by decide) (by decide)).1
  refine ⟨rfl, by decide, fun h => ?_, fun h => ?_⟩
  · exact absurd (congrFun (saves h) "isHidden") (by decide)
  · exact absurd (congrFun (saves h) "category") (by decide)

end Gherass.Shop
