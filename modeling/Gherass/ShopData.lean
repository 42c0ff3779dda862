import Gherass.FarmEvents

set_option autoImplicit false

/-!
# The data of the shop

Products as maps of fields, the way the farmer's and the customer's pages pass them on,
and the promotions that discount them.
-/
namespace Gherass.Shop

inductive Value where
  | null
  | bool (b : Bool)
  | int (n : ℤ)
  | text (s : String)
  deriving DecidableEq

/-- `?.toString()` -/
def Value.toText? : Value → Option String
  | .null => none
  | .bool b => some (toString b)
  | .int n => some (toString n)
  | .text s => some s

/-- `Map<String, dynamic>` -/
def Fields : Type := String → Option Value

namespace Fields

def empty : Fields := fun _ => none

def ofList (entries : List (String × Value)) : Fields := fun k =>
  (entries.find? fun e => e.1 = k).map (·.2)

/-- `m[k]`: null if there is no such field -/
def get (m : Fields) (k : String) : Value := (m k).getD .null

def set (m : Fields) (k : String) (v : Value) : Fields := Function.update m k (some v)

/-- The fields of a document that is updated with `data`. -/
def merge (m data : Fields) : Fields := fun k => (data k).or (m k)

/-- The fields of a document once those of `ks` are deleted. -/
def without (m : Fields) (ks : List String) : Fields := fun k => if k ∈ ks then none else m k

/-- `{'id': id, ...m}` -/
def withId (id : String) (m : Fields) : Fields := merge (ofList [("id", .text id)]) m

variable {m data : Fields} {k k' : String} {v : Value}

@[simp] theorem set_self : m.set k v k = some v := Function.update_self ..

theorem set_of_ne (h : k' ≠ k) : m.set k v k' = m k' := Function.update_of_ne h ..

theorem merge_of_some (h : data k = some v) : m.merge data k = some v := by
  rw [merge, h, Option.some_or]

theorem merge_of_none (h : data k = none) : m.merge data k = m k := by
  rw [merge, h, Option.none_or]

theorem without_of_mem {ks : List String} (h : k ∈ ks) : m.without ks k = none := if_pos h

theorem without_of_not_mem {ks : List String} (h : k ∉ ks) : m.without ks k = m k := if_neg h

theorem withId_of_ne {id : String} (h : k ≠ "id") : m.withId id k = m k := by
  have hid : ofList [("id", Value.text id)] k = none := by simp [ofList, Ne.symm h]
  unfold withId merge
  rw [hid, Option.or_none]

theorem get_congr {m' : Fields} (h : m' k = m k) : m'.get k = m.get k := by rw [get, get, h]

end Fields

def discountFields : List String := ["discount_end_date", "discount_price"]

/-- `toLowerCase()`. The table says what becomes of the characters beyond ASCII. -/
def toLowerCase (table : Char → List Char) (s : String) : String :=
  String.ofList (s.toList.flatMap fun c => if c.toNat < 128 then [c.toLower] else table c)

/-- `DateFormat("yyyy-MM-dd")` -/
def formatDate (t : DateTime) : String :=
  let year := toString t.year
  String.ofList (List.replicate (4 - year.length) '0') ++ year ++ "-" ++ twoDigits t.month ++ "-" ++
    twoDigits t.day

theorem farmer_ne_empty : "farmer" ≠ "" := by decide

theorem customer_ne_empty : "customer" ≠ "" := by decide

structure Promotion where
  product : String
  description : String
  newPrice : String
  startDate : String
  endDate : String
  deriving DecidableEq

/-- A document of `farmer/{uid}/promotions`. `id` is null until the document's own id is
    recorded. -/
structure PromotionDoc extends Promotion where
  docId : String
  id : Option String := none
  deriving DecidableEq

/-- A product's map in the farmer's list, and the map as it was loaded. The latter is
    bookkeeping. -/
structure ProductMap where
  loaded : Fields := .empty
  fields : Fields := .empty

/-- `selectedProduct` is the number of a map; the map 0 is the controller's own. -/
structure PromotionsController where
  startDate : String := ""
  endDate : String := ""
  promotionDescription : String := ""
  promotionNewPrice : String := ""
  promotionProductName : String := ""
  promotionId : String := ""
  selectedProductId : String := ""
  promotionsList : List PromotionDoc := []
  selectedProduct : ℕ := 0

/-- A farmer's app. The inventory page and the promotion pages share the maps of its
    products. -/
structure FarmerApp where
  maps : List ProductMap := [{}]
  farmerProducts : List ℕ := []
  promotions : PromotionsController := {}

structure ProductController where
  farmerId : String
  accountType : String := ""
  fruits : List Fields := []
  vegetables : List Fields := []
  others : List Fields := []
  farmerProducts : List Fields := []

/-- A promotion's write to a product: the fields as they were loaded, and the stored ones
    before and after. -/
structure PromotionWrite where
  loaded : Fields
  before : Fields
  after : Fields

/-- The collections and the pages. A farmer's promotions stand in the order in which they
    were last written. `profiles` holds the account types, `deletedIds` and
    `promotionWrites` are bookkeeping. -/
structure ShopWorld where
  products : String → Std.TreeMap String Fields := fun _ => ∅
  promotions : String → List PromotionDoc := fun _ => []
  profiles : LogInType → String → Option (Option String) := fun _ _ => none
  now : DateTime := ⟨2025, 1, 1, 0, 0⟩
  apps : Device → FarmerApp := fun _ => {}
  pages : ℕ → ProductController := fun _ => { farmerId := "" }
  deletedIds : List String := []
  promotionWrites : List PromotionWrite := []

inductive ShopAccess where
  | plain
  | profile (userId : String)
  | expiredFields (uid : String)
  | clearDiscount (uid productId : String)
  | fetchProducts (farmerId : String)
  | promote (uid productId : String)
  deriving DecidableEq

abbrev ShopProgram (α : Type) := EventLoop.Async ShopWorld ShopAccess DartError Bool α

namespace ShopWorld

variable (w : ShopWorld)

def today : String := formatDate w.now

def map? (d : Device) (ref : ℕ) : Option ProductMap := (w.apps d).maps[ref]?

def setApp (d : Device) (f : FarmerApp → FarmerApp) : ShopWorld :=
  { w with apps := Function.update w.apps d (f (w.apps d)) }

def setPromotions (d : Device) (f : PromotionsController → PromotionsController) : ShopWorld :=
  w.setApp d fun a => { a with promotions := f a.promotions }

def setMap (d : Device) (ref : ℕ) (f : Fields → Fields) : ShopWorld :=
  w.setApp d fun a =>
    { a with maps := a.maps.modify ref fun m => { m with fields := f m.fields } }

def setPage (p : ℕ) (f : ProductController → ProductController) : ShopWorld :=
  { w with pages := Function.update w.pages p (f (w.pages p)) }

def setProducts (farmerId : String) (f : Std.TreeMap String Fields → Std.TreeMap String Fields) :
    ShopWorld :=
  { w with products := Function.update w.products farmerId (f (w.products farmerId)) }

def setPromotionDocs (uid : String) (f : List PromotionDoc → List PromotionDoc) : ShopWorld :=
  { w with promotions := Function.update w.promotions uid (f (w.promotions uid)) }

@[simp] theorem promotions_setPromotionDocs (uid : String)
    (f : List PromotionDoc → List PromotionDoc) :
    (w.setPromotionDocs uid f).promotions uid = f (w.promotions uid) := Function.update_self ..

@[simp] theorem products_setProducts (farmerId : String)
    (f : Std.TreeMap String Fields → Std.TreeMap String Fields) :
    (w.setProducts farmerId f).products farmerId = f (w.products farmerId) :=
  Function.update_self ..

/-- The ids that a farmer's new promotion cannot get. -/
def usedIds (uid : String) : List String := (w.promotions uid).map (·.docId) ++ w.deletedIds

end ShopWorld

end Gherass.Shop
