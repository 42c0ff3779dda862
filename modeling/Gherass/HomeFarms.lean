import Gherass.ShopControllers
import Mathlib.Algebra.GroupWithZero.Nat
import Mathlib.Order.Defs.LinearOrder

set_option autoImplicit false

/-!
# The farms of the home page

`fetchAndAttachProductsToFarms` and `filterFarmersByCategoryAndSortByDistance` of
`home_controller.dart`, over the answers of `fetchFarmerProducts`.
-/
namespace Gherass.Shop

variable {K D : Type}

/-- A document of `farmer`; `rest` are the fields that the home page only passes on. -/
structure FarmDetails (K : Type) where
  farmerId : Option String := none
  lat : Option K := none
  lng : Option K := none
  rest : Fields := .empty

structure HomeProduct (K : Type) where
  fields : Fields
  farmDetails : Option (FarmDetails K)

structure Farm (K : Type) extends FarmDetails K where
  products : Option (List (HomeProduct K)) := none

structure FarmEntry (K D : Type) where
  details : FarmDetails K
  distance : D

structure HomeViewController (K D : Type) where
  farmsList : List (Farm K) := []
  farmerIdList : List String := []
  productList : List (HomeProduct K) := []
  sortedDistancesList : List (FarmEntry K D) := []
  accountType : String := ""
  customerLat : Option K := none
  customerLng : Option K := none

/-- `List.sort`: an ascending arrangement, not necessarily a stable one. -/
structure ListSort (α : Type) (le : α → α → Prop) where
  sort : List α → List α
  perm : ∀ l, (sort l).Perm l
  sorted : ∀ l, (sort l).Pairwise le

def ListSort.byKey {α : Type} [LinearOrder D] (key : α → D) :
    ListSort α fun a b => key a ≤ key b where
  sort l := l.mergeSort fun a b => decide (key a ≤ key b)
  perm l := List.mergeSort_perm l _
  sorted l := by
    have trans : ∀ a b c : α, decide (key a ≤ key b) → decide (key b ≤ key c) →
        decide (key a ≤ key c) := by simpa using fun a b c => le_trans
    have total : ∀ a b : α, decide (key a ≤ key b) || decide (key b ≤ key a) := by
      simpa using fun a b => le_total (key a) (key b)
    have sorted := List.pairwise_mergeSort trans total l
    exact sorted.imp of_decide_eq_true

/-- `["farmerId"].toString()` -/
def FarmDetails.idText (farm : FarmDetails K) : String := farm.farmerId.getD "null"

namespace HomeViewController

/-- What the answer of `getFarmsList` adds: the farms and the ids of their documents. -/
def addFarms (docs : List (String × FarmDetails K)) (c : HomeViewController K D) :
    HomeViewController K D :=
  { c with
    farmsList := c.farmsList ++ docs.map fun doc => { doc.2 with }
    farmerIdList := c.farmerIdList ++ docs.map (·.1) }

/-- `farm["products"] = response`, for the first farm with the id -/
def setFirst (id : String) (products : List (HomeProduct K)) : List (Farm K) → List (Farm K)
  | [] => []
  | farm :: rest =>
    if farm.idText = id then { farm with products := some products } :: rest
    else farm :: setFirst id products rest

def attachProducts (fetch : String → Option (List Fields))
    (acc : List (Farm K) × List (HomeProduct K)) (farmer : Farm K) :
    List (Farm K) × List (HomeProduct K) :=
  match fetch farmer.idText with
  | none => acc
  | some response =>
    if response.isEmpty then acc
    else
      let farm := acc.1.find? fun farm => farmer.idText = farm.idText
      let products := response.map fun product => ⟨product, farm.map (·.toFarmDetails)⟩
      (setFirst farmer.idText products acc.1, acc.2 ++ products)

/-- `fetch` gives the answers of `fetchFarmerProducts`. -/
def fetchAndAttachProductsToFarms (fetch : String → Option (List Fields))
    (c : HomeViewController K D) : HomeViewController K D :=
  if c.farmerIdList.isEmpty then { c with productList := [] }
  else
    let attached := c.farmsList.foldl (attachProducts fetch) (c.farmsList, [])
    { c with farmsList := attached.1, productList := attached.2 }

section Filter

variable [Zero K] (table : Char → List Char) (calculateDistance : K → K → K → K → D)

def isAllCategory (category : String) : Bool :=
  toLowerCase table (trim category) = "all products"

def matchesCategory (category : String) (product : Fields) : Bool :=
  isAllCategory table category ∨ hasCategory table (toLowerCase table (trim category)) product

def withDistance (c : HomeViewController K D) (farmDetails : FarmDetails K) : FarmEntry K D where
  details := farmDetails
  distance := calculateDistance (c.customerLat.getD 0) (c.customerLng.getD 0)
    (farmDetails.lat.getD 0) (farmDetails.lng.getD 0)

def farmOf (c : HomeViewController K D) (category : String) (product : HomeProduct K) :
    Option (String × FarmDetails K) :=
  if matchesCategory table category product.fields ∧ isVisible c.accountType product.fields then
    product.farmDetails.bind fun farmDetails =>
      farmDetails.farmerId.map fun farmerId => (farmerId, farmDetails)
  else none

/-- One turn of the loop over `uniqueFarmersMap`. -/
def addFarmer (c : HomeViewController K D) (category : String)
    (uniqueFarmersMap : List (String × FarmEntry K D)) (product : HomeProduct K) :
    List (String × FarmEntry K D) :=
  match farmOf table c category product with
  | some (farmerId, farmDetails) =>
    if uniqueFarmersMap.any (·.1 = farmerId) then uniqueFarmersMap
    else uniqueFarmersMap ++ [(farmerId, withDistance calculateDistance c farmDetails)]
  | none => uniqueFarmersMap

def filterFarmersByCategoryAndSortByDistance [LE D]
    (sort : ListSort (FarmEntry K D) fun a b => a.distance ≤ b.distance) (category : String)
    (c : HomeViewController K D) : HomeViewController K D :=
  let uniqueFarmersMap := c.productList.foldl (addFarmer table calculateDistance c category) []
  { c with sortedDistancesList := sort.sort (uniqueFarmersMap.map (·.2)) }

end Filter

/-- The documents of `farmer`, each with its own id in it. -/
structure FarmDocs (K : Type) where
  docs : List (String × FarmDetails K)
  ids : ∀ doc ∈ docs, doc.2.farmerId.isSome
  distinct : (docs.map fun doc => doc.2.farmerId).Nodup

def FarmDocs.details (farms : FarmDocs K) : List (FarmDetails K) := farms.docs.map (·.2)

theorem FarmDocs.unique (farms : FarmDocs K) {farm farm' : FarmDetails K}
    (h : farm ∈ farms.details) (h' : farm' ∈ farms.details)
    (hid : farm.farmerId = farm'.farmerId) : farm = farm' := by
  have distinct : (farms.details.map (·.farmerId)).Nodup := by
    rw [FarmDocs.details, List.map_map]
    exact farms.distinct
  exact List.inj_on_of_nodup_map distinct h h' hid

theorem FarmDocs.idText_eq (farms : FarmDocs K) {farm : FarmDetails K} (h : farm ∈ farms.details) :
    farm.farmerId = some farm.idText := by
  obtain ⟨doc, hdoc, rfl⟩ := List.mem_map.1 h
  obtain ⟨id, hid⟩ := Option.isSome_iff_exists.1 (farms.ids doc hdoc)
  rw [FarmDetails.idText, hid, Option.getD_some]

def withFarms (farms : FarmDocs K) (c : HomeViewController K D) : HomeViewController K D :=
  addFarms farms.docs { c with farmsList := [], farmerIdList := [] }

section Attach

variable {fetch : String → Option (List Fields)} {farms : FarmDocs K}

def productsOf (fetch : String → Option (List Fields)) (farm : FarmDetails K) :
    List (HomeProduct K) :=
  ((fetch farm.idText).getD []).map fun product => ⟨product, some farm⟩

theorem setFirst_details (id : String) (products : List (HomeProduct K)) (fs : List (Farm K)) :
    (setFirst id products fs).map (·.toFarmDetails) = fs.map (·.toFarmDetails) := by
  induction fs with
  | nil => rfl
  | cons farm fs ih =>
    rw [setFirst]
    split
    · rfl
    · rw [List.map_cons, List.map_cons, ih]

theorem find_farm {fs : List (Farm K)} (hfs : fs.map (·.toFarmDetails) = farms.details)
    {farmer : Farm K} (hmem : farmer.toFarmDetails ∈ farms.details) :
    (fs.find? fun farm => farmer.idText = farm.idText).map (·.toFarmDetails) =
      some farmer.toFarmDetails := by
  have here : ∃ farm ∈ fs, farm.toFarmDetails = farmer.toFarmDetails := by
    rw [← hfs] at hmem
    exact List.mem_map.1 hmem
  obtain ⟨farm, hfarm, hsame⟩ := here
  have isSome : (fs.find? fun farm => farmer.idText = farm.idText).isSome :=
    List.find?_isSome.2 ⟨farm, hfarm, decide_eq_true (by rw [hsame])⟩
  obtain ⟨first, hfirst⟩ := Option.isSome_iff_exists.1 isSome
  have found := List.find?_some hfirst
  have sameId : farmer.idText = first.idText :=
    of_decide_eq_true (p := farmer.idText = first.idText) found
  have hmem' : first.toFarmDetails ∈ farms.details :=
    hfs ▸ List.mem_map.2 ⟨first, List.mem_of_find?_eq_some hfirst, rfl⟩
  have same : first.farmerId = farmer.farmerId := by
    rw [farms.idText_eq hmem', farms.idText_eq hmem, sameId]
  rw [hfirst, Option.map_some, farms.unique hmem' hmem same]

variable (fetch) in
theorem attachProducts_eq (farms : FarmDocs K) {acc : List (Farm K) × List (HomeProduct K)}
    (hacc : acc.1.map (·.toFarmDetails) = farms.details) {farmer : Farm K}
    (hmem : farmer.toFarmDetails ∈ farms.details) :
    (attachProducts fetch acc farmer).1.map (·.toFarmDetails) = farms.details ∧
      (attachProducts fetch acc farmer).2 = acc.2 ++ productsOf fetch farmer.toFarmDetails := by
  unfold attachProducts
  cases hfetch : fetch farmer.idText with
  | none => exact ⟨hacc, by simp [productsOf, hfetch]⟩
  | some response =>
    dsimp only
    split
    case isTrue hempty =>
      exact ⟨hacc, by simp [productsOf, hfetch, List.isEmpty_iff.1 hempty]⟩
    case isFalse =>
      refine ⟨(setFirst_details _ _ _).trans hacc, ?_⟩
      rw [find_farm hacc hmem, productsOf, hfetch, Option.getD_some]

variable (fetch) in
theorem attach_all (farms : FarmDocs K) {fs : List (Farm K)}
    (acc : List (Farm K) × List (HomeProduct K))
    (hacc : acc.1.map (·.toFarmDetails) = farms.details)
    (hfs : ∀ farmer ∈ fs, farmer.toFarmDetails ∈ farms.details) :
    (fs.foldl (attachProducts fetch) acc).2 =
      acc.2 ++ (fs.map (·.toFarmDetails)).flatMap (productsOf fetch) := by
  induction fs generalizing acc with
  | nil => simp
  | cons farmer fs ih =>
    obtain ⟨hnext, hproducts⟩ := attachProducts_eq fetch farms hacc (hfs farmer List.mem_cons_self)
    rw [List.foldl_cons, ih _ hnext fun f hf => hfs f (List.mem_cons_of_mem _ hf), hproducts,
      List.map_cons, List.flatMap_cons, List.append_assoc]

theorem productList_eq (fetch : String → Option (List Fields)) (farms : FarmDocs K)
    (c : HomeViewController K D) :
    (fetchAndAttachProductsToFarms fetch (withFarms farms c)).productList =
      farms.details.flatMap (productsOf fetch) := by
  let loaded : List (Farm K) := farms.docs.map fun doc => { doc.2 with }
  have details : loaded.map (·.toFarmDetails) = farms.details := by
    rw [List.map_map]
    rfl
  unfold fetchAndAttachProductsToFarms
  split
  case isTrue hempty =>
    have none : farms.docs = [] := by simpa [withFarms, addFarms] using hempty
    rw [FarmDocs.details, none]
    rfl
  case isFalse =>
    have listed : ∀ farmer ∈ loaded, farmer.toFarmDetails ∈ farms.details := fun farmer hf =>
      details ▸ List.mem_map.2 ⟨farmer, hf, rfl⟩
    have attached := attach_all fetch farms (loaded, []) details listed
    rw [details, List.nil_append] at attached
    exact attached

end Attach

section Unique

variable [Zero K] {table : Char → List Char} {calculateDistance : K → K → K → K → D}
  {c : HomeViewController K D} {category : String} {farms : FarmDocs K}

/-- What the map holds: farms that were loaded, under their ids, each at most once. -/
structure HoldsFarms (calculateDistance : K → K → K → K → D) (c : HomeViewController K D)
    (farms : FarmDocs K) (uniqueFarmersMap : List (String × FarmEntry K D)) : Prop where
  nodup : (uniqueFarmersMap.map (·.1)).Nodup
  entries : ∀ x ∈ uniqueFarmersMap, ∃ farm ∈ farms.details, farm.farmerId = some x.1 ∧
    x.2 = withDistance calculateDistance c farm

variable (table category) in
theorem addFarmer_spec {acc : List (String × FarmEntry K D)} {product : HomeProduct K}
    (hacc : HoldsFarms calculateDistance c farms acc)
    (hproduct : ∀ farm ∈ product.farmDetails, farm ∈ farms.details) :
    HoldsFarms calculateDistance c farms (addFarmer table calculateDistance c category acc product) ∧
      ∀ x, x ∈ addFarmer table calculateDistance c category acc product ↔ x ∈ acc ∨
        ∃ id farm, farmOf table c category product = some (id, farm) ∧
          x = (id, withDistance calculateDistance c farm) := by
  unfold addFarmer
  cases hfarm : farmOf table c category product with
  | none => exact ⟨hacc, fun x => ⟨.inl, fun h => h.elim id fun ⟨_, _, h, _⟩ => by cases h⟩⟩
  | some found =>
    obtain ⟨id, farm⟩ := found
    obtain ⟨hid, hmem⟩ : farm.farmerId = some id ∧ farm ∈ farms.details := by
      unfold farmOf at hfarm
      split at hfarm
      case isFalse => cases hfarm
      case isTrue =>
        obtain ⟨farm', hfarm', hmap⟩ := Option.bind_eq_some_iff.1 hfarm
        obtain ⟨id', hid', heq⟩ := Option.map_eq_some_iff.1 hmap
        cases heq
        exact ⟨hid', hproduct _ hfarm'⟩
    dsimp only
    split
    case isTrue hany =>
      obtain ⟨x, hx, hkey⟩ := List.any_eq_true.1 hany
      obtain ⟨farm', hmem', hid', hentry⟩ := hacc.entries x hx
      have key : x.1 = id := of_decide_eq_true hkey
      have same : farm' = farm := farms.unique hmem' hmem (by rw [hid', hid, key])
      refine ⟨hacc, fun y => ⟨.inl, fun h => h.elim (fun h => h) ?_⟩⟩
      rintro ⟨id', farm'', heq, rfl⟩
      cases heq
      rw [← key, ← same, ← hentry]
      exact hx
    case isFalse hnew =>
      have fresh : id ∉ acc.map (·.1) := fun h => by
        obtain ⟨x, hx, rfl⟩ := List.mem_map.1 h
        exact hnew (List.any_eq_true.2 ⟨x, hx, decide_eq_true rfl⟩)
      refine ⟨⟨?_, fun x hx => ?_⟩, fun x => ?_⟩
      · rw [List.map_append]
        refine List.nodup_append.2 ⟨hacc.nodup, List.nodup_singleton _, fun a ha b hb heq => ?_⟩
        obtain rfl := List.mem_singleton.1 hb
        exact fresh (heq ▸ ha)
      · rcases List.mem_append.1 hx with hx | hx
        · exact hacc.entries x hx
        · obtain rfl := List.mem_singleton.1 hx
          exact ⟨farm, hmem, hid, rfl⟩
      · rw [List.mem_append, List.mem_singleton]
        refine or_congr Iff.rfl ⟨fun h => ⟨id, farm, rfl, h⟩, ?_⟩
        rintro ⟨id', farm', heq, rfl⟩
        cases heq
        rfl

variable (table category) in
theorem addFarmers_spec {products : List (HomeProduct K)} {acc : List (String × FarmEntry K D)}
    (hacc : HoldsFarms calculateDistance c farms acc)
    (hproducts : ∀ product ∈ products, ∀ farm ∈ product.farmDetails, farm ∈ farms.details) :
    HoldsFarms calculateDistance c farms
        (products.foldl (addFarmer table calculateDistance c category) acc) ∧
      ∀ x, x ∈ products.foldl (addFarmer table calculateDistance c category) acc ↔ x ∈ acc ∨
        ∃ product ∈ products, ∃ id farm, farmOf table c category product = some (id, farm) ∧
          x = (id, withDistance calculateDistance c farm) := by
  induction products generalizing acc with
  | nil => exact ⟨hacc, fun x => by simp⟩
  | cons product products ih =>
    have hstep := addFarmer_spec table category hacc (hproducts product List.mem_cons_self)
    have hrest := ih hstep.1 fun p hp => hproducts p (List.mem_cons_of_mem _ hp)
    rw [List.foldl_cons]
    refine ⟨hrest.1, fun x => ?_⟩
    rw [hrest.2 x, hstep.2 x, or_assoc]
    simp only [List.mem_cons, exists_eq_or_imp]

/-- The product is of the category, up to blanks around it and case; every product is of
`All Products`. -/
def OfCategory (table : Char → List Char) (category : String) (product : Fields) : Prop :=
  toLowerCase table (trim category) = "all products" ∨
    ∃ own, (product.get "category").toText? = some own ∧
      toLowerCase table (trim own) = toLowerCase table (trim category)

theorem matchesCategory_iff {product : Fields} :
    matchesCategory table category product = true ↔ OfCategory table category product := by
  simp only [matchesCategory, isAllCategory, hasCategory, OfCategory, decide_eq_true_eq,
    Option.map_eq_some_iff]

theorem ofCategory_all (product : Fields) : OfCategory table "All Products" product := by
  left
  have trimmed : trim "All Products" = "All Products" := by decide
  have ascii : "All Products".toList.all (fun x => x.toNat < 128) = true := by decide
  rw [trimmed, toLowerCase,
    List.flatMap_congr fun x hx => if_pos (of_decide_eq_true (List.all_eq_true.1 ascii x hx))]
  decide

omit [Zero K] in
theorem farmOf_iff {product : HomeProduct K} {id : String} {farm : FarmDetails K} :
    farmOf table c category product = some (id, farm) ↔
      OfCategory table category product.fields ∧ isVisible c.accountType product.fields ∧
        product.farmDetails = some farm ∧ farm.farmerId = some id := by
  rw [← matchesCategory_iff, ← and_assoc]
  unfold farmOf
  split
  case isTrue h => simp [h, Option.bind_eq_some_iff]
  case isFalse h => simp [h]

/-- The farm has a product of the category that an account of the type may see. -/
def Offers (table : Char → List Char) (fetch : String → Option (List Fields))
    (accountType category : String) (farm : FarmDetails K) : Prop :=
  ∃ product ∈ (fetch farm.idText).getD [],
    OfCategory table category product ∧ isVisible accountType product

variable (table calculateDistance category) in
theorem uniqueFarmersMap_spec (fetch : String → Option (List Fields)) (farms : FarmDocs K)
    (hc : c.productList = farms.details.flatMap (productsOf fetch)) :
    HoldsFarms calculateDistance c farms
        (c.productList.foldl (addFarmer table calculateDistance c category) []) ∧
      ∀ x, x ∈ c.productList.foldl (addFarmer table calculateDistance c category) [] ↔
        ∃ farm ∈ farms.details, Offers table fetch c.accountType category farm ∧
          farm.farmerId = some x.1 ∧ x.2 = withDistance calculateDistance c farm := by
  have hproducts : ∀ product ∈ c.productList, ∀ farm ∈ product.farmDetails,
      farm ∈ farms.details := by
    intro product hproduct farm hfarm
    rw [hc] at hproduct
    obtain ⟨owner, howner, hown⟩ := List.mem_flatMap.1 hproduct
    obtain ⟨fields, -, rfl⟩ := List.mem_map.1 hown
    cases hfarm
    exact howner
  have start : HoldsFarms calculateDistance c farms [] := ⟨List.nodup_nil, by simp⟩
  obtain ⟨holds, hmem⟩ := addFarmers_spec table category start hproducts
  refine ⟨holds, fun x => (hmem x).trans ⟨?_, ?_⟩⟩
  · rintro (hx | ⟨product, hproduct, id, farm, hfarm, rfl⟩)
    · cases hx
    rw [hc] at hproduct
    obtain ⟨owner, howner, hown⟩ := List.mem_flatMap.1 hproduct
    obtain ⟨fields, hfields, rfl⟩ := List.mem_map.1 hown
    obtain ⟨hcategory, hvisible, hdetails, hid⟩ := farmOf_iff.1 hfarm
    cases hdetails
    exact ⟨farm, howner, ⟨fields, hfields, hcategory, hvisible⟩, hid, rfl⟩
  · rintro ⟨farm, hfarm, ⟨fields, hfields, hcategory, hvisible⟩, hid, hx⟩
    refine .inr ⟨⟨fields, some farm⟩, ?_, x.1, farm,
      farmOf_iff.2 ⟨hcategory, hvisible, rfl, hid⟩, Prod.ext rfl hx⟩
    rw [hc]
    exact List.mem_flatMap.2 ⟨farm, hfarm, List.mem_map.2 ⟨fields, hfields, rfl⟩⟩

theorem mem_sortedDistancesList [LE D] (fetch : String → Option (List Fields))
    (farms : FarmDocs K) (sort : ListSort (FarmEntry K D) fun a b => a.distance ≤ b.distance)
    (hc : c.productList = farms.details.flatMap (productsOf fetch)) (e : FarmEntry K D) :
    e ∈ (filterFarmersByCategoryAndSortByDistance table calculateDistance sort category
        c).sortedDistancesList ↔
      ∃ farm ∈ farms.details, Offers table fetch c.accountType category farm ∧
        e = withDistance calculateDistance c farm := by
  obtain ⟨-, hmem⟩ := uniqueFarmersMap_spec table calculateDistance category fetch farms hc
  refine (sort.perm _).mem_iff.trans (List.mem_map.trans ⟨?_, ?_⟩)
  · rintro ⟨x, hx, rfl⟩
    obtain ⟨farm, hfarm, hoffers, -, hentry⟩ := (hmem x).1 hx
    exact ⟨farm, hfarm, hoffers, hentry⟩
  · rintro ⟨farm, hfarm, hoffers, rfl⟩
    exact ⟨(farm.idText, _), (hmem _).2 ⟨farm, hfarm, hoffers, farms.idText_eq hfarm, rfl⟩, rfl⟩

theorem sortedDistancesList_nodup [LE D] (fetch : String → Option (List Fields))
    (farms : FarmDocs K) (sort : ListSort (FarmEntry K D) fun a b => a.distance ≤ b.distance)
    (hc : c.productList = farms.details.flatMap (productsOf fetch)) :
    ((filterFarmersByCategoryAndSortByDistance table calculateDistance sort category
      c).sortedDistancesList.map (·.details.farmerId)).Nodup := by
  obtain ⟨holds, -⟩ := uniqueFarmersMap_spec table calculateDistance category fetch farms hc
  refine ((sort.perm _).map _).nodup_iff.2 ?_
  rw [List.map_map]
  have keys : ∀ x ∈ c.productList.foldl (addFarmer table calculateDistance c category) [],
      ((·.details.farmerId) ∘ (·.2) : String × FarmEntry K D → Option String) x = some x.1 := by
    intro x hx
    obtain ⟨farm, -, hid, hentry⟩ := holds.entries x hx
    change x.2.details.farmerId = some x.1
    rw [hentry]
    exact hid
  rw [List.map_congr_left keys]
  have mapped := holds.nodup.map (Option.some_injective String)
  rwa [List.map_map] at mapped

end Unique

theorem fetchAndAttach_frame (fetch : String → Option (List Fields))
    (c : HomeViewController K D) :
    (fetchAndAttachProductsToFarms fetch c).accountType = c.accountType ∧
      (fetchAndAttachProductsToFarms fetch c).customerLat = c.customerLat ∧
      (fetchAndAttachProductsToFarms fetch c).customerLng = c.customerLng := by
  unfold fetchAndAttachProductsToFarms
  split
  · exact ⟨rfl, rfl, rfl⟩
  · exact ⟨rfl, rfl, rfl⟩

/-- The farm list of the home page, for whatever `fetchFarmerProducts` answers. -/
theorem home_lists_farms [Zero K] [LE D] (table : Char → List Char)
    (calculateDistance : K → K → K → K → D)
    (sort : ListSort (FarmEntry K D) fun a b => a.distance ≤ b.distance)
    (fetch : String → Option (List Fields)) (farms : FarmDocs K) (category : String)
    (c : HomeViewController K D) :
    let listed := (filterFarmersByCategoryAndSortByDistance table calculateDistance sort category
      (fetchAndAttachProductsToFarms fetch (withFarms farms c))).sortedDistancesList
    listed.Pairwise (fun a b => a.distance ≤ b.distance) ∧
      (listed.map (·.details.farmerId)).Nodup ∧
      ∀ e, e ∈ listed ↔ ∃ farm ∈ farms.details, Offers table fetch c.accountType category farm ∧
        e = ⟨farm, calculateDistance (c.customerLat.getD 0) (c.customerLng.getD 0)
          (farm.lat.getD 0) (farm.lng.getD 0)⟩ := by
  have loaded := productList_eq fetch farms c
  obtain ⟨sameType, sameLat, sameLng⟩ := fetchAndAttach_frame fetch (withFarms farms c)
  refine ⟨sort.sorted _, sortedDistancesList_nodup fetch farms sort loaded, fun e => ?_⟩
  rw [mem_sortedDistancesList fetch farms sort loaded e, sameType]
  unfold withDistance
  rw [sameLat, sameLng]
  rfl

def orchard (id : String) (lat : ℕ) : FarmDetails ℕ := { farmerId := some id, lat := some lat }

def orchards : FarmDocs ℕ :=
  ⟨[("far", orchard "far" 5), ("near", orchard "near" 2), ("bare", orchard "bare" 1)],
    by simp [orchard], by simp [orchard]⟩

def figs : Fields := .ofList [("category", .text "Fruits"), ("visibility", .text "Both")]

def orchardProducts (farmerId : String) : Option (List Fields) :=
  if farmerId = "bare" then none else some [figs, figs]

def awayFrom (customerLat _ lat _ : ℕ) : ℕ := lat - customerLat

def orchardsListed : List (FarmEntry ℕ ℕ) :=
  (filterFarmersByCategoryAndSortByDistance (fun c => [c]) awayFrom (.byKey FarmEntry.distance)
    "All Products" (fetchAndAttachProductsToFarms orchardProducts
      (withFarms orchards { accountType := "Individuals" }))).sortedDistancesList

theorem home_lists_orchards :
    orchardsListed = [⟨orchard "near" 2, 2⟩, ⟨orchard "far" 5, 5⟩] := by
  obtain ⟨sorted, nodup, members⟩ := home_lists_farms (fun c => [c]) awayFrom
    (.byKey FarmEntry.distance) orchardProducts orchards "All Products"
    { accountType := "Individuals" }
  have forAll : figs.get "visibility" = .text "Both" := by decide +kernel
  have offers (farm : FarmDetails ℕ) :
      Offers (fun c => [c]) orchardProducts "Individuals" "All Products" farm ↔
        farm.idText ≠ "bare" := by
    unfold Offers orchardProducts
    split
    case isTrue hbare => simp [hbare]
    case isFalse hsells => simp [hsells, ofCategory_all, isVisible, forAll]
  have perm : orchardsListed.Perm [⟨orchard "near" 2, 2⟩, ⟨orchard "far" 5, 5⟩] := by
    refine (List.perm_ext_iff_of_nodup nodup.of_map (by simp)).2 fun e => (members e).trans ?_
    simp only [offers, orchards, FarmDocs.details]
    simp [orchard, FarmDetails.idText, awayFrom, or_comm]
  refine List.Perm.eq_of_pairwise ?_ sorted (by simp) perm
  -- two orchards of the list at one distance are the same one
  intro a b ha hb
  rw [perm.mem_iff] at ha
  simp only [List.mem_cons, List.not_mem_nil, or_false] at ha hb
  rcases ha with rfl | rfl <;> rcases hb with rfl | rfl <;> simp

end HomeViewController

end Gherass.Shop
