import Gherass.HomeFarms
import Mathlib.Algebra.Ring.Int.Defs
import Mathlib.Logic.Function.Iterate

set_option autoImplicit false

/-!
# Loading the home page again

`getData` of `home_controller.dart`, which is called when the page is opened and again when a
driver comes back to it. Of the lists that it loads, it replaces some and appends to others.
-/
namespace Gherass.Shop

variable {K D : Type}

/-- What the database holds, as far as the page reads it. -/
structure HomeBackend (K : Type) where
  /-- the document of the signed-in user, if it is there -/
  user : Option Fields := none
  categories : List Fields := []
  /-- the documents of `farmer`, under their ids -/
  farmers : List (String × FarmDetails K) := []
  /-- the documents of each farmer's `products`, under their ids -/
  products : String → List (String × Fields) := fun _ => []

namespace HomeBackend

variable (b : HomeBackend K)

def getCategoryList : Option (List Fields) :=
  if b.categories.isEmpty then none else some b.categories

def fetchFarmerProducts (farmerId : String) : Option (List Fields) :=
  if (b.products farmerId).isEmpty then none
  else some ((b.products farmerId).map fun doc => doc.2.withId doc.1)

end HomeBackend

structure HomeScreen (K D : Type) extends HomeViewController K D where
  userName : String := ""
  phoneNumber : String := ""
  farmName : String := ""
  location : String := ""
  farmLogo : String := ""
  categoryList : List Fields := []

namespace HomeScreen

/-- `v ?? ""`, where a text is expected -/
def textOr : Value → Option String
  | .null => some ""
  | .text s => some s
  | _ => none

/-- The fields of the user that are shown, in the order in which they are assigned. -/
def details : List (String × (String → HomeScreen K D → HomeScreen K D)) :=
  [("username", fun s c => { c with userName := s }),
    ("phoneNumber", fun s c => { c with phoneNumber := s }),
    ("farmName", fun s c => { c with farmName := s }),
    ("farmLocation", fun s c => { c with location := s }),
    ("farm_logo", fun s c => { c with farmLogo := s })]

def assignDetails (results : Fields) :
    List (String × (String → HomeScreen K D → HomeScreen K D)) → HomeScreen K D →
      Bool × HomeScreen K D
  | [], c => (true, c)
  | (field, put) :: rest, c =>
    match textOr (results.get field) with
    | some s => assignDetails results rest (put s c)
    | none => (false, c)

def allProducts : Fields := .ofList [("name", .text "All Products")]

def assignCategories (categoryListResponse : Option (List Fields)) (c : HomeScreen K D) :
    HomeScreen K D :=
  match categoryListResponse with
  | some categories => { c with categoryList := categories ++ [allProducts] }
  | none => c

section GetData

variable [Zero K] [LE D] (table : Char → List Char) (calculateDistance : K → K → K → K → D)
  (sort : ListSort (FarmEntry K D) fun a b => a.distance ≤ b.distance) (b : HomeBackend K)

def loadFarms (c : HomeViewController K D) : HomeViewController K D :=
  (((c.addFarms b.farmers).fetchAndAttachProductsToFarms
    b.fetchFarmerProducts).filterFarmersByCategoryAndSortByDistance table calculateDistance sort
      "All Products")

def getData (c : HomeScreen K D) : HomeScreen K D :=
  match b.user with
  | none => c
  | some results =>
    match assignDetails results details c with
    | (false, c) => c
    | (true, c) =>
      let c := assignCategories b.getCategoryList c
      { c with toHomeViewController := loadFarms table calculateDistance sort b c.toHomeViewController }

def opened (accountType : String) (customerLat customerLng : Option K) : HomeScreen K D where
  accountType := accountType
  customerLat := customerLat
  customerLng := customerLng

end GetData

structure SameLists (c c' : HomeScreen K D) : Prop where
  farmsList : c'.farmsList = c.farmsList
  farmerIdList : c'.farmerIdList = c.farmerIdList
  productList : c'.productList = c.productList
  categoryList : c'.categoryList = c.categoryList
  sortedDistancesList : c'.sortedDistancesList = c.sortedDistancesList

structure Aligned (b : HomeBackend K) (c : HomeScreen K D) : Prop where
  length : c.farmsList.length = c.farmerIdList.length
  same : ∀ (i : ℕ) (farm : Farm K) (id : String), c.farmsList[i]? = some farm →
    c.farmerIdList[i]? = some id → (id, farm.toFarmDetails) ∈ b.farmers

/-- Any number of calls leaves what one call leaves. -/
def Idempotent [Zero K] [LE D] (table : Char → List Char) (calculateDistance : K → K → K → K → D)
    (sort : ListSort (FarmEntry K D) fun a b => a.distance ≤ b.distance) (b : HomeBackend K)
    (c : HomeScreen K D) : Prop :=
  ∀ n : ℕ, 1 ≤ n →
    SameLists (getData table calculateDistance sort b c)
      ((getData table calculateDistance sort b)^[n] c) ∧
    Aligned b ((getData table calculateDistance sort b)^[n] c)

/-- The user's document can be read, as far as it is shown. -/
def Readable (b : HomeBackend K) : Prop :=
  ∃ results, b.user = some results ∧
    ∀ field ∈ ["username", "phoneNumber", "farmName", "farmLocation", "farm_logo"],
      (textOr (results.get field)).isSome

theorem attachProducts_details (fetch : String → Option (List Fields))
    (acc : List (Farm K) × List (HomeProduct K)) (farmer : Farm K) :
    (HomeViewController.attachProducts fetch acc farmer).1.map (·.toFarmDetails) =
      acc.1.map (·.toFarmDetails) := by
  unfold HomeViewController.attachProducts
  split
  · rfl
  · split
    · rfl
    · exact HomeViewController.setFirst_details _ _ _

theorem foldl_details (fetch : String → Option (List Fields)) (farms : List (Farm K))
    (acc : List (Farm K) × List (HomeProduct K)) :
    (farms.foldl (HomeViewController.attachProducts fetch) acc).1.map (·.toFarmDetails) =
      acc.1.map (·.toFarmDetails) := by
  induction farms generalizing acc with
  | nil => rfl
  | cons farmer farms ih =>
    rw [List.foldl_cons, ih]
    exact attachProducts_details fetch acc farmer

section Load

variable [Zero K] [LE D] {table : Char → List Char} {calculateDistance : K → K → K → K → D}
  {sort : ListSort (FarmEntry K D) fun a b => a.distance ≤ b.distance} {b : HomeBackend K}

theorem loadFarms_farmerIdList (c : HomeViewController K D) :
    (loadFarms table calculateDistance sort b c).farmerIdList =
      c.farmerIdList ++ b.farmers.map (·.1) := by
  unfold loadFarms HomeViewController.fetchAndAttachProductsToFarms
  split
  · rfl
  · rfl

theorem loadFarms_details (c : HomeViewController K D) :
    (loadFarms table calculateDistance sort b c).farmsList.map (·.toFarmDetails) =
      c.farmsList.map (·.toFarmDetails) ++ b.farmers.map (·.2) := by
  have added : (c.addFarms b.farmers).farmsList.map (·.toFarmDetails) =
      c.farmsList.map (·.toFarmDetails) ++ b.farmers.map (·.2) := by
    rw [HomeViewController.addFarms, List.map_append, List.map_map]
    rfl
  rw [← added]
  unfold loadFarms HomeViewController.fetchAndAttachProductsToFarms
  split
  · rfl
  · exact foldl_details _ _ _

theorem loadFarms_empty (hb : b.farmers = []) {c : HomeViewController K D}
    (hfarms : c.farmsList = []) (hids : c.farmerIdList = []) :
    loadFarms table calculateDistance sort b c =
      { c with productList := [], sortedDistancesList := [] } := by
  have added : c.addFarms b.farmers = c := by
    rw [HomeViewController.addFarms, hb, hfarms, hids]
    cases c
    simp_all
  have nothing : sort.sort [] = [] := (sort.perm []).eq_nil
  rw [loadFarms, added, HomeViewController.fetchAndAttachProductsToFarms, hids]
  simp only [List.isEmpty_nil, if_true, HomeViewController.filterFarmersByCategoryAndSortByDistance,
    List.foldl_nil, List.map_nil, nothing]

omit [Zero K] [LE D] in
theorem assignDetails_lists (results : Fields)
    {fields : List (String × (String → HomeScreen K D → HomeScreen K D))}
    (h : ∀ x ∈ fields, ∀ s c, (x.2 s c).toHomeViewController = c.toHomeViewController ∧
      (x.2 s c).categoryList = c.categoryList) (c : HomeScreen K D) :
    (assignDetails results fields c).2.toHomeViewController = c.toHomeViewController ∧
      (assignDetails results fields c).2.categoryList = c.categoryList := by
  induction fields generalizing c with
  | nil => exact ⟨rfl, rfl⟩
  | cons x fields ih =>
    unfold assignDetails
    split
    · rename_i s _
      obtain ⟨hlists, hcategories⟩ := ih (fun y hy => h y (List.mem_cons_of_mem _ hy)) (x.2 s c)
      obtain ⟨hput, hput'⟩ := h x List.mem_cons_self s c
      exact ⟨hlists.trans hput, hcategories.trans hput'⟩
    · exact ⟨rfl, rfl⟩

omit [Zero K] [LE D] in
theorem details_lists (results : Fields) (c : HomeScreen K D) :
    (assignDetails results details c).2.toHomeViewController = c.toHomeViewController ∧
      (assignDetails results details c).2.categoryList = c.categoryList := by
  refine assignDetails_lists results (fun x hx s c => ?_) c
  simp only [details, List.mem_cons, List.not_mem_nil, or_false] at hx
  rcases hx with rfl | rfl | rfl | rfl | rfl <;> exact ⟨rfl, rfl⟩

omit [Zero K] [LE D] in
theorem assignDetails_fst (results : Fields)
    (fields : List (String × (String → HomeScreen K D → HomeScreen K D))) (c : HomeScreen K D) :
    (assignDetails results fields c).1 = true ↔
      ∀ field ∈ fields.map (·.1), (textOr (results.get field)).isSome := by
  induction fields generalizing c with
  | nil => simp [assignDetails]
  | cons x fields ih =>
    unfold assignDetails
    split
    case h_1 s hs => simp [ih, hs]
    case h_2 hnone => simp [hnone]

omit [Zero K] [LE D] in
theorem assignCategories_frame (categoryListResponse : Option (List Fields))
    (c : HomeScreen K D) :
    (assignCategories categoryListResponse c).toHomeViewController = c.toHomeViewController ∧
      (assignCategories categoryListResponse c).categoryList =
        (categoryListResponse.map (· ++ [allProducts])).getD c.categoryList := by
  cases categoryListResponse with
  | none | some categories => exact ⟨rfl, rfl⟩

variable (table calculateDistance sort) in
theorem getData_lists (b : HomeBackend K) (c : HomeScreen K D) :
    (Readable b ∧
      (getData table calculateDistance sort b c).toHomeViewController =
        loadFarms table calculateDistance sort b c.toHomeViewController ∧
      (getData table calculateDistance sort b c).categoryList =
        (b.getCategoryList.map (· ++ [allProducts])).getD c.categoryList) ∨
    (¬ Readable b ∧
      (getData table calculateDistance sort b c).toHomeViewController = c.toHomeViewController ∧
      (getData table calculateDistance sort b c).categoryList = c.categoryList) := by
  unfold getData
  split
  case h_1 huser =>
    refine .inr ⟨?_, rfl, rfl⟩
    rintro ⟨results, hsome, -⟩
    cases huser.symm.trans hsome
  case h_2 results huser =>
    obtain ⟨sameLists, sameCategories⟩ := details_lists results c
    have names : (details (K := K) (D := D)).map (·.1) =
        ["username", "phoneNumber", "farmName", "farmLocation", "farm_logo"] := rfl
    have read := assignDetails_fst results details c
    rw [names] at read
    split
    case h_1 c' hassigned =>
      rw [hassigned] at sameLists sameCategories read
      refine .inr ⟨?_, sameLists, sameCategories⟩
      rintro ⟨results', hsome, hall⟩
      cases huser.symm.trans hsome
      cases read.2 hall
    case h_2 c' hassigned =>
      rw [hassigned] at sameLists sameCategories read
      obtain ⟨frame, categories⟩ := assignCategories_frame b.getCategoryList c'
      refine .inl ⟨⟨results, huser, read.1 rfl⟩, ?_, ?_⟩
      · exact congrArg (loadFarms table calculateDistance sort b) (frame.trans sameLists)
      · exact categories.trans (congrArg _ sameCategories)

variable (table calculateDistance sort b) in
theorem iterate_farms (hb : Readable b) (accountType : String) (lat lng : Option K) (n : ℕ) :
    let c := (getData table calculateDistance sort b)^[n] (opened accountType lat lng)
    c.farmerIdList = (List.replicate n (b.farmers.map (·.1))).flatten ∧
      c.farmsList.map (·.toFarmDetails) = (List.replicate n (b.farmers.map (·.2))).flatten := by
  induction n with
  | zero => exact ⟨rfl, rfl⟩
  | succ n ih =>
    dsimp only at ih ⊢
    rw [Function.iterate_succ_apply']
    obtain ⟨-, loaded, -⟩ := (getData_lists table calculateDistance sort b
      ((getData table calculateDistance sort b)^[n] (opened accountType lat lng))).resolve_right
        fun h => h.1 hb
    rw [loaded, loadFarms_farmerIdList, loadFarms_details, ih.1, ih.2, List.replicate_succ',
      List.replicate_succ', List.flatten_concat, List.flatten_concat]
    exact ⟨rfl, rfl⟩

variable (table calculateDistance sort b) in
theorem iterate_unchanged (hb : ¬ Readable b ∨ b.farmers = []) (accountType : String)
    (lat lng : Option K) (n : ℕ) :
    let first := opened accountType lat lng
    let c := (getData table calculateDistance sort b)^[n + 1] first
    c.toHomeViewController = first.toHomeViewController ∧
      c.categoryList = (getData table calculateDistance sort b first).categoryList := by
  have keeps (c : HomeScreen K D)
      (hc : c.toHomeViewController = (opened accountType lat lng).toHomeViewController) :
      (getData table calculateDistance sort b c).toHomeViewController =
        (opened accountType lat lng).toHomeViewController := by
    rcases getData_lists table calculateDistance sort b c with ⟨hread, loaded, -⟩ | ⟨-, same, -⟩
    · rw [loaded, hc]
      exact loadFarms_empty (hb.resolve_left fun h => h hread) rfl rfl
    · rw [same, hc]
  induction n with
  | zero => exact ⟨keeps _ rfl, rfl⟩
  | succ n ih =>
    dsimp only at ih ⊢
    rw [Function.iterate_succ_apply']
    refine ⟨keeps _ ih.1, ?_⟩
    have opening := getData_lists table calculateDistance sort b (opened accountType lat lng)
    rcases getData_lists table calculateDistance sort b ((getData table calculateDistance sort
      b)^[n + 1] (opened accountType lat lng)) with ⟨hread, -, categories⟩ | ⟨-, -, categories⟩
    · -- what is assigned does not depend on what was there
      obtain ⟨-, -, assigned⟩ := opening.resolve_right fun h => h.1 hread
      rw [categories, ih.2, assigned]
      cases b.getCategoryList with
      | none | some response => rfl
    · rw [categories, ih.2]

omit [Zero K] [LE D] in
theorem aligned_of_copies {c : HomeScreen K D} {n : ℕ}
    (hids : c.farmerIdList = (List.replicate n (b.farmers.map (·.1))).flatten)
    (hfarms : c.farmsList.map (·.toFarmDetails) =
      (List.replicate n (b.farmers.map (·.2))).flatten) : Aligned b c := by
  have ids : c.farmerIdList = (List.replicate n b.farmers).flatten.map (·.1) := by
    rw [hids, List.map_flatten, List.map_replicate]
  have farms : c.farmsList.map (·.toFarmDetails) =
      (List.replicate n b.farmers).flatten.map (·.2) := by
    rw [hfarms, List.map_flatten, List.map_replicate]
  refine ⟨?_, fun i farm id hfarm hid => ?_⟩
  · rw [ids, List.length_map, ← List.length_map (f := fun x : Farm K => x.toFarmDetails), farms,
      List.length_map]
  · have details : (c.farmsList.map (·.toFarmDetails))[i]? = some farm.toFarmDetails := by
      rw [List.getElem?_map, hfarm, Option.map_some]
    rw [farms, List.getElem?_map, Option.map_eq_some_iff] at details
    rw [ids, List.getElem?_map, Option.map_eq_some_iff] at hid
    obtain ⟨doc, hdoc, hdetails⟩ := details
    obtain ⟨doc', hdoc', hid⟩ := hid
    obtain rfl := Option.some_inj.1 (hdoc.symm.trans hdoc')
    obtain ⟨copy, hcopy, hmem⟩ := List.mem_flatten.1 (List.mem_of_getElem? hdoc)
    rw [List.eq_of_mem_replicate hcopy] at hmem
    exact (Prod.ext hid hdetails : doc = (id, farm.toFarmDetails)) ▸ hmem

end Load

end HomeScreen

open HomeScreen

theorem refresh_aligned [Zero K] [LE D] (table : Char → List Char)
    (calculateDistance : K → K → K → K → D)
    (sort : ListSort (FarmEntry K D) fun a b => a.distance ≤ b.distance) (b : HomeBackend K)
    (accountType : String) (lat lng : Option K) (n : ℕ) :
    Aligned b ((getData table calculateDistance sort b)^[n] (opened accountType lat lng)) := by
  by_cases hread : Readable b
  · obtain ⟨ids, farms⟩ := iterate_farms table calculateDistance sort b hread accountType lat lng n
    exact aligned_of_copies ids farms
  · cases n with
    | zero => exact aligned_of_copies (n := 0) rfl rfl
    | succ n =>
      obtain ⟨lists, -⟩ :=
        iterate_unchanged table calculateDistance sort b (.inl hread) accountType lat lng n
      exact aligned_of_copies (n := 0) (congrArg (·.farmerIdList) lists)
        (congrArg (fun c => c.farmsList.map (·.toFarmDetails)) lists)

/-- For every content of the database: loading the page again changes nothing exactly if the user
cannot be read or there are no farms; else every call lists all farms once more. -/
theorem refresh_idempotent_iff [Zero K] [LE D] (table : Char → List Char)
    (calculateDistance : K → K → K → K → D)
    (sort : ListSort (FarmEntry K D) fun a b => a.distance ≤ b.distance) (b : HomeBackend K)
    (accountType : String) (lat lng : Option K) :
    Idempotent table calculateDistance sort b (opened accountType lat lng) ↔
      ¬ Readable b ∨ b.farmers = [] := by
  constructor
  · intro h
    by_contra! hb
    obtain ⟨hread, hfarmers⟩ := hb
    have twice := (h 2 (by decide)).1.farmerIdList
    have once := (iterate_farms table calculateDistance sort b hread accountType lat lng 1).1
    rw [(iterate_farms table calculateDistance sort b hread accountType lat lng 2).1,
      ← Function.iterate_one (getData table calculateDistance sort b), once] at twice
    let ids := b.farmers.map (·.1)
    have repeated : ids ++ (ids ++ []) = ids ++ [] := twice
    have none := List.append_cancel_left repeated
    rw [List.append_nil] at none
    exact hfarmers (List.map_eq_nil_iff.1 none)
  · intro hb n hn
    obtain ⟨m, rfl⟩ := Nat.exists_eq_add_of_le' hn
    obtain ⟨lists, categories⟩ :=
      iterate_unchanged table calculateDistance sort b hb accountType lat lng m
    have first := (iterate_unchanged table calculateDistance sort b hb accountType lat lng 0).1
    have same := lists.trans first.symm
    exact ⟨⟨congrArg (·.farmsList) same, congrArg (·.farmerIdList) same,
      congrArg (·.productList) same, categories, congrArg (·.sortedDistancesList) same⟩,
      refresh_aligned table calculateDistance sort b accountType lat lng (m + 1)⟩

def oneFarm : HomeBackend ℤ where
  user := some .empty
  farmers := [("farmer", { farmerId := some "farmer" })]

/-- The second call lists the only farm a second time. -/
theorem refresh_repeats_farm : ¬ ∀ (table : Char → List Char)
    (sort : ListSort (FarmEntry ℤ ℤ) fun a b => a.distance ≤ b.distance) (b : HomeBackend ℤ),
    Idempotent table (fun _ _ _ _ => 0) sort b (opened "" none none) := by
  intro h
  have same := (h (fun x => [x]) (.byKey FarmEntry.distance) oneFarm 2 (by decide)).1.farmerIdList
  have once := congrArg List.length same
  exact absurd once (by decide +kernel)

end Gherass.Shop
