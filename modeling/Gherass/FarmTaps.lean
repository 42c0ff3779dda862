import Gherass.HomeFarms
import Gherass.ListPrefixes
import Mathlib.Algebra.GroupWithZero.Nat
import Mathlib.Data.List.Infix

set_option autoImplicit false

/-!
# The farm that a tap opens

`farmer_home.dart` shows the farms of one list and opens those of another;
`home_widgets.dart` opens the farm that it shows.
-/
namespace Gherass.Shop

open ListPrefixes HomeViewController

variable {K D : Type}

structure HomePage (K D : Type) extends HomeViewController K D where
  searchField : String := ""
  searchedFarmsList : List (Farm K) := []

/-- `(farm["farmName"] ?? "").toString()` -/
def FarmDetails.nameText (farm : FarmDetails K) : String :=
  (farm.rest.get "farmName").toText?.getD ""

/-- What `searchData` looks for. -/
def searchQuery (table : Char → List Char) (text : String) : String := toLowerCase table (trim text)

def isFound (table : Char → List Char) (text : String) (farm : FarmDetails K) : Bool :=
  searchQuery table text ≠ "" ∧
    (searchQuery table text).toList <:+: (toLowerCase table farm.nameText).toList

namespace HomePage

variable (page : HomePage K D)

/-- `searchData`, for the text that is then in the field -/
def searchData (table : Char → List Char) (text : String) : HomePage K D :=
  { page with
    searchField := text
    searchedFarmsList := page.farmsList.filter fun farm => isFound table text farm.toFarmDetails }

/-- The farms that the page shows, from the first to the last. -/
def shownFarms : List (FarmDetails K) :=
  if page.searchedFarmsList.isEmpty then
    if page.searchField = "" then page.sortedDistancesList.map (·.details) else []
  else page.searchedFarmsList.map (·.toFarmDetails)

/-- The arguments that a tap hands to the product page, unless it throws. -/
def tapFarm (index : ℕ) : Option (String × FarmDetails K) := do
  let farmerId ← page.farmerIdList[index]?
  let farm ← page.farmsList[index]?
  pure (farmerId, farm.toFarmDetails)

def customerFarms : List (FarmDetails K) :=
  if page.searchField = "" then page.sortedDistancesList.map (·.details)
  else page.searchedFarmsList.map (·.toFarmDetails)

def customerTap (index : ℕ) : Option (String × FarmDetails K) :=
  page.customerFarms[index]?.map fun farm => (farm.idText, farm)

end HomePage

/-- Every farm on show is the one that a tap on it opens. -/
def opensShown (shown : List (FarmDetails K)) (tap : ℕ → Option (String × FarmDetails K)) : Prop :=
  ∀ (index : ℕ) (farm : FarmDetails K), shown[index]? = some farm →
    tap index = some (farm.idText, farm)

/-- The documents of `farmer`, each under the id that registration wrote into it. -/
structure RegisteredFarms (K : Type) extends FarmDocs K where
  own : ∀ doc ∈ docs, doc.2.farmerId = some doc.1

section Pages

variable [Zero K] [LE D]

/-- The page once its farms are loaded, filtered by a category and searched for a text. -/
def homePage (table : Char → List Char) (calculateDistance : K → K → K → K → D)
    (sort : ListSort (FarmEntry K D) fun a b => a.distance ≤ b.distance)
    (fetch : String → Option (List Fields)) (farms : RegisteredFarms K) (category text : String)
    (c : HomeViewController K D) : HomePage K D :=
  let loaded := fetchAndAttachProductsToFarms fetch (withFarms farms.toFarmDocs c)
  HomePage.searchData ⟨filterFarmersByCategoryAndSortByDistance table calculateDistance sort
    category loaded, "", []⟩ table text

end Pages

section Lists

variable {table : Char → List Char} {calculateDistance : K → K → K → K → D}
  {fetch : String → Option (List Fields)} {farms : RegisteredFarms K} {category text : String}
  {c : HomeViewController K D}

theorem attach_details {fs : List (Farm K)} (acc : List (Farm K) × List (HomeProduct K))
    (hacc : acc.1.map (·.toFarmDetails) = farms.details)
    (hfs : ∀ farmer ∈ fs, farmer.toFarmDetails ∈ farms.details) :
    (fs.foldl (attachProducts fetch) acc).1.map (·.toFarmDetails) = farms.details := by
  induction fs generalizing acc with
  | nil => exact hacc
  | cons farmer fs ih =>
    obtain ⟨hnext, -⟩ := attachProducts_eq fetch farms.toFarmDocs hacc (hfs farmer List.mem_cons_self)
    exact ih _ hnext fun f hf => hfs f (List.mem_cons_of_mem _ hf)

variable (fetch farms c) in
theorem attached_details : (fetchAndAttachProductsToFarms fetch
    (withFarms farms.toFarmDocs c)).farmsList.map (·.toFarmDetails) = farms.details := by
  let loaded : List (Farm K) := farms.docs.map fun doc => { doc.2 with }
  have details : loaded.map (·.toFarmDetails) = farms.details := by
    rw [List.map_map]
    rfl
  have listed : ∀ farmer ∈ loaded, farmer.toFarmDetails ∈ farms.details := fun farmer hf =>
    details ▸ List.mem_map.2 ⟨farmer, hf, rfl⟩
  unfold fetchAndAttachProductsToFarms
  split
  case isTrue => exact details
  case isFalse => exact attach_details (loaded, []) details listed

theorem attached_ids : (fetchAndAttachProductsToFarms fetch
    (withFarms farms.toFarmDocs c)).farmerIdList = farms.docs.map (·.1) := by
  unfold fetchAndAttachProductsToFarms
  split
  · rfl
  · rfl

theorem RegisteredFarms.idText_eq {doc : String × FarmDetails K} (h : doc ∈ farms.docs) :
    doc.2.idText = doc.1 := by
  rw [FarmDetails.idText, farms.own doc h, Option.getD_some]

theorem mem_details_nodup (farms : FarmDocs K) : farms.details.Nodup := by
  have ids : (farms.details.map (·.farmerId)).Nodup := by
    rw [FarmDocs.details, List.map_map]
    exact farms.distinct
  exact ids.of_map

variable [Zero K] [LE D] {sort : ListSort (FarmEntry K D) fun a b => a.distance ≤ b.distance}

theorem tapFarm_eq (index : ℕ) :
    (homePage table calculateDistance sort fetch farms category text c).tapFarm index =
      farms.details[index]?.map fun farm => (farm.idText, farm) := by
  let page := homePage table calculateDistance sort fetch farms category text c
  have ids : page.farmerIdList = farms.docs.map (·.1) := attached_ids
  have loaded : page.farmsList.map (·.toFarmDetails) = farms.docs.map (·.2) :=
    attached_details fetch farms c
  have tapped : page.tapFarm index = page.farmerIdList[index]?.bind fun farmerId =>
      (page.farmsList.map (·.toFarmDetails))[index]?.map fun farm => (farmerId, farm) := by
    rw [List.getElem?_map, HomePage.tapFarm]
    cases page.farmsList[index]? with
    | none | some farm => rfl
  change page.tapFarm index = _
  rw [tapped, ids, loaded, FarmDocs.details, List.getElem?_map, List.getElem?_map]
  cases hdoc : farms.docs[index]? with
  | none => rfl
  | some doc =>
    have own := RegisteredFarms.idText_eq (List.mem_of_getElem? hdoc)
    simp only [Option.map_some, Option.bind_some, own]

theorem opensShown_iff (shown : List (FarmDetails K)) :
    opensShown shown
        (homePage table calculateDistance sort fetch farms category text c).tapFarm ↔
      shown <+: farms.details := by
  rw [prefix_iff, opensShown]
  refine forall_congr' fun index => forall_congr' fun farm => imp_congr_right fun _ => ?_
  rw [tapFarm_eq, Option.map_eq_some_iff]
  constructor
  · rintro ⟨farm', hfarm, heq⟩
    rw [hfarm]
    exact congrArg some (Prod.ext_iff.1 heq).2
  · exact fun h => ⟨farm, h, rfl⟩

omit [Zero K] [LE D] in
theorem searchData_details (page : HomePage K D) :
    (page.searchData table text).searchedFarmsList.map (·.toFarmDetails) =
      (page.farmsList.map (·.toFarmDetails)).filter (isFound table text) := by
  rw [List.filter_map, Function.comp_def]
  rfl

variable (table calculateDistance fetch farms category text c sort) in
theorem searchedFarms_details :
    (homePage table calculateDistance sort fetch farms category text c).searchedFarmsList.map
      (·.toFarmDetails) = farms.details.filter (isFound table text) := by
  have details := attached_details fetch farms c
  exact (searchData_details _).trans (congrArg (List.filter (isFound table text)) details)

def distanceTo (calculateDistance : K → K → K → K → D) (c : HomeViewController K D)
    (farm : FarmDetails K) : D :=
  calculateDistance (c.customerLat.getD 0) (c.customerLng.getD 0) (farm.lat.getD 0)
    (farm.lng.getD 0)

variable (table calculateDistance fetch farms category text c sort) in
theorem sortedFarms_arranges : Arranges (Offers table fetch c.accountType category)
    (distanceTo calculateDistance c) farms.details
    ((homePage table calculateDistance sort fetch farms category text c).sortedDistancesList.map
      (·.details)) := by
  obtain ⟨sorted, nodup, listed⟩ :=
    home_lists_farms table calculateDistance sort fetch farms.toFarmDocs category c
  refine ⟨?_, fun farm => ?_, ?_⟩
  · refine List.Nodup.of_map (·.farmerId) ?_
    rw [List.map_map]
    exact nodup
  · rw [List.mem_map]
    constructor
    · rintro ⟨e, he, rfl⟩
      obtain ⟨farm, hfarm, hoffers, rfl⟩ := (listed e).1 he
      exact ⟨hfarm, hoffers⟩
    · rintro ⟨hfarm, hoffers⟩
      exact ⟨_, (listed _).2 ⟨farm, hfarm, hoffers, rfl⟩, rfl⟩
  · refine List.pairwise_map.2 (List.Pairwise.imp_of_mem (fun {a b} ha hb h => ?_) sorted)
    obtain ⟨farm, -, -, rfl⟩ := (listed a).1 ha
    obtain ⟨farm', -, -, rfl⟩ := (listed b).1 hb
    exact h

end Lists

theorem ListSort.exists_sort {α : Type} {le : α → α → Prop} (sort : ListSort α le)
    {l target : List α} (perm : target.Perm l) (sorted : target.Pairwise le) :
    ∃ sort' : ListSort α le, sort'.sort l = target := by
  classical
  refine ⟨⟨fun l' => if l' = l then target else sort.sort l', fun l' => ?_, fun l' => ?_⟩,
    if_pos rfl⟩
  · split
    case isTrue h => exact h ▸ perm
    case isFalse => exact sort.perm l'
  · split
    case isTrue => exact sorted
    case isFalse => exact sort.sorted l'

section Taps

variable [Zero K] [LinearOrder D] {table : Char → List Char}
  {calculateDistance : K → K → K → K → D} {fetch : String → Option (List Fields)}
  {farms : RegisteredFarms K} {category text : String} {c : HomeViewController K D}

variable (text) in
theorem exists_sorted {arranged : List (FarmDetails K)}
    (h : Arranges (Offers table fetch c.accountType category) (distanceTo calculateDistance c)
      farms.details arranged) :
    ∃ sort, (homePage table calculateDistance sort fetch farms category text
      c).sortedDistancesList.map (·.details) = arranged := by
  let loaded := fetchAndAttachProductsToFarms fetch (withFarms farms.toFarmDocs c)
  let entries := (loaded.productList.foldl (addFarmer table calculateDistance loaded category)
    []).map (·.2)
  let sort₀ : ListSort (FarmEntry K D) fun a b => a.distance ≤ b.distance := .byKey FarmEntry.distance
  let entry (farm : FarmDetails K) : FarmEntry K D := ⟨farm, distanceTo calculateDistance c farm⟩
  have shown := sortedFarms_arranges table calculateDistance fetch farms category text c sort₀
  obtain ⟨-, -, listed⟩ :=
    home_lists_farms table calculateDistance sort₀ fetch farms.toFarmDocs category c
  have same : ((sort₀.sort entries).map (·.details)).Perm arranged :=
    (List.perm_ext_iff_of_nodup shown.nodup h.nodup).2 fun farm => by
      rw [h.mem, ← shown.mem]
  have details : ((sort₀.sort entries).map (·.details)).map entry = sort₀.sort entries := by
    rw [List.map_map]
    refine (List.map_congr_left fun e he => ?_).trans (List.map_id _)
    obtain ⟨farm, -, -, rfl⟩ := (listed e).1 he
    rfl
  have perm : (arranged.map entry).Perm entries := by
    refine ((same.map entry).symm.trans ?_).trans (sort₀.perm entries)
    rw [details]
  obtain ⟨sort, hsort⟩ := ListSort.exists_sort sort₀ perm
    (List.pairwise_map.2 h.sorted)
  refine ⟨sort, ?_⟩
  have sorted : (homePage table calculateDistance sort fetch farms category text
      c).sortedDistancesList = sort.sort entries := rfl
  rw [sorted, hsort, List.map_map]
  exact List.map_id _

theorem sorts_prefix_iff :
    (∀ sort, (homePage table calculateDistance sort fetch farms category text
        c).sortedDistancesList.map (·.details) <+: farms.details) ↔
      farms.details.Pairwise fun a b => Offers table fetch c.accountType category b →
        Offers table fetch c.accountType category a ∧
          distanceTo calculateDistance c a < distanceTo calculateDistance c b := by
  rw [← arranges_prefix_iff (mem_details_nodup farms.toFarmDocs)]
  constructor
  · intro h arranged harranges
    obtain ⟨sort, hsort⟩ := exists_sorted text harranges
    exact hsort ▸ h sort
  · exact fun h sort => h _ (sortedFarms_arranges ..)

theorem shownFarms_eq {sort : ListSort (FarmEntry K D) fun a b => a.distance ≤ b.distance} :
    (homePage table calculateDistance sort fetch farms category text c).shownFarms =
      if text = "" then (homePage table calculateDistance sort fetch farms category text
        c).sortedDistancesList.map (·.details)
      else farms.details.filter (isFound table text) := by
  have searched := searchedFarms_details table calculateDistance fetch farms category text c sort
  have field : (homePage table calculateDistance sort fetch farms category text c).searchField =
      text := rfl
  rw [HomePage.shownFarms, field, ← searched]
  split
  case isTrue hempty => rw [List.isEmpty_iff.1 hempty, List.map_nil]
  case isFalse hsome =>
    split
    case isTrue htext =>
      have none : farms.details.filter (isFound table text) = [] := by
        refine List.filter_eq_nil_iff.2 fun farm _ hfound => ?_
        exact (of_decide_eq_true hfound).1 (by rw [htext]; rfl)
      rw [none, List.map_eq_nil_iff] at searched
      exact absurd (List.isEmpty_iff.2 searched) hsome
    case isFalse => rfl

end Taps

/-- On the farmers' home page all taps are right, however the farms are sorted, exactly if the
    farms on show come first of all that were loaded: those that were found, or those that are
    listed, which are to be farther and farther away. On the customers' page they always
    are. -/
theorem taps_open_shown_iff [Zero K] [LinearOrder D] (table : Char → List Char)
    (calculateDistance : K → K → K → K → D) (fetch : String → Option (List Fields))
    (farms : RegisteredFarms K) (category text : String) (c : HomeViewController K D) :
    (∀ sort, opensShown
      (homePage table calculateDistance sort fetch farms category text c).customerFarms
      (homePage table calculateDistance sort fetch farms category text c).customerTap) ∧
    ((∀ sort, opensShown
        (homePage table calculateDistance sort fetch farms category text c).shownFarms
        (homePage table calculateDistance sort fetch farms category text c).tapFarm) ↔
      if text = "" then
        farms.details.Pairwise fun a b => Offers table fetch c.accountType category b →
          Offers table fetch c.accountType category a ∧
            distanceTo calculateDistance c a < distanceTo calculateDistance c b
      else
        farms.details.Pairwise fun a b =>
          isFound table text b = true → isFound table text a = true) := by
  constructor
  · intro sort index farm hshown
    rw [HomePage.customerTap, hshown]
    rfl
  · simp only [opensShown_iff, shownFarms_eq]
    split
    case isTrue => exact sorts_prefix_iff
    case isFalse =>
      rw [filter_prefix_iff]
      exact ⟨fun h => h (.byKey FarmEntry.distance), fun h _ => h⟩

def farmDoc (id farmName : String) : String × FarmDetails ℕ :=
  (id, { farmerId := some id, rest := .ofList [("farmName", .text farmName)] })

def twoFarms : RegisteredFarms ℕ where
  docs := [farmDoc "north" "Palms", farmDoc "south" "Figs"]
  ids := by simp [farmDoc]
  distinct := by simp [farmDoc]
  own := by simp [farmDoc]

/-- The search finds the second farm, and a tap on it opens the first. -/
theorem tap_opens_other :
    ¬ ∀ sort, opensShown
      (homePage (fun c => [c]) (fun _ _ _ _ => 0) sort (fun _ => none) twoFarms "All Products"
        "figs" ({} : HomeViewController ℕ ℕ)).shownFarms
      (homePage (fun c => [c]) (fun _ _ _ _ => 0) sort (fun _ => none) twoFarms "All Products"
        "figs" ({} : HomeViewController ℕ ℕ)).tapFarm := by
  intro h
  have found : twoFarms.details.filter (isFound (fun c => [c]) "figs") =
      [(farmDoc "south" "Figs").2] := by
    have first : isFound (fun c => [c]) "figs" (farmDoc "north" "Palms").2 = false := by decide
    have second : isFound (fun c => [c]) "figs" (farmDoc "south" "Figs").2 = true := by decide
    simp [FarmDocs.details, twoFarms, first, second]
  have tapped := h (.byKey FarmEntry.distance) 0 (farmDoc "south" "Figs").2 (by
    rw [shownFarms_eq, if_neg (by decide), found]
    rfl)
  rw [tapFarm_eq] at tapped
  have ids : "north" = "south" := congrArg Prod.fst (Option.some_inj.1 tapped)
  exact absurd ids (by decide)

end Gherass.Shop
