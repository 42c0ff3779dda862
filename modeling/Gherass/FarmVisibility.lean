import Gherass.FarmPage
import Gherass.HomeFarms
import Mathlib.Algebra.GroupWithZero.Nat

set_option autoImplicit false

/-!
# The home page and a farm's page

What the two pages show of the same products. The home page goes by an account type that is
never loaded, and does not ask whether a product is hidden.
-/
namespace Gherass.Shop

open Gherass.Shop.HomeViewController Gherass.Shop.ProductController

variable {K D : Type} {table : Char → List Char} {category : String} {p : ℕ} {d : Device}
  {w : ShopWorld}

def openHome (customerLat customerLng : Option K) : HomeViewController K D :=
  { customerLat := customerLat, customerLng := customerLng }

def openFarm (p : ℕ) (farmerId : String) (w : ShopWorld) : ShopWorld :=
  w.setPage p fun _ => { farmerId := farmerId }

/-- The products under `farmer/{farmerId}`; there is no document without an id. -/
def productDocs (w : ShopWorld) (farmerId : String) : List Fields :=
  if farmerId = "" then [] else fetched w farmerId

def fetchAnswer (w : ShopWorld) (farmerId : String) : Option (List Fields) :=
  if (productDocs w farmerId).isEmpty then none else some (productDocs w farmerId)

def homeCounts (table : Char → List Char) (category : String) (product : Fields) : Prop :=
  OfCategory table category product ∧
    (product.get "visibility" = .text "" ∨ product.get "visibility" = .text "Both")

def pageCounts (table : Char → List Char) (accountType category : String) (product : Fields) :
    Prop :=
  OfCategory table category product ∧ isListed table product ∧ passes accountType product = true

theorem fetchAnswer_getD (farmerId : String) :
    (fetchAnswer w farmerId).getD [] = productDocs w farmerId := by
  unfold fetchAnswer
  split
  case isTrue hempty => rw [List.isEmpty_iff.1 hempty, Option.getD_none]
  case isFalse => rw [Option.getD_some]

theorem offers_iff {farm : FarmDetails K} : Offers table (fetchAnswer w) "" category farm ↔
    ∃ product ∈ productDocs w farm.idText, homeCounts table category product := by
  have visible (product : Fields) : isVisible "" product = true ↔
      product.get "visibility" = .text "" ∨ product.get "visibility" = .text "Both" := by
    simp [isVisible]
  simp only [Offers, fetchAnswer_getD, homeCounts, visible]

def homeList [Zero K] [LE D] (table : Char → List Char) (calculateDistance : K → K → K → K → D)
    (sort : ListSort (FarmEntry K D) fun a b => a.distance ≤ b.distance) (farms : FarmDocs K)
    (customerLat customerLng : Option K) (category : String) (w : ShopWorld) :
    List (FarmDetails K) :=
  (filterFarmersByCategoryAndSortByDistance table calculateDistance sort category
    (fetchAndAttachProductsToFarms (fetchAnswer w)
      (withFarms farms (openHome customerLat customerLng)))).sortedDistancesList.map (·.details)

theorem mem_homeList [Zero K] [LE D] {calculateDistance : K → K → K → K → D}
    {sort : ListSort (FarmEntry K D) fun a b => a.distance ≤ b.distance} {farms : FarmDocs K}
    {customerLat customerLng : Option K} {farm : FarmDetails K} :
    farm ∈ homeList table calculateDistance sort farms customerLat customerLng category w ↔
      farm ∈ farms.details ∧
        ∃ product ∈ productDocs w farm.idText, homeCounts table category product := by
  let c : HomeViewController K D := openHome customerLat customerLng
  have loaded := productList_eq (fetchAnswer w) farms c
  have sameType := (fetchAndAttach_frame (fetchAnswer w) (withFarms farms c)).1
  have listed (e : FarmEntry K D) :
      e ∈ (filterFarmersByCategoryAndSortByDistance table calculateDistance sort category
        (fetchAndAttachProductsToFarms (fetchAnswer w) (withFarms farms c))).sortedDistancesList ↔
        _ := mem_sortedDistancesList (fetchAnswer w) farms sort loaded e
  rw [sameType] at listed
  unfold homeList
  rw [List.mem_map, ← offers_iff]
  constructor
  · rintro ⟨e, he, rfl⟩
    obtain ⟨farm, hfarm, hoffers, rfl⟩ := (listed e).1 he
    exact ⟨hfarm, hoffers⟩
  · rintro ⟨hfarm, hoffers⟩
    exact ⟨_, (listed _).2 ⟨farm, hfarm, hoffers, rfl⟩, rfl⟩

theorem exists_swept (ok : ShopAccess → Bool) (farmerId : String) {P : Fields → Prop}
    (hP : ∀ m m' : Fields, (∀ k ∉ "id" :: discountFields, m' k = m k) → (P m' ↔ P m)) :
    (∃ m ∈ fetched (swept ok p d w) farmerId, P m) ↔ ∃ m ∈ fetched w farmerId, P m := by
  have stored (w : ShopWorld) : (∃ m ∈ fetched w farmerId, P m) ↔
      ∃ (id : String) (m : Fields), (w.products farmerId)[id]? = some m ∧ P m := by
    constructor
    · rintro ⟨m, hm, hPm⟩
      obtain ⟨id, m', hm', rfl⟩ := mem_fetched.1 hm
      exact ⟨id, m', hm', (hP m' _ (withId_same id m')).1 hPm⟩
    · rintro ⟨id, m, hm, hPm⟩
      exact ⟨_, mem_fetched.2 ⟨id, m, hm, rfl⟩, (hP m _ (withId_same id m)).2 hPm⟩
  rw [stored, stored]
  refine exists_congr fun id => ?_
  rw [swept_products]
  split
  case isTrue =>
    cases hm : (w.products farmerId)[id]? with
    | none => simp
    | some m => simp [hP m _ (without_same m)]
  case isFalse => rfl

theorem ofCategory_congr {m m' : Fields} (h : ∀ k ∉ "id" :: discountFields, m' k = m k) :
    OfCategory table category m' ↔ OfCategory table category m := by
  have same : m'.get "category" = m.get "category" := Fields.get_congr (h _ (by decide))
  rw [OfCategory, OfCategory, same]

theorem pageCounts_congr {accountType : String} {m m' : Fields}
    (h : ∀ k ∉ "id" :: discountFields, m' k = m k) :
    pageCounts table accountType category m' ↔ pageCounts table accountType category m := by
  rw [pageCounts, pageCounts, ofCategory_congr h, isListed_congr h, passes_congr h]

def farmPage (table : Char → List Char) (p : ℕ) (d : Device) (farmerId : String)
    (w : ShopWorld) : List Fields :=
  ((afterFetch table (fun _ => true) p d (openFarm p farmerId w)).pages p).farmerProducts

theorem exists_farmPage {farmerId : String} {accountType : Option String}
    (hprofile : w.profiles d.logInType d.uid = some accountType) :
    (∃ m ∈ farmPage table p d farmerId w, OfCategory table category m) ↔
      ∃ m ∈ productDocs w farmerId, pageCounts table (accountTypeOf (some accountType)) category m
      := by
  have opened : (openFarm p farmerId w).pages p = { farmerId := farmerId } :=
    Function.update_self ..
  have empty : ((openFarm p farmerId w).pages p).farmerProducts = [] := by rw [opened]
  by_cases hid : farmerId = ""
  · have noFarm : ((openFarm p farmerId w).pages p).farmerId = "" := by rw [opened, hid]
    have shown : farmPage table p d farmerId w = [] := by
      rw [farmPage, afterFetch, (yields_noFarm noFarm).task, empty]
    rw [shown, productDocs, if_pos hid]
    simp
  · have loads : loadsProducts (fun _ => true) p d (openFarm p farmerId w) :=
      ⟨by rwa [opened], rfl, fun _ _ => rfl, rfl⟩
    have read : accountTypeRead (fun _ => true) d (openFarm p farmerId w) =
        accountTypeOf (some accountType) := congrArg accountTypeOf hprofile
    have shown (m : Fields) : m ∈ farmPage table p d farmerId w ∧ OfCategory table category m ↔
        m ∈ fetched (swept (fun _ => true) p d (openFarm p farmerId w)) farmerId ∧
          pageCounts table (accountTypeOf (some accountType)) category m := by
      rw [farmPage, mem_shown_fetched empty loads, opened, read, pageCounts]
      tauto
    rw [exists_congr shown, exists_swept _ _ fun _ _ => pageCounts_congr, productDocs, if_neg hid]
    rfl

/-- The two pages agree on a farm exactly if its products of the category do not keep them
apart: the home page counts one of them and the farm's page another or the same, or neither
counts any. -/
theorem pages_agree_iff [Zero K] [LE D] (calculateDistance : K → K → K → K → D)
    (sort : ListSort (FarmEntry K D) fun a b => a.distance ≤ b.distance) (farms : FarmDocs K)
    (customerLat customerLng : Option K) (farm : FarmDetails K) (hfarm : farm ∈ farms.details)
    {accountType : Option String} (hprofile : w.profiles d.logInType d.uid = some accountType) :
    (farm ∈ homeList table calculateDistance sort farms customerLat customerLng category w ↔
        ∃ m ∈ farmPage table p d farm.idText w, OfCategory table category m) ↔
      (∃ m ∈ productDocs w farm.idText, homeCounts table category m) ∧
          (∃ m ∈ productDocs w farm.idText,
            pageCounts table (accountTypeOf (some accountType)) category m) ∨
        ∀ m ∈ productDocs w farm.idText, ¬ homeCounts table category m ∧
          ¬ pageCounts table (accountTypeOf (some accountType)) category m := by
  rw [mem_homeList, exists_farmPage hprofile, and_iff_right hfarm]
  refine iff_iff_and_or_not_and_not.trans (or_congr Iff.rfl ?_)
  push Not
  exact ⟨fun h m hm => ⟨h.1 m hm, h.2 m hm⟩, fun h => ⟨fun m hm => (h m hm).1,
    fun m hm => (h m hm).2⟩⟩

def melons (visibility : String) : Fields :=
  .ofList [("category", .text "Fruits"), ("visibility", .text visibility)]

def melonFarm (visibility : String) : ShopWorld where
  products := fun farmerId =>
    if farmerId = "farmer" then .ofList [("melons", melons visibility)] else ∅
  profiles := fun _ uid => if uid = "customer" then some (some "Personal account") else none

def melonFarmer : FarmDetails ℕ := { farmerId := some "farmer" }

def melonFarmers : FarmDocs ℕ := ⟨[("farmer", melonFarmer)], by simp [melonFarmer], by simp⟩

def melonCustomer : Device := ⟨⟨"customer", customer_ne_empty⟩, .customer, 0⟩

def noDistance (_ _ _ _ : ℕ) : ℕ := 0

def agreeOn (visibility : String) : Prop :=
  melonFarmer ∈ homeList (fun c => [c]) noDistance (.byKey FarmEntry.distance) melonFarmers none none
      "All Products" (melonFarm visibility) ↔
    ∃ m ∈ farmPage (fun c => [c]) 0 melonCustomer "farmer" (melonFarm visibility),
      OfCategory (fun c => [c]) "All Products" m

theorem melons_on_page {visibility : String}
    (h : (productDocs (melonFarm visibility) "farmer").any (fun m =>
      hasCategory (fun c => [c]) "fruits" m && passes "Individuals" m) = true) :
    ∃ m ∈ productDocs (melonFarm visibility) "farmer",
      pageCounts (fun c => [c]) "Individuals" "All Products" m := by
  obtain ⟨m, hm, hcounts⟩ := List.any_eq_true.1 h
  obtain ⟨hfruits, hpass⟩ := Bool.and_eq_true_iff.1 hcounts
  exact ⟨m, hm, ofCategory_all m, ⟨"fruits", by simp, hfruits⟩, hpass⟩

theorem pages_agree_melons : agreeOn "Both" := by
  refine (pages_agree_iff noDistance (.byKey FarmEntry.distance) melonFarmers none none
    melonFarmer (by simp [melonFarmers, FarmDocs.details]) rfl).2 (.inl ⟨?_, ?_⟩)
  · have forAll : (productDocs (melonFarm "Both") "farmer").any (fun m =>
        m.get "visibility" = .text "Both") = true := by decide +kernel
    obtain ⟨m, hm, hboth⟩ := List.any_eq_true.1 forAll
    exact ⟨m, hm, ofCategory_all m, .inr (of_decide_eq_true hboth)⟩
  · exact melons_on_page (by decide +kernel)

/-- Melons for individuals are shown to a personal account on the farm's page, and the home page
does not list the farm. -/
theorem melons_for_individuals : ¬ agreeOn "Individuals" := by
  intro h
  have shown : ∃ m ∈ farmPage (fun c => [c]) 0 melonCustomer "farmer" (melonFarm "Individuals"),
      OfCategory (fun c => [c]) "All Products" m :=
    (exists_farmPage rfl).2 (melons_on_page (by decide +kernel))
  have unlisted : (productDocs (melonFarm "Individuals") "farmer").all (fun m =>
      m.get "visibility" ≠ .text "" ∧ m.get "visibility" ≠ .text "Both") = true := by
    decide +kernel
  obtain ⟨-, m, hm, -, hvisible⟩ := mem_homeList.1 (h.2 shown)
  obtain ⟨hblank, hboth⟩ := of_decide_eq_true (List.all_eq_true.1 unlisted m hm)
  exact hvisible.elim hblank hboth

end Gherass.Shop
