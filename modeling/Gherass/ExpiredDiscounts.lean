import Gherass.FarmPage

set_option autoImplicit false

/-!
# Discounts that have ended

The clean-up before a farm's page is filled takes ended discounts from the products of
whoever is signed in, not from those of the farm.
-/
namespace Gherass.Shop

open EventLoop EventLoop.Async Gherass.Shop.FirebaseHelper Gherass.Shop.ProductController

def carriesDiscount (product : Fields) : Prop := product.get "discount_price" ≠ .null

/-- The product has an end date of its discount that is not before `date`. -/
def runsOn (date : String) (product : Fields) : Prop :=
  ∃ ends, product.get "discount_end_date" = .text ends ∧ date ≤ ends

def discountRight (date : String) (product : Fields) : Prop :=
  (carriesDiscount product → runsOn date product) ∧
    (isExpired date product = true → cartPrice product = product.get "price")

/-- No product on the page has a discount that has ended. -/
def discountsRight (table : Char → List Char) (ok : ShopAccess → Bool) (p : ℕ) (d : Device)
    (w : ShopWorld) : Prop :=
  ∀ m ∈ ((afterFetch table ok p d w).pages p).farmerProducts, discountRight w.today m

theorem discount_withId (id : String) (m : Fields) (k : String) (hk : k ≠ "id") :
    (m.withId id).get k = m.get k := Fields.get_congr (Fields.withId_of_ne hk)

theorem discountRight_withId {date id : String} {m : Fields} :
    discountRight date (m.withId id) ↔ discountRight date m := by
  simp only [discountRight, carriesDiscount, runsOn, isExpired, cartPrice,
    discount_withId id m _ (show "discount_price" ≠ "id" by decide),
    discount_withId id m _ (show "discount_end_date" ≠ "id" by decide),
    discount_withId id m _ (show "price" ≠ "id" by decide)]

theorem discountRight_iff {date : String} {m : Fields} :
    discountRight date m ↔ (carriesDiscount m → runsOn date m) := by
  refine ⟨fun h => h.1, fun h => ⟨h, fun hended => ?_⟩⟩
  have bare : m.get "discount_price" = .null := by
    by_contra hcarries
    obtain ⟨ends, hends, hle⟩ := h hcarries
    simp only [isExpired, hends, decide_eq_true_eq] at hended
    exact absurd hle (not_le_of_gt hended)
  rw [cartPrice, if_pos bare]

/-- A farm's page shows no ended discount exactly if it shows nothing, or if every product that
    it keeps and that carries a discount has an end date to come, or has ended and is the
    user's own. -/
theorem discounts_right_iff (table : Char → List Char) (ok : ShopAccess → Bool) (p : ℕ)
    (d : Device) (w : ShopWorld) (hopen : (w.pages p).farmerProducts = []) :
    discountsRight table ok p d w ↔
      (loadsProducts ok p d w → ∀ (id : String) (m : Fields),
        (w.products (w.pages p).farmerId)[id]? = some m →
        passes (accountTypeRead ok d w) m = true → isListed table m → carriesDiscount m →
          runsOn w.today m ∨ (w.pages p).farmerId = d.uid ∧ isExpired w.today m = true) := by
  constructor
  · intro h hl id m hm hpass hlist hcarries
    by_cases hown : (w.pages p).farmerId = d.uid ∧ isExpired w.today m = true
    · exact .inr hown
    · have kept : ((swept ok p d w).products (w.pages p).farmerId)[id]? = some m := by
        rw [swept_products, if_neg, hm]
        rintro ⟨howner, hid⟩
        obtain ⟨m', hm', hended⟩ := mem_expiredDocs.1 hid
        rw [← howner, hm] at hm'
        cases hm'
        exact hown ⟨howner, hended⟩
      have right := h _ ((mem_shown hopen hl).2 ⟨id, m, kept, rfl, hpass, hlist⟩)
      exact .inl ((discountRight_withId.1 right).1 hcarries)
  · intro h m hm
    by_cases hl : loadsProducts ok p d w
    · obtain ⟨id, m', hm', rfl, hpass, hlist⟩ := (mem_shown hopen hl).1 hm
      rw [discountRight_withId, discountRight_iff]
      intro hcarries
      rw [swept_products] at hm'
      split at hm'
      case isTrue =>
        obtain ⟨m₀, -, rfl⟩ := Option.map_eq_some_iff.1 hm'
        exact absurd rfl hcarries
      case isFalse hkept =>
        rcases h hl id m' hm' hpass hlist hcarries with hruns | ⟨howner, hended⟩
        · exact hruns
        · exact absurd ⟨howner, mem_expiredDocs.2 ⟨m', howner ▸ hm', hended⟩⟩ hkept
    · rw [shown_not_loaded hl, hopen] at hm
      cases hm

/-- Figs of a farm, at half the price until yesterday. -/
def figs : Fields :=
  .ofList [("name", .text "Figs"), ("category", .text "Fruits"), ("visibility", .text "Both"),
    ("price", .int 8), ("discount_price", .text "4"), ("discount_end_date", .text "2024-12-31")]

def figFarm : ShopWorld where
  products := fun farmerId => if farmerId = "farmer" then .ofList [("figs", figs)] else ∅
  pages := fun _ => { farmerId := "farmer" }

def aFarmer : Device := ⟨⟨"farmer", farmer_ne_empty⟩, .farmer, 0⟩

def aCustomer : Device := ⟨⟨"customer", customer_ne_empty⟩, .customer, 0⟩

theorem discounts_right_figs :
    discountsRight (fun c => [c]) (fun _ => true) 0 aFarmer figFarm := by
  refine (discounts_right_iff (fun c => [c]) (fun _ => true) 0 aFarmer figFarm rfl).2 ?_
  intro _ id m hm _ _ _
  have hfigs : ∀ doc ∈ (figFarm.products "farmer").toList,
      isExpired figFarm.today doc.2 = true := by decide +kernel
  exact .inr ⟨rfl, hfigs (id, m) (Std.TreeMap.mem_toList_iff_getElem?_eq_some.2 hm)⟩

/-- A customer looks at it, and may buy at the price of last year. -/
theorem figs_at_ended_price : ¬ ∀ (table : Char → List Char) (p : ℕ) (d : Device) (w : ShopWorld),
    (w.pages p).farmerProducts = [] → discountsRight table (fun _ => true) p d w := by
  intro h
  have right := h (fun c => [c]) 0 aCustomer figFarm rfl
  have shown : (((afterFetch (fun c => [c]) (fun _ => true) 0 aCustomer figFarm).pages
      0).farmerProducts).any (fun m => isExpired figFarm.today m ∧
        cartPrice m ≠ m.get "price") = true := by decide +kernel
  obtain ⟨m, hm, hwrong⟩ := List.any_eq_true.1 shown
  obtain ⟨hended, hprice⟩ := of_decide_eq_true hwrong
  exact hprice ((right m hm).2 hended)

end Gherass.Shop
