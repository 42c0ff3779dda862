import Gherass.LineBounds

set_option autoImplicit false

/-!
# The quantity on the product page

The buttons of `productDetailsNavBar`. One counter serves every product that is selected.
-/
namespace Gherass

/-- The map `selectedProduct`: of a product, of a farm, or empty. A product is added with a stock
above 0, and an order leaves 0 at the least. -/
structure SelectedProduct where
  id : Option String := none
  name : Option String := none
  image : Option String := none
  /-- `double.parse(price.toString())`, unless it throws -/
  price : Option ℚ := none
  /-- the same for `discount_price`, if there is one -/
  discountPrice : Option (Option ℚ) := none
  qty : Option ℕ := none
  /-- `farmDetails["farmerId"]` -/
  farmDetails : Option String := none
  deriving DecidableEq

structure ProductPage where
  farmerId : String := ""
  farmerName : String := ""
  productQuantity : ℤ := 0
  selectedProduct : SelectedProduct := {}
  deriving DecidableEq

inductive Tap where
  | minus
  | plus
  | addToCart
  | select (product : SelectedProduct)
  | okay
  deriving DecidableEq

def SelectedProduct.owner (farmerId : String) (product : SelectedProduct) : Option String :=
  if farmerId = "" then product.farmDetails else some farmerId

def SelectedProduct.toProduct (farmerId farmerName : String) (qty : ℤ)
    (product : SelectedProduct) : Option Product := do
  let name ← product.name
  let price ← product.discountPrice.getD product.price
  let image ← product.image
  let prodId ← product.id
  let owner ← product.owner farmerId
  let totalQty ← product.qty
  pure {
    name := name, price := price, image := image, qty := qty, prodId := prodId
    farmerId := owner, farmerName := farmerName, totalQty := totalQty }

namespace ProductPage

/-- `onInit` -/
def opened (farmerId farmerName : String) (product : SelectedProduct) : ProductPage where
  farmerId := farmerId
  farmerName := farmerName
  selectedProduct := product

def minus (page : ProductPage) : ProductPage :=
  if page.productQuantity > 0 then { page with productQuantity := page.productQuantity - 1 }
  else page

def plus (page : ProductPage) : ProductPage :=
  match page.selectedProduct.qty with
  | none => page
  | some availableQty =>
    if page.productQuantity + 1 > availableQty then page
    else { page with productQuantity := page.productQuantity + 1 }

def corrected (productQuantity : ℤ) (stock : ℕ) : ℤ :=
  let capped := if productQuantity + 1 > stock then (stock : ℤ) else productQuantity
  if capped = 0 then capped + 1 else capped

/-- The Add to Cart button, with what it hands to `addToCart`. -/
def addToCart (page : ProductPage) : ProductPage × Option Product :=
  match page.selectedProduct.name, page.selectedProduct.qty with
  | some _, some stock =>
    let productQuantity := corrected page.productQuantity stock
    ({ page with productQuantity := productQuantity },
      page.selectedProduct.toProduct page.farmerId page.farmerName
        (if productQuantity = 0 then 1 else productQuantity))
  | _, _ => (page, none)

def tap (page : ProductPage) : Tap → ProductPage × Option Product
  | .minus => (page.minus, none)
  | .plus => (page.plus, none)
  | .addToCart => page.addToCart
  | .select product => ({ page with selectedProduct := product }, none)
  | .okay => ({ page with productQuantity := 0 }, none)

/-- What a sequence of taps hands to `addToCart`, each with the stock of the product selected
then. -/
def handed (page : ProductPage) : List Tap → List (Option ℕ × Product)
  | [] => []
  | t :: taps =>
    (page.tap t).2.toList.map (fun product => (page.selectedProduct.qty, product)) ++
      (page.tap t).1.handed taps

/-- Only what there is: at least one, and no more than the stock. -/
def OnlyAvailable (page : ProductPage) (taps : List Tap) : Prop :=
  ∀ x ∈ page.handed taps, 1 ≤ x.2.qty ∧ ∃ stock ∈ x.1, x.2.qty ≤ (stock : ℤ)

def CanBeHanded (farmerId : String) (product : SelectedProduct) : Prop :=
  (product.toProduct farmerId "" 1).isSome

def AddsInStock (farmerId : String) : SelectedProduct → List Tap → Prop
  | _, [] => True
  | product, .addToCart :: taps =>
    (CanBeHanded farmerId product → product.qty ≠ some 0) ∧ AddsInStock farmerId product taps
  | _, .select product :: taps => AddsInStock farmerId product taps
  | product, .minus :: taps => AddsInStock farmerId product taps
  | product, .plus :: taps => AddsInStock farmerId product taps
  | product, .okay :: taps => AddsInStock farmerId product taps

variable {page : ProductPage}

theorem corrected_pos {productQuantity : ℤ} (h : 0 ≤ productQuantity) (stock : ℕ) :
    1 ≤ corrected productQuantity stock := by
  unfold corrected
  dsimp only
  split_ifs <;> omega

theorem corrected_le_iff {productQuantity : ℤ} (h : 0 ≤ productQuantity) (stock : ℕ) :
    corrected productQuantity stock ≤ stock ↔ stock ≠ 0 := by
  unfold corrected
  dsimp only
  split_ifs <;> omega

theorem toProduct_qty {farmerId farmerName : String} {qty : ℤ} {product : SelectedProduct}
    {p : Product} (h : product.toProduct farmerId farmerName qty = some p) : p.qty = qty := by
  simp only [SelectedProduct.toProduct, Option.bind_eq_bind, Option.bind_eq_some_iff,
    Option.pure_def] at h
  obtain ⟨_, -, _, -, _, -, _, -, _, -, _, -, h⟩ := h
  cases h
  rfl

theorem canBeHanded_iff {farmerId : String} (farmerName : String) (qty : ℤ)
    {product : SelectedProduct} :
    CanBeHanded farmerId product ↔ (product.toProduct farmerId farmerName qty).isSome := by
  simp [CanBeHanded, SelectedProduct.toProduct, Option.isSome_bind]

theorem CanBeHanded.read {farmerId : String} {product : SelectedProduct}
    (h : CanBeHanded farmerId product) :
    (∃ name, product.name = some name) ∧ ∃ stock, product.qty = some stock := by
  obtain ⟨p, hp⟩ := Option.isSome_iff_exists.1 h
  simp only [SelectedProduct.toProduct, Option.bind_eq_bind, Option.bind_eq_some_iff] at hp
  obtain ⟨name, hname, -, -, -, -, -, -, -, -, stock, hstock, -⟩ := hp
  exact ⟨⟨name, hname⟩, stock, hstock⟩

theorem addToCart_handed (page : ProductPage) (hnonneg : 0 ≤ page.productQuantity) :
    (∀ p ∈ page.addToCart.2, CanBeHanded page.farmerId page.selectedProduct ∧
      ∃ stock, page.selectedProduct.qty = some stock ∧
        p.qty = corrected page.productQuantity stock) ∧
    (CanBeHanded page.farmerId page.selectedProduct → page.addToCart.2.isSome) := by
  unfold addToCart
  split
  case h_1 name stock hname hstock =>
    have positive := corrected_pos hnonneg stock
    have nonzero : corrected page.productQuantity stock ≠ 0 := by omega
    dsimp only
    rw [if_neg nonzero]
    refine ⟨fun p hp => ⟨?_, stock, hstock, toProduct_qty hp⟩, (canBeHanded_iff _ _).1⟩
    exact (canBeHanded_iff _ _).2 (Option.isSome_of_mem hp)
  case h_2 hmissing =>
    refine ⟨fun p hp => (nomatch hp), fun h => ?_⟩
    obtain ⟨⟨name, hname⟩, stock, hstock⟩ := h.read
    exact absurd hstock (hmissing name stock hname)

theorem tap_nonneg (h : 0 ≤ page.productQuantity) (t : Tap) :
    0 ≤ (page.tap t).1.productQuantity := by
  cases t with
  | minus =>
    change 0 ≤ page.minus.productQuantity
    unfold minus
    split
    case isTrue hpos => exact Int.sub_nonneg_of_le hpos
    case isFalse => exact h
  | plus =>
    change 0 ≤ page.plus.productQuantity
    unfold plus
    split
    · exact h
    · split
      · exact h
      · exact Int.add_nonneg h (by decide)
  | addToCart =>
    change 0 ≤ page.addToCart.1.productQuantity
    unfold addToCart
    split
    case h_1 stock _ _ => exact (Int.zero_le_ofNat 1).trans (corrected_pos h stock)
    case h_2 => exact h
  | select product => exact h
  | okay => exact le_refl 0

theorem tap_farmerId (t : Tap) : (page.tap t).1.farmerId = page.farmerId := by
  cases t with
  | minus =>
    change page.minus.farmerId = _
    unfold minus
    split <;> rfl
  | plus =>
    change page.plus.farmerId = _
    unfold plus
    split
    · rfl
    · split <;> rfl
  | addToCart =>
    change page.addToCart.1.farmerId = _
    unfold addToCart
    split <;> rfl
  | select product => rfl
  | okay => rfl

theorem tap_selectedProduct (t : Tap) (h : ∀ product, t ≠ .select product) :
    (page.tap t).1.selectedProduct = page.selectedProduct := by
  cases t with
  | minus =>
    change page.minus.selectedProduct = _
    unfold minus
    split <;> rfl
  | plus =>
    change page.plus.selectedProduct = _
    unfold plus
    split
    · rfl
    · split <;> rfl
  | addToCart =>
    change page.addToCart.1.selectedProduct = _
    unfold addToCart
    split <;> rfl
  | select product => exact absurd rfl (h product)
  | okay => rfl

theorem addToCart_available (hnonneg : 0 ≤ page.productQuantity) :
    (∀ p ∈ page.addToCart.2, 1 ≤ p.qty ∧ ∃ stock ∈ page.selectedProduct.qty, p.qty ≤ (stock : ℤ)) ↔
      (CanBeHanded page.farmerId page.selectedProduct → page.selectedProduct.qty ≠ some 0) := by
  obtain ⟨hhanded, hsome⟩ := page.addToCart_handed hnonneg
  constructor
  · intro h hcan hzero
    obtain ⟨p, hp⟩ := Option.isSome_iff_exists.1 (hsome hcan)
    obtain ⟨-, stock, hstock, hqty⟩ := hhanded p hp
    obtain ⟨-, stock', hstock', hle⟩ := h p hp
    obtain rfl := Option.some_inj.1 (hstock.symm.trans hstock')
    rw [hqty, corrected_le_iff hnonneg] at hle
    exact hle (Option.some_inj.1 (hstock.symm.trans hzero))
  · intro h p hp
    obtain ⟨hcan, stock, hstock, hqty⟩ := hhanded p hp
    have instock : stock ≠ 0 := by
      rintro rfl
      exact h hcan hstock
    rw [hqty]
    exact ⟨corrected_pos hnonneg stock, stock, hstock, (corrected_le_iff hnonneg stock).2 instock⟩

theorem onlyAvailable_cons (t : Tap) (taps : List Tap) :
    page.OnlyAvailable (t :: taps) ↔
      (∀ p ∈ (page.tap t).2,
        1 ≤ p.qty ∧ ∃ stock ∈ page.selectedProduct.qty, p.qty ≤ (stock : ℤ)) ∧
      (page.tap t).1.OnlyAvailable taps := by
  constructor
  · intro h
    refine ⟨fun p hp => h (_, p) ?_, fun x hx => h x (List.mem_append_right _ hx)⟩
    exact List.mem_append_left _ (List.mem_map.2 ⟨p, Option.mem_toList.2 hp, rfl⟩)
  · rintro ⟨hfirst, hrest⟩ x hx
    rcases List.mem_append.1 hx with hx | hx
    · obtain ⟨p, hp, rfl⟩ := List.mem_map.1 hx
      exact hfirst p (Option.mem_toList.1 hp)
    · exact hrest x hx

theorem onlyAvailable_iff (taps : List Tap) (hnonneg : 0 ≤ page.productQuantity) :
    page.OnlyAvailable taps ↔ AddsInStock page.farmerId page.selectedProduct taps := by
  induction taps generalizing page with
  | nil => exact ⟨fun _ => trivial, fun _ x hx => by cases hx⟩
  | cons t taps ih =>
    rw [onlyAvailable_cons, ih (tap_nonneg hnonneg t), tap_farmerId]
    cases t with
    | addToCart =>
      rw [tap_selectedProduct .addToCart (fun _ h => by cases h)]
      exact and_congr_left fun _ => addToCart_available hnonneg
    | minus | plus | okay =>
      rw [tap_selectedProduct _ (fun _ h => by cases h)]
      exact and_iff_right fun p hp => by cases hp
    | select product => exact and_iff_right fun p hp => by cases hp

end ProductPage

open ProductPage

/-- Whatever is tapped, and whichever products are selected: only available quantities reach the
cart exactly if Add to Cart is never tapped on a product that is out of stock. -/
theorem only_available_added (farmerId farmerName : String) (product : SelectedProduct)
    (taps : List Tap) : (opened farmerId farmerName product).OnlyAvailable taps ↔
      AddsInStock farmerId product taps :=
  onlyAvailable_iff taps (le_refl 0)

def soldOutHoney : SelectedProduct where
  id := some "honey"
  name := some "Honey"
  image := some "jar"
  price := some 20
  qty := some 0

/-- One of nothing is added: the counter is first set to the stock, and then from 0 to 1. -/
theorem sold_out_added : ¬ ∀ (farmerId farmerName : String) (product : SelectedProduct)
    (taps : List Tap), (opened farmerId farmerName product).OnlyAvailable taps := by
  intro h
  have listed : (some 0, { farmerId := "farmer", farmerName := "Farm", prodId := "honey"
                           name := "Honey", price := 20, image := "jar", qty := 1 }) ∈
      (opened "farmer" "Farm" soldOutHoney).handed [.addToCart] := by decide +kernel
  obtain ⟨-, stock, hstock, hle⟩ := h _ _ _ _ _ listed
  obtain rfl := Option.some_inj.1 hstock
  exact absurd hle (by decide)

end Gherass
