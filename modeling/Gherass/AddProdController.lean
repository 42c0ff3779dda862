import Gherass.FirebaseHelper

set_option autoImplicit false

namespace Gherass

/-- The edit form of a product, as far as it is checked or reaches the stock. -/
structure ProductForm where
  productId : String
  productName : String
  base64ProdImage : String
  productDescription : String
  productPrice : ℚ
  productQty : ℤ
  productQuality : String

namespace AddProdController

open EventLoop.Async

def validationError (form : ProductForm) : Option String :=
  if form.productName = "" then some "Product name cannot be empty"
  else if form.base64ProdImage = "" then some "Product image is required"
  else if form.productDescription = "" then some "Product description cannot be empty"
  else if form.productPrice ≤ 0 then some "Price must be greater than zero"
  else if form.productQty ≤ 0 then some "Quantity must be greater than zero"
  else if form.productQuality = "" then some "Product quality cannot be empty"
  else none

theorem validationError_qty {form : ProductForm} (h : validationError form = none) :
    0 < form.productQty := by
  unfold validationError at h
  grind

def postProducts (d : Device) (form : ProductForm) (id : String) : Program Unit := do
  call .plain (fun w => (w, .ok ())) .state
  match validationError form with
  | some _ => pure ()
  | none => FirebaseHelper.addProductToFarmer d.uid id form.productQty

def updateProduct (d : Device) (form : ProductForm) : Program Unit := do
  call .plain (fun w => (w, .ok ())) .state
  match validationError form with
  | some _ => pure ()
  | none =>
    FirebaseHelper.updateProductToFarmer d.uid form.productId form.productQty
      (if form.productQty < 0 then false else true)

/-- `InventoryController.deleteProduct`, which this one calls -/
def deleteProduct (d : Device) (productId : String) : Program Unit :=
  FirebaseHelper.deleteFarmProduct d.uid productId

end AddProdController

end Gherass
