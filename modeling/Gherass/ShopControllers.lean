import Gherass.EventLoopPrograms
import Gherass.ShopData

set_option autoImplicit false

/-!
# Showing, promoting and editing products

`getFarmerProducts` of `product_contoller.dart`, `promotions_contoller.dart`, and what else
reads or writes a product: orders, edits and the clean-ups.
-/
namespace Gherass.Shop

open EventLoop EventLoop.Async

namespace FirebaseHelper

def query {α : Type} (l : ShopAccess) (f : ShopWorld → α) : ShopProgram α :=
  call l (fun w => (w, .ok (f w))) .firestore

def checkDoc (id : String) : ShopProgram Unit := if id = "" then throw .argument else pure ()

def getCurrentUserInfoById (userId : Uid) (userTypeId : LogInType) :
    ShopProgram (Option (Option String)) := do
  try query (.profile userId) fun w => w.profiles userTypeId userId
  catch _ => pure none

def fetchFarmerProducts (farmerId : String) : ShopProgram (Option (List Fields)) := do
  try
    checkDoc farmerId
    let docs ← query (.fetchProducts farmerId) fun w =>
      (w.products farmerId).toList.map fun doc => doc.2.withId doc.1
    if docs.isEmpty then pure none else pure (some docs)
  catch _ => pure none

def updateProductDoc (farmerId productId : String) (f : Fields → Fields) (w : ShopWorld) :
    ShopWorld × Except DartError Unit :=
  match (w.products farmerId)[productId]? with
  | some m => (w.setProducts farmerId (·.insert productId (f m)), .ok ())
  | none => (w, .error .firestore)

/-- Firestore finds a text less than a text only. -/
def isExpired (formattedDate : String) (m : Fields) : Bool :=
  match m.get "discount_end_date" with
  | .text date => date < formattedDate
  | _ => false

def clearEach (uid : Uid) : List String → ShopProgram Unit
  | [] => pure ()
  | id :: rest => do
    call (.clearDiscount uid id) (updateProductDoc uid id (·.without discountFields)) .firestore
    clearEach uid rest

/-- For the collection `products` and the field `discount_end_date`; it catches nothing. -/
def removeExpiredFields (uid : Uid) (formattedDate : String) : ShopProgram Unit := do
  let docs ← query (.expiredFields uid) fun w =>
    ((w.products uid).toList.filter fun doc => isExpired formattedDate doc.2).map (·.1)
  clearEach uid docs

def deletePromotionDoc (uid docId : String) (w : ShopWorld) : ShopWorld :=
  { w.setPromotionDocs uid (·.filter (·.docId ≠ docId)) with
    deletedIds := docId :: w.deletedIds }

def deleteEach (uid : Uid) : List String → ShopProgram Unit
  | [] => pure ()
  | id :: rest => do
    call .plain (fun w => (deletePromotionDoc uid id w, .ok ())) .firestore
    deleteEach uid rest

/-- For the collection `promotions` and the field `end_date`; it catches nothing. -/
def removeExpiredDoc (uid : Uid) (formattedDate : String) : ShopProgram Unit := do
  let docs ← query .plain fun w =>
    ((w.promotions uid).filter fun q => q.endDate < formattedDate).map (·.docId)
  deleteEach uid docs

def fetchFarmerPromotions (farmerId : Uid) : ShopProgram (Option (List PromotionDoc)) := do
  try
    let docs ← query .plain fun w => w.promotions farmerId
    if docs.isEmpty then pure none else pure (some docs)
  catch _ => pure none

def addPromotionDoc (ids : IdSupply) (uid : String) (promotionData : Promotion) (w : ShopWorld) :
    ShopWorld × Except DartError String :=
  let docId := ids.newId (w.usedIds uid).length (w.usedIds uid)
  (w.setPromotionDocs uid (· ++ [⟨promotionData, docId, none⟩]), .ok docId)

/-- The server's part of `update` on a promotion, which is then the last one written. -/
def updatePromotionDoc (uid docId : String) (f : PromotionDoc → PromotionDoc) (w : ShopWorld) :
    ShopWorld × Except DartError Unit :=
  match (w.promotions uid).find? (·.docId = docId) with
  | some q => (w.setPromotionDocs uid fun docs => docs.filter (·.docId ≠ docId) ++ [f q], .ok ())
  | none => (w, .error .firestore)

def addPromotionsToFarmer (ids : IdSupply) (uid : Uid) (promotionData : Promotion) :
    ShopProgram Unit := do
  try
    let docRef ← call .plain (addPromotionDoc ids uid promotionData) .firestore
    call .plain (updatePromotionDoc uid docRef fun q => { q with id := some docRef }) .firestore
  catch _ => pure ()

def updatePromotions (uid : Uid) (eventId : String) (eventData : Promotion) :
    ShopProgram Unit := do
  try
    checkDoc eventId
    call .plain (updatePromotionDoc uid eventId fun q => { q with toPromotion := eventData })
      .firestore
  catch _ => pure ()

def deletePromotion (uid : Uid) (promotionId : String) : ShopProgram Unit := do
  try
    checkDoc promotionId
    call .plain (fun w => (deletePromotionDoc uid promotionId w, .ok ())) .firestore
  catch _ => pure ()

/-- The same as `updateProductDoc`, with a record of the write. -/
def promoteDoc (uid productId : String) (productData loaded : Fields) (w : ShopWorld) :
    ShopWorld × Except DartError Unit :=
  match (w.products uid)[productId]? with
  | some m =>
    ({ w.setProducts uid (·.insert productId (m.merge productData)) with
      promotionWrites := ⟨loaded, m, m.merge productData⟩ :: w.promotionWrites }, .ok ())
  | none => (w, .error .firestore)

/-- `loaded` is the map as it was loaded, where a promotion writes it. -/
def updateProductToFarmer (uid : Uid) (productId : String) (productData : Fields)
    (loaded : Option Fields) : ShopProgram Unit := do
  try
    checkDoc productId
    match loaded with
    | some loaded =>
      call (.promote uid productId) (promoteDoc uid productId productData loaded) .firestore
    | none => call .plain (updateProductDoc uid productId (·.merge productData)) .firestore
  catch _ => pure ()

/-- `productSnapshot['qty'] ?? 0` -/
def currentQty (productSnapshot : Fields) : ShopProgram ℤ :=
  match productSnapshot "qty" with
  | none => throw .state
  | some .null => pure 0
  | some (.int n) => pure n
  | some _ => throw .type

def updateProductQty (farmerId productId : String) (orderedQty : ℤ) : ShopProgram Unit := do
  try
    checkDoc farmerId
    checkDoc productId
    match ← query .plain fun w => (w.products farmerId)[productId]? with
    | some productSnapshot =>
      let currentQty ← currentQty productSnapshot
      let updatedQty := if currentQty - orderedQty < 0 then 0 else currentQty - orderedQty
      call .plain (updateProductDoc farmerId productId (·.merge (.ofList
        (if updatedQty = 0 then [("qty", .int updatedQty), ("isHidden", .bool true)]
        else [("qty", .int updatedQty)])))) .firestore
    | none => pure ()
  catch _ => pure ()

/-- `id` is the auto id that the new document gets. -/
def addProductToFarmer (uid : Uid) (id : String) (productData : Fields) : ShopProgram Unit := do
  try
    call .plain (fun w =>
      (w.setProducts uid (·.insertIfNew id productData), .ok ())) .firestore
    call .plain (updateProductDoc uid id (·.set "id" (.text id))) .firestore
  catch _ => pure ()

def deleteFarmProduct (uid : Uid) (productId : String) : ShopProgram Unit := do
  try
    checkDoc productId
    call .plain (fun w => (w.setProducts uid (·.erase productId), .ok ())) .firestore
  catch _ => pure ()

end FirebaseHelper

/-- What the account type of a profile is called in the visibility of a product. -/
def accountTypeOf (data : Option (Option String)) : String :=
  match data.join with
  | some "Personal account" => "Individuals"
  | some "Business account" => "Orgnization"
  | accountType => accountType.getD ""

def isVisible (accountType : String) (product : Fields) : Bool :=
  product.get "visibility" = .text accountType ∨ product.get "visibility" = .text "Both" ∨
    accountType = "Both"

def hasCategory (table : Char → List Char) (category : String) (product : Fields) : Bool :=
  (product.get "category").toText?.map (fun c => toLowerCase table (trim c)) = some category

namespace ProductController

variable (table : Char → List Char) (p : ℕ) (d : Device)

def setPage (f : ProductController → ProductController) : ShopProgram Unit :=
  change fun w => w.setPage p f

def getAccountType : ShopProgram Unit := do
  let data ← FirebaseHelper.getCurrentUserInfoById d.uid d.logInType
  setPage p fun c => { c with accountType := accountTypeOf data }

/-- Which of the products that were fetched a page keeps. -/
def passes (accountType : String) (product : Fields) : Bool :=
  if product.get "isHidden" = .bool true then false
  else if product.get "visibility" = .null then false
  else isVisible accountType product

def assignProducts (response : List Fields) (c : ProductController) : ProductController :=
  let filteredResponse := response.filter (passes c.accountType)
  let fruits := filteredResponse.filter (hasCategory table "fruits")
  let vegetables := filteredResponse.filter (hasCategory table "vegetables")
  let others := filteredResponse.filter (hasCategory table "others")
  { c with
    fruits := fruits
    vegetables := vegetables
    others := others
    farmerProducts := fruits ++ vegetables ++ others }

def getFarmerProducts : ShopProgram Unit := do
  try
    let farmerId ← look fun w => (w.pages p).farmerId
    if farmerId = "" then pure ()
    else do
      getAccountType p d
      let date ← look (·.today)
      FirebaseHelper.removeExpiredFields d.uid date
      let farmerId ← look fun w => (w.pages p).farmerId
      match ← FirebaseHelper.fetchFarmerProducts farmerId with
      | some response => setPage p (assignProducts table response)
      | none => pure ()
  catch _ => pure ()

/-- The price that `Add to cart` puts into the cart. -/
def cartPrice (selectedProduct : Fields) : Value :=
  if selectedProduct.get "discount_price" = .null then selectedProduct.get "price"
  else selectedProduct.get "discount_price"

end ProductController

namespace PromotionsController

variable (ids : IdSupply) (d : Device)

def controller : ShopProgram PromotionsController := look fun w => (w.apps d).promotions

def set (f : PromotionsController → PromotionsController) : ShopProgram Unit :=
  change fun w => w.setPromotions d f

def validationError (c : PromotionsController) : Option String :=
  if c.promotionNewPrice = "" then some "Promotion price cannot be empty"
  else if c.startDate = "" then some "Start date is required"
  else if c.endDate = "" then some "End date is required"
  else if c.promotionDescription = "" then some "Description type cannot be empty"
  else if c.promotionProductName = "" then some "Select Product"
  else none

def promotionData (c : PromotionsController) : Promotion where
  product := c.promotionProductName
  description := c.promotionDescription
  newPrice := c.promotionNewPrice
  startDate := c.startDate
  endDate := c.endDate

def withDiscount (c : PromotionsController) (m : Fields) : Fields :=
  (m.set "discount_price" (.text c.promotionNewPrice)).set "discount_end_date" (.text c.endDate)

def getPromotionsList : ShopProgram Unit := do
  try
    let date ← look (·.today)
    FirebaseHelper.removeExpiredDoc d.uid date
    match ← FirebaseHelper.fetchFarmerPromotions d.uid with
    | some response => set d fun c => { c with promotionsList := response }
    | none => pure ()
  catch _ => pure ()

def emptyForm (c : PromotionsController) : PromotionsController :=
  { c with
    promotionNewPrice := ""
    startDate := ""
    promotionDescription := ""
    endDate := ""
    promotionProductName := "" }

/-- What `createPromotion` and `updatePromotions` do once the promotion is written. The
    selected product is read only then. -/
def writeSelected : ShopProgram Unit := do
  let c ← controller d
  let selected ← look fun w => (w.map? d c.selectedProduct).getD {}
  FirebaseHelper.updateProductToFarmer d.uid c.selectedProductId selected.fields
    (some selected.loaded)
  spawn (getPromotionsList d)
  set d emptyForm

def createPromotion : ShopProgram Unit := do
  let c ← controller d
  match validationError c with
  | some _ => pure ()
  | none =>
    change fun w => w.setMap d c.selectedProduct (withDiscount c)
    try
      FirebaseHelper.addPromotionsToFarmer ids d.uid (promotionData c)
      writeSelected d
    catch _ => pure ()

def updatePromotions : ShopProgram Unit := do
  let c ← controller d
  match validationError c with
  | some _ => pure ()
  | none =>
    change fun w => w.setMap d c.selectedProduct (withDiscount c)
    try
      FirebaseHelper.updatePromotions d.uid c.promotionId (promotionData c)
      writeSelected d
    catch _ => pure ()

def deletePromotion : ShopProgram Unit := do
  try
    let c ← controller d
    FirebaseHelper.deletePromotion d.uid c.promotionId
    set d fun c =>
      { c with promotionsList := c.promotionsList.filter (·.id ≠ some c.promotionId) }
    spawn (getPromotionsList d)
  catch _ => pure ()

def updateFields (arguments : PromotionDoc) (c : PromotionsController) : PromotionsController :=
  { c with
    promotionId := arguments.id.getD "null"
    promotionProductName := arguments.product
    startDate := arguments.startDate
    endDate := arguments.endDate
    promotionDescription := arguments.description
    promotionNewPrice := arguments.newPrice }

def clearForm (c : PromotionsController) : PromotionsController :=
  { c with
    promotionNewPrice := ""
    startDate := ""
    promotionDescription := ""
    promotionProductName := "" }

end PromotionsController

namespace InventoryController

variable (d : Device)

/-- `farmerProducts.assignAll`: new maps in the list -/
def assignProducts (response : List Fields) (a : FarmerApp) : FarmerApp :=
  { a with
    maps := a.maps ++ response.map fun m => ⟨m, m⟩
    farmerProducts := (List.range response.length).map (a.maps.length + ·) }

def getInventoryProducts : ShopProgram Unit := do
  try
    match ← FirebaseHelper.fetchFarmerProducts d.uid with
    | some response => change fun w => w.setApp d (assignProducts response)
    | none => pure ()
  catch _ => pure ()

/-- The product at an index of the list: the number of its map, its id and its name. -/
def item? (a : FarmerApp) (index : ℕ) : Option (ℕ × String × String) := do
  let ref ← a.farmerProducts[index]?
  let m ← a.maps[ref]?
  match m.fields.get "id", m.fields.get "name" with
  | .text id, .text name => some (ref, id, name)
  | _, _ => none

def buildItem (index : ℕ) (a : FarmerApp) : FarmerApp :=
  match item? a index with
  | some (ref, id, name) =>
    if a.promotions.promotionProductName = name then
      { a with
        promotions := { a.promotions with selectedProductId := id, selectedProduct := ref } }
    else a
  | none => a

def selectItem (index : ℕ) (a : FarmerApp) : FarmerApp :=
  match item? a index with
  | some (ref, id, name) =>
    { a with
      promotions := { a.promotions with
        selectedProductId := id, selectedProduct := ref, promotionProductName := name } }
  | none => a

end InventoryController

structure ProductForm where
  productId : String
  productName : String
  productNameTranslated : String
  base64ProdImage : String
  selectedCategory : String
  productType : String
  productDescription : String
  productVisibility : String
  productPrice : ℤ
  productQty : ℤ
  productQuality : String
  productionDate : String

namespace AddProdController

variable (d : Device) (form : ProductForm)

def validationError : Option String :=
  if form.productName = "" then some "Product name cannot be empty"
  else if form.base64ProdImage = "" then some "Product image is required"
  else if form.productDescription = "" then some "Product description cannot be empty"
  else if form.productPrice ≤ 0 then some "Price must be greater than zero"
  else if form.productQty ≤ 0 then some "Quantity must be greater than zero"
  else if form.productQuality = "" then some "Product quality cannot be empty"
  else none

def productData : List (String × Value) :=
  [("name", .text form.productName), ("translatedName", .text form.productNameTranslated),
    ("image", .text form.base64ProdImage), ("category", .text form.selectedCategory),
    ("prodType", .text form.productType), ("description", .text form.productDescription),
    ("visibility", .text form.productVisibility), ("price", .int form.productPrice),
    ("qty", .int form.productQty), ("quality", .text form.productQuality),
    ("productionDate", .text form.productionDate)]

def postProducts (id : String) : ShopProgram Unit := do
  call .plain (fun w => (w, .ok ())) .state
  match validationError form with
  | some _ => pure ()
  | none => FirebaseHelper.addProductToFarmer d.uid id (.ofList (productData form))

def updateProduct : ShopProgram Unit := do
  call .plain (fun w => (w, .ok ())) .state
  match validationError form with
  | some _ => pure ()
  | none =>
    FirebaseHelper.updateProductToFarmer d.uid form.productId
      (.ofList (productData form ++ [("isHidden", .bool (if form.productQty < 0 then false
        else true))])) none

end AddProdController

inductive ShopEvent where
  | openFarm (p : ℕ) (d : Device) (farmerId : String)
  | getInventoryProducts (d : Device)
  | buildItem (d : Device) (index : ℕ)
  | selectItem (d : Device) (index : ℕ)
  | getPromotionsList (d : Device)
  | newPromotion (d : Device)
  | openPromotion (d : Device) (index : ℕ)
  | fillForm (d : Device) (startDate endDate promotionDescription promotionNewPrice : String)
  | createPromotion (d : Device)
  | updatePromotions (d : Device)
  | deletePromotion (d : Device)
  | order (farmerId productId : String) (orderedQty : ℤ)
  | postProducts (d : Device) (form : ProductForm) (id : String)
  | updateProduct (d : Device) (form : ProductForm)
  | deleteProduct (d : Device) (productId : String)
  | nextDay (now : DateTime)

def shopProgram (table : Char → List Char) (ids : IdSupply) : ShopEvent → ShopProgram Unit
  | .openFarm p d farmerId => do
    change fun w => { w with pages := Function.update w.pages p { farmerId := farmerId } }
    ProductController.getFarmerProducts table p d
  | .getInventoryProducts d => InventoryController.getInventoryProducts d
  | .buildItem d index => change fun w => w.setApp d (InventoryController.buildItem index)
  | .selectItem d index => change fun w => w.setApp d (InventoryController.selectItem index)
  | .getPromotionsList d => PromotionsController.getPromotionsList d
  | .newPromotion d => PromotionsController.set d PromotionsController.clearForm
  | .openPromotion d index => PromotionsController.set d fun c =>
    match c.promotionsList[index]? with
    | some promotion => PromotionsController.updateFields promotion c
    | none => c
  | .fillForm d startDate endDate promotionDescription promotionNewPrice =>
    PromotionsController.set d fun c =>
      { c with
        startDate := startDate
        endDate := endDate
        promotionDescription := promotionDescription
        promotionNewPrice := promotionNewPrice }
  | .createPromotion d => PromotionsController.createPromotion ids d
  | .updatePromotions d => PromotionsController.updatePromotions d
  | .deletePromotion d => PromotionsController.deletePromotion d
  | .order farmerId productId orderedQty =>
    FirebaseHelper.updateProductQty farmerId productId orderedQty
  | .postProducts d form id => AddProdController.postProducts d form id
  | .updateProduct d form => AddProdController.updateProduct d form
  | .deleteProduct d productId => FirebaseHelper.deleteFarmProduct d.uid productId
  | .nextDay now => change fun w => { w with now := now }

def shopHandler (table : Char → List Char) (ids : IdSupply) (e : ShopEvent) :
    Task ShopWorld ShopAccess Bool := (shopProgram table ids e).task

end Gherass.Shop
