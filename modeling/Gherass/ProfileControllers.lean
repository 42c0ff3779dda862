import Gherass.ProfileData

set_option autoImplicit false

/-!
# The pages that read and write profiles and addresses

`EditProfileController`, `DeliveryAddressController` and, as far as it loads the address that an
order goes to, `MyCartController`.
-/
namespace Gherass.Profiles

open EventLoop EventLoop.Async FieldMaps Gherass.Account

variable (ids : IdSupply) (geocode : ℚ × ℚ → Option (List Placemark)) (d : Device)

/-- `v ?? ""`, where a string is expected -/
def textOr : ProfileValue → ProfileProgram String
  | .value .null => pure ""
  | .value (.text s) => pure s
  | _ => throw (.dart .type)

def asText : ProfileValue → ProfileProgram String
  | .value (.text s) => pure s
  | _ => throw (.dart .type)

namespace EditProfileController

def page : ProfileProgram EditProfileController := look (·.editPages d)

def setPage (f : EditProfileController → EditProfileController) : ProfileProgram Unit :=
  change (·.setEditPage d f)

/-- A field of the form gets `results?[k] ?? ""`. -/
def load (results : Option Profile) (k : String)
    (put : String → EditProfileController → EditProfileController) : ProfileProgram Unit := do
  let text ← textOr ((results.map (·.get k)).getD (.value .null))
  setPage d (put text)

def getData : ProfileProgram Unit := do
  let results ← FirebaseHelper.getCurrentUserInfoById d.uid d.logInType
  load d results "username" fun s c => { c with userName := s }
  load d results "email" fun s c => { c with emailTextfield := s }
  load d results "phoneNumber" fun s c => { c with phoneNumberTextfield := s }
  load d results "farmLocation" fun s c => { c with farmLocationTextfield := s }
  load d results "farmDescription" fun s c => { c with farmDescriptionTextfield := s }
  load d results "farmName" fun s c => { c with farmNameTextfield := s }
  load d results "username" fun s c => { c with nameTextfield := s }
  load d results "workingHour" fun s c => { c with workingHoursTextfield := s }
  load d results "location" fun s c => { c with locationTextfield := s }
  load d results "farm_logo" fun s c => { c with farmLogo := s }

def addressData : AddressMap :=
  ofList [("address", .text ""), ("address_type", .text "Home"), ("address_title", .text ""),
    ("street", .text ""), ("neighborhood", .text ""), ("houseNumber", .text ""),
    ("lng", .number 0), ("lat", .number 0), ("description", .text "")]

def coordinate (x : Option ℚ) : ProfileValue := .value ((x.map .number).getD .null)

def profileData (logInType : LogInType) (c : EditProfileController) :
    List (String × ProfileValue) :=
  match logInType with
  | .farmer =>
    [("username", .value (.text c.nameTextfield)), ("email", .value (.text c.emailTextfield)),
      ("phoneNumber", .value (.text c.phoneNumberTextfield)),
      ("farmName", .value (.text c.farmNameTextfield)),
      ("farmLocation", .value (.text c.farmLocationTextfield)),
      ("farmDescription", .value (.text c.farmDescriptionTextfield)),
      ("workingHour", .value (.text c.workingHoursTextfield)),
      ("userType", .value (.text (roleText logInType))),
      ("farm_logo", .value (.text c.base64Image)),
      ("lat", coordinate (c.selectedLatLng.map (·.1))),
      ("lng", coordinate (c.selectedLatLng.map (·.2)))]
  | .customer =>
    [("username", .value (.text c.nameTextfield)), ("email", .value (.text c.emailTextfield)),
      ("phoneNumber", .value (.text c.phoneNumberTextfield)),
      ("current_address", .address addressData),
      ("accountType", .value (.text (roleText logInType))),
      ("userType", .value (.text (roleText logInType)))]
  | .driver =>
    [("email", .value (.text c.emailTextfield)),
      ("phoneNumber", .value (.text c.phoneNumberTextfield))]

def updateProfile : ProfileProgram Unit := do
  let c ← page d
  spawn (FirebaseHelper.updateUserData (ofList (profileData d.logInType c)) d.logInType d.uid)
  spawn (do
    let _ ← FirebaseHelper.addAddressForCustomer ids d.uid addressData
    pure ())

end EditProfileController

/-- `v ?? 0.0`, where a number is expected -/
def numberOr : Value → ProfileProgram ℚ
  | .null => pure 0
  | .number x => pure x
  | _ => throw (.dart .type)

namespace DeliveryAddressController

def page : ProfileProgram DeliveryAddressController := look (·.addressPages d)

def setPage (f : DeliveryAddressController → DeliveryAddressController) : ProfileProgram Unit :=
  change (·.setAddressPage d f)

def snackbar (title text : String) : ProfileProgram Unit := change (·.showSnackbar d title text)

def getAddressList : ProfileProgram Unit := do
  try
    match ← FirebaseHelper.fetchAddressList d.uid with
    | some response => setPage d fun c => { c with addressList := response }
    | none => pure ()
  catch _ => pure ()

def describe (place : Placemark) : String :=
  s!"{place.locality}, {place.subLocality}, {place.postalCode}, {place.administrativeArea}, " ++
    place.country

def getAddressFromLatLng (position : ℚ × ℚ) : ProfileProgram Unit := do
  try
    let placeMarks ← call .geocode (fun w =>
      (w, match geocode position with | some found => .ok found | none => .error (.dart .state)))
      (.dart .state)
    match placeMarks with
    | place :: _ => setPage d fun c =>
      { c with address := describe place, street := place.street, neighborhood := place.locality }
    | [] => pure ()
  catch _ => setPage d fun c => { c with address := "Unknown location" }

/-- `toString() != "0.0"` -/
def isSet (coordinate : Value) : Bool := coordinate ≠ .number 0

/-- `double.parse(v.toString())`, of a number -/
def parseCoordinate : Value → ProfileProgram ℚ
  | .number x => pure x
  | _ => throw (.dart .argument)

def updateDeliveryAddress (addressData : AddressMap) : ProfileProgram Unit := do
  try
    if isSet (addressData.get "lat") ∧ isSet (addressData.get "lng") then do
      FirebaseHelper.updateUserData (ofList [("current_address", .address addressData)])
        d.logInType d.uid
      let lat ← parseCoordinate (addressData.get "lat")
      let lng ← parseCoordinate (addressData.get "lng")
      spawn (getAddressFromLatLng geocode d (lat, lng))
      snackbar d "Success" "changed Delivery Address"
    else snackbar d "Error" "please select location On Map"
  catch _ => pure ()

/-- `currentLocation.value?.latitude ?? 0.0`, and the same with the longitude -/
def location (c : DeliveryAddressController) : ℚ × ℚ := c.currentLocation.getD (0, 0)

def addressType (c : DeliveryAddressController) (other : String) : String :=
  if c.selectedIndex = 0 then "Home" else if c.selectedIndex = 1 then "Work" else other

def deletedData (c : DeliveryAddressController) : AddressMap :=
  ofList [("address", .text ""), ("address_type", .text (c.addressType "other")),
    ("address_title", .text ""), ("street", .text c.street),
    ("neighborhood", .text c.neighborhood), ("houseNumber", .text c.houseNumber),
    ("lng", .number c.location.2), ("lat", .number c.location.1),
    ("description", .text c.description)]

def deleteAddress (addressId addressType : String) : ProfileProgram Unit := do
  let addressData ← look fun w => (w.addressPages d).deletedData
  try
    FirebaseHelper.deleteAddress d.uid addressId
    if addressType = "Home" then updateDeliveryAddress geocode d addressData
    setPage d fun c =>
      { c with addressList := c.addressList.filter fun m => m.get "id" ≠ .text addressId }
  catch _ => pure ()

def clearFields (c : DeliveryAddressController) : DeliveryAddressController :=
  { c with addressTitle := "", description := "", addressId := "", currentLocation := none }

def postedData (c : DeliveryAddressController) : AddressMap :=
  ofList [("address", .text c.address), ("address_type", .text (c.addressType "other")),
    ("address_title", .text c.addressTitle), ("street", .text c.street),
    ("neighborhood", .text c.neighborhood), ("houseNumber", .text c.houseNumber),
    ("lng", .number c.location.2), ("lat", .number c.location.1),
    ("description", .text c.description)]

def postError (c : DeliveryAddressController) : Option String :=
  if c.addressTitle = "" then some "Address title  cannot be empty"
  else if c.selectedIndex = 2 ∧ c.description = "" then some "Description is required"
  else none

def postAddress : ProfileProgram Unit := do
  let c ← page d
  match c.postError with
  | some error => snackbar d "Validation Error" error
  | none =>
    try
      let addressData ← FirebaseHelper.addAddressForCustomer ids d.uid c.postedData
      if addressData.get "address_type" = .text "Home" then
        spawn (updateDeliveryAddress geocode d addressData)
      snackbar d "Success" "Address added successfully"
      spawn (getAddressList d)
      setPage d clearFields
    catch _ => snackbar d "Error" "Failed to add product"

def homeId (addressList : List AddressMap) : Option Value :=
  (addressList.find? fun m => m.get "address_type" = .text "Home").map (·.get "id")

def updatedData (c : DeliveryAddressController) : AddressMap :=
  ofList [("address", .text c.address), ("address_type", .text (c.addressType "Other")),
    ("address_title", .text (trim c.addressTitle)), ("street", .text (trim c.street)),
    ("neighborhood", .text (trim c.neighborhood)), ("houseNumber", .text (trim c.houseNumber)),
    ("lat", .number c.location.1), ("lng", .number c.location.2),
    ("description", .text (trim c.description))]

def updateError (c : DeliveryAddressController) : Option (String × String) :=
  if c.selectedIndex = 2 ∧ trim c.addressTitle = "" then
    some ("Validation Error", "Address title cannot be empty")
  else if c.selectedIndex = 2 ∧ trim c.description = "" then
    some ("Validation Error", "Description is required")
  else if c.location = (0, 0) then some ("Error", "Please select location on the map")
  else none

def setHomeId : ProfileProgram Unit := do
  let c ← page d
  if c.addressId = "" then
    match homeId c.addressList with
    | some (.text id) => setPage d fun c => { c with addressId := id }
    | some _ => throw (.dart .type)
    | none => pure ()

def updateAddress : ProfileProgram Unit := do
  try
    setHomeId d
    let c ← page d
    match c.updateError with
    | some (title, error) => snackbar d title error
    | none =>
      FirebaseHelper.updateAddress d.uid c.addressId c.updatedData
      if c.addressType "Other" = "Home" then
        spawn (updateDeliveryAddress geocode d c.updatedData)
      snackbar d "Success" "Address updated successfully"
      spawn (getAddressList d)
      setPage d clearFields
  catch _ => snackbar d "Error" "Failed to update address"

def fillFields (addressItem : AddressMap) : ProfileProgram Unit := do
  let addressId ← textOr (.value (addressItem.get "id"))
  setPage d fun c => { c with addressId := addressId }
  let addressTitle ← textOr (.value (addressItem.get "address_title"))
  setPage d fun c => { c with addressTitle := addressTitle }
  let description ← textOr (.value (addressItem.get "description"))
  setPage d fun c => { c with description := description }
  let _ ← textOr (.value (addressItem.get "address_type"))
  setPage d fun c =>
    { c with
      selectedIndex := if addressItem.get "address_type" = .text "Home" then 0
        else if addressItem.get "address_type" = .text "Work" then 1 else 2 }
  let lat ← numberOr (addressItem.get "lat")
  let lng ← numberOr (addressItem.get "lng")
  setPage d fun c => { c with currentLocation := some (lat, lng) }

/-- `none` stands for the empty map. -/
def updateFields (addressItem : Option AddressMap) : ProfileProgram Unit :=
  match addressItem with
  | none => pure ()
  | some addressItem => fillFields d addressItem

def updateMarkerPosition (newLocation : ℚ × ℚ) : ProfileProgram Unit := do
  setPage d fun c => { c with currentLocation := some newLocation }
  spawn (getAddressFromLatLng geocode d newLocation)

/-- `getVal` is the address that the cart hands over, if it does. -/
def onInit (getVal : Option AddressMap) : ProfileProgram Unit := do
  change (·.setAddressPage d fun _ => {})
  match getVal with
  | none => pure ()
  | some getVal =>
    let street ← asText (.value (getVal.get "street"))
    setPage d fun c => { c with street := street }
    let neighborhood ← asText (.value (getVal.get "neighborhood"))
    setPage d fun c => { c with neighborhood := neighborhood }
    let houseNumber ← asText (.value (getVal.get "houseNumber"))
    setPage d fun c => { c with houseNumber := houseNumber }
    let lat ← parseCoordinate (getVal.get "lat")
    let lng ← parseCoordinate (getVal.get "lng")
    updateMarkerPosition geocode d (lat, lng)
  spawn (getAddressList d)

end DeliveryAddressController

namespace MyCartController

def setCart (f : MyCartController → MyCartController) : ProfileProgram Unit :=
  change (·.setCart d f)

/-- `m[k]`, which fails if there is no map -/
def field (data : Option Profile) (k : String) : ProfileProgram ProfileValue :=
  match data with
  | some m => pure (m.get k)
  | none => throw (.dart .type)

def asAddress : ProfileValue → ProfileProgram AddressMap
  | .address m => pure m
  | _ => throw (.dart .type)

def getCustomerDeliveryAddress : ProfileProgram Unit := do
  try
    let data ← FirebaseHelper.getCurrentUserInfoById d.uid d.logInType
    let userDetails ← FirebaseHelper.getCurrentUserInfoById d.uid d.logInType
    let userName ← asText ((userDetails.map (·.get "username")).getD (.value .null))
    setCart d fun c => { c with userName := userName }
    let current ← asAddress (← field data "current_address")
    setCart d fun c =>
      { c with currentDeliveryAddress := merge c.currentDeliveryAddress current }
    let address ← asText (.value (current.get "address"))
    setCart d fun c => { c with adddress := address }
    let street ← asText (.value (current.get "street"))
    setCart d fun c => { c with street := street }
    let houseNumber ← asText (.value (current.get "houseNumber"))
    setCart d fun c => { c with houseNumber := houseNumber }
    let neighborhood ← asText (.value (current.get "neighborhood"))
    setCart d fun c => { c with neighborhood := neighborhood }
    let email ← asText (← field data "email")
    setCart d fun c => { c with email := email }
    let phoneNumber ← asText (← field data "phoneNumber")
    setCart d fun c => { c with phoneNumber := phoneNumber }
    setCart d fun c =>
      { c with
        currentDeliveryAddress := merge c.currentDeliveryAddress
          (ofList [("email", .text c.email), ("phoneNumber", .text c.phoneNumber)]) }
  catch _ => pure ()

end MyCartController

/-- What `HomeController.saveLocation` writes for the place that was picked last. -/
def savedLocation (address : String) (selectedLatLng : ℚ × ℚ) : AddressMap :=
  ofList [("address", .text address), ("lat", .number selectedLatLng.1),
    ("lng", .number selectedLatLng.2)]

end Gherass.Profiles
