import Gherass.Accounts
import Gherass.FieldMaps

set_option autoImplicit false

/-!
# Profiles and addresses

A profile is the document of a user in the collection of the role; a customer's addresses are
documents below it. A profile holds one address as a map of its own.
-/
namespace Gherass.Profiles

open EventLoop EventLoop.Async FieldMaps Gherass.Account

inductive Value where
  | null
  | bool (b : Bool)
  | number (x : ℚ)
  | text (s : String)
  deriving DecidableEq

/-- An address, in a profile or as a document of `address_list` -/
abbrev AddressMap := String → Option Value

inductive ProfileValue where
  | value (v : Value)
  | address (m : AddressMap)

abbrev Profile := String → Option ProfileValue

/-- `m[k]` -/
def AddressMap.get (m : AddressMap) (k : String) : Value := (m k).getD .null

/-- `m[k]` -/
def Profile.get (m : Profile) (k : String) : ProfileValue := (m k).getD (.value .null)

structure Placemark where
  street : String
  locality : String
  subLocality : String
  postalCode : String
  administrativeArea : String
  country : String

structure EditProfileController where
  userName : String := ""
  emailTextfield : String := ""
  locationTextfield : String := ""
  phoneNumberTextfield : String := ""
  workingHoursTextfield : String := ""
  farmDescriptionTextfield : String := ""
  farmNameTextfield : String := ""
  nameTextfield : String := ""
  farmLocationTextfield : String := ""
  farmLogo : String := ""
  selectedLatLng : Option (ℚ × ℚ) := none
  base64Image : String := ""

structure DeliveryAddressController where
  addressTitle : String := ""
  description : String := ""
  selectedIndex : ℕ := 0
  currentLocation : Option (ℚ × ℚ) := none
  address : String := ""
  street : String := ""
  neighborhood : String := ""
  houseNumber : String := ""
  addressList : List AddressMap := []
  addressId : String := ""

structure MyCartController where
  userName : String := ""
  currentDeliveryAddress : AddressMap := fun _ => none
  adddress : String := ""
  street : String := ""
  houseNumber : String := ""
  neighborhood : String := ""
  email : String := ""
  phoneNumber : String := ""

/-- `deletedAddresses` are the ids that were in use once, `snackbars` the titles and texts that were
    shown since the user's last press. Both are bookkeeping. -/
structure ProfileWorld where
  profiles : LogInType → Uid → Option Profile := fun _ _ => none
  addressList : Uid → Std.TreeMap String AddressMap := fun _ => ∅
  deletedAddresses : Uid → List String := fun _ => []
  editPages : Device → EditProfileController := fun _ => {}
  addressPages : Device → DeliveryAddressController := fun _ => {}
  carts : Device → MyCartController := fun _ => {}
  snackbars : Device → List (String × String) := fun _ => []

inductive ProfileAccess where
  | readProfile
  | updateProfile
  | readAddresses
  | addAddress
  | setAddressId
  | updateAddress
  | deleteAddress
  | geocode
  deriving DecidableEq

abbrev ProfileProgram (α : Type) := EventLoop.Async ProfileWorld ProfileAccess Thrown Unit α

namespace ProfileWorld

variable (w : ProfileWorld)

def setProfile (collection : LogInType) (uid : Uid) (data : Option Profile) : ProfileWorld :=
  { w with
    profiles := Function.update w.profiles collection
      (Function.update (w.profiles collection) uid data) }

def setAddresses (uid : Uid)
    (f : Std.TreeMap String AddressMap → Std.TreeMap String AddressMap) : ProfileWorld :=
  { w with addressList := Function.update w.addressList uid (f (w.addressList uid)) }

def setEditPage (d : Device) (f : EditProfileController → EditProfileController) : ProfileWorld :=
  { w with editPages := Function.update w.editPages d (f (w.editPages d)) }

def setAddressPage (d : Device) (f : DeliveryAddressController → DeliveryAddressController) :
    ProfileWorld :=
  { w with addressPages := Function.update w.addressPages d (f (w.addressPages d)) }

def setCart (d : Device) (f : MyCartController → MyCartController) : ProfileWorld :=
  { w with carts := Function.update w.carts d (f (w.carts d)) }

def showSnackbar (d : Device) (title text : String) : ProfileWorld :=
  { w with snackbars := Function.update w.snackbars d (w.snackbars d ++ [(title, text)]) }

def usedAddresses (uid : Uid) : List String := (w.addressList uid).keys ++ w.deletedAddresses uid

def newAddress (ids : IdSupply) (uid : Uid) : String :=
  ids.newId (w.usedAddresses uid).length (w.usedAddresses uid)

end ProfileWorld

def isNameChar (c : Char) : Bool := c.isAlphanum || c ∈ ['.', '_', '%', '+', '-']

def isHostChar (c : Char) : Bool := c.isAlphanum || c ∈ ['.', '-']

def isHost (host : List Char) : Bool :=
  match host.reverse.span (· ≠ '.') with
  | (top, '.' :: rest) => 2 ≤ top.length && top.all (·.isAlpha) && rest ≠ [] && rest.all isHostChar
  | _ => false

/-- `emailRegex.hasMatch` -/
def isEmail (email : String) : Bool :=
  match email.toList.splitOn '@' with
  | [name, host] => name ≠ [] && name.all isNameChar && isHost host
  | _ => false

example : isEmail "nora@farm.co" = true := by decide

example : isEmail "nora@farm" = false := by decide

namespace FirebaseHelper

def updateProfileDoc (collection : LogInType) (uid : Uid) (data : Profile) (w : ProfileWorld) :
    ProfileWorld × Except Thrown Unit :=
  match w.profiles collection uid with
  | some m => (w.setProfile collection uid (some (merge m data)), .ok ())
  | none => (w, .error (.dart .firestore))

/-- The check that `updateUserData` makes of a new e-mail address. -/
def checkEmail (updateProfile : Profile) : ProfileProgram Unit :=
  match updateProfile "email" with
  | none => pure ()
  | some (.value (.text email)) =>
    if isEmail email then pure () else throw (.text "Please enter a valid email address.")
  | some _ => throw (.dart .type)

def updateUserData (updateProfile : Profile) (logInUserType : LogInType) (userId : Uid) :
    ProfileProgram Unit := do
  try
    checkEmail updateProfile
    call .updateProfile (updateProfileDoc logInUserType userId updateProfile) (.dart .firestore)
  catch _ => pure ()

def getCurrentUserInfoById (userId : Uid) (userTypeId : LogInType) :
    ProfileProgram (Option Profile) := do
  try
    call .readProfile (fun w => (w, .ok (w.profiles userTypeId userId))) (.dart .firestore)
  catch _ => pure none

def checkDoc (id : String) : ProfileProgram Unit :=
  if id = "" then throw (.dart .argument) else pure ()

def fetchAddressList (customerId : Uid) : ProfileProgram (Option (List AddressMap)) := do
  try
    let docs ← call .readAddresses (fun w => (w, .ok ((w.addressList customerId).toList.map (·.2))))
      (.dart .firestore)
    if docs.isEmpty then pure none else pure (some docs)
  catch _ => pure none

def deleteAddressDoc (uid : Uid) (addressId : String) (w : ProfileWorld) : ProfileWorld :=
  { w.setAddresses uid (·.erase addressId) with
    deletedAddresses := Function.update w.deletedAddresses uid
      (addressId :: w.deletedAddresses uid) }

def deleteAddress (uid : Uid) (addressId : String) : ProfileProgram Unit := do
  try
    checkDoc addressId
    call .deleteAddress (fun w => (deleteAddressDoc uid addressId w, .ok ())) (.dart .firestore)
  catch _ => pure ()

def updateAddressDoc (uid : Uid) (addressId : String) (data : AddressMap) (w : ProfileWorld) :
    ProfileWorld × Except Thrown Unit :=
  match (w.addressList uid)[addressId]? with
  | some m => (w.setAddresses uid (·.insert addressId (merge m data)), .ok ())
  | none => (w, .error (.dart .firestore))

def addAddressDoc (ids : IdSupply) (uid : Uid) (data : AddressMap) (w : ProfileWorld) :
    ProfileWorld × Except Thrown String :=
  (w.setAddresses uid (·.insert (w.newAddress ids uid) data), .ok (w.newAddress ids uid))

def addAddressForCustomer (ids : IdSupply) (uid : Uid) (addressData : AddressMap) :
    ProfileProgram AddressMap := do
  try
    let docRef ← call .addAddress (addAddressDoc ids uid addressData) (.dart .firestore)
    try
      call .setAddressId (updateAddressDoc uid docRef (ofList [("id", .text docRef)]))
        (.dart .firestore)
    catch _ => pure ()
    pure (merge addressData (ofList [("id", .text docRef)]))
  catch _ => pure addressData

def updateAddress (uid : Uid) (addressId : String) (addressData : AddressMap) :
    ProfileProgram Unit := do
  try
    checkDoc addressId
    call .updateAddress (updateAddressDoc uid addressId addressData) (.dart .firestore)
  catch _ => pure ()

end FirebaseHelper

end Gherass.Profiles
