import Gherass.EventLoopPrograms
import Gherass.MarketData
import Gherass.ProductSearch

set_option autoImplicit false

/-!
# The driver's vehicle

`vehicle_info_controller.dart` keeps one form for the documents of `driver/{uid}/vehicle_detail`:
the first document is overwritten, and one is added where there is none.
-/
namespace Gherass.Vehicles

open EventLoop EventLoop.Async Gherass.Shop

/-- The five texts of the form, and of the map that is saved. -/
structure VehicleData where
  licencePlateNumber : String := ""
  makerCompany : String := ""
  carModel : String := ""
  yearOfCarModel : String := ""
  carColor : String := ""
  deriving DecidableEq

/-- A document of `vehicle_detail`. -/
structure VehicleDetail where
  licencePlateNumber : Option String := none
  makerCompany : Option String := none
  carModel : Option String := none
  yearOfCarModel : Option String := none
  carColor : Option String := none
  vehicleID : Option String := none
  deriving DecidableEq

inductive VehicleField where
  | licencePlateNumber
  | makerCompany
  | carModel
  | yearOfCarModel
  | carColor
  deriving DecidableEq

def VehicleField.write (text : String) (data : VehicleData) : VehicleField → VehicleData
  | licencePlateNumber => { data with licencePlateNumber := text }
  | makerCompany => { data with makerCompany := text }
  | carModel => { data with carModel := text }
  | yearOfCarModel => { data with yearOfCarModel := text }
  | carColor => { data with carColor := text }

namespace VehicleData

variable (data : VehicleData)

/-- `vehicleData` of `updateVehicleInfo` -/
def trimmed : VehicleData where
  licencePlateNumber := trim data.licencePlateNumber
  makerCompany := trim data.makerCompany
  carModel := trim data.carModel
  yearOfCarModel := trim data.yearOfCarModel
  carColor := trim data.carColor

/-- What `update` makes of a document, and `add` of an empty one. -/
def write (doc : VehicleDetail) : VehicleDetail :=
  { doc with
    licencePlateNumber := some data.licencePlateNumber
    makerCompany := some data.makerCompany
    carModel := some data.carModel
    yearOfCarModel := some data.yearOfCarModel
    carColor := some data.carColor }

def ofDoc (doc : VehicleDetail) : VehicleData where
  licencePlateNumber := doc.licencePlateNumber.getD ""
  makerCompany := doc.makerCompany.getD ""
  carModel := doc.carModel.getD ""
  yearOfCarModel := doc.yearOfCarModel.getD ""
  carColor := doc.carColor.getD ""

@[simp] theorem ofDoc_write (doc : VehicleDetail) : ofDoc (data.write doc) = data := rfl

/-- `validateFields`: the first message, if there is one -/
def validationError : Option String :=
  if data.licencePlateNumber = "" then some "Licence Plate Number cannot be empty"
  else if data.makerCompany = "" then some "Maker Company cannot be empty"
  else if data.carModel = "" then some "Car Model cannot be empty"
  else if data.yearOfCarModel = "" then some "Year of Car cannot be empty"
  else if data.carColor = "" then some "Car Color cannot be empty"
  else none

end VehicleData

structure VehicleInfoController where
  device : Device
  texts : VehicleData := {}
  editing : VehicleField → Bool := fun _ => false
  vehicleInfo : List VehicleDetail := []

/-- `saved` is what each driver has had saved. It is bookkeeping. -/
structure VehicleWorld where
  vehicles : Uid → Std.TreeMap String VehicleDetail := fun _ => ∅
  pages : ℕ → Option VehicleInfoController := fun _ => none
  saved : Uid → List VehicleData := fun _ => []

inductive VehicleAccess where
  | firstVehicle (driverId : Uid)
  | update (driverId : Uid) (id : String)
  | add (driverId : Uid)
  | setId (driverId : Uid) (id : String)
  | readAll (driverId : Uid)
  deriving DecidableEq

abbrev VehicleProgram (α : Type) := EventLoop.Async VehicleWorld VehicleAccess DartError Bool α

namespace VehicleWorld

variable (w : VehicleWorld)

def setVehicles (driverId : Uid)
    (f : Std.TreeMap String VehicleDetail → Std.TreeMap String VehicleDetail) : VehicleWorld :=
  { w with vehicles := Function.update w.vehicles driverId (f (w.vehicles driverId)) }

def setPage (p : ℕ) (f : VehicleInfoController → VehicleInfoController) : VehicleWorld :=
  { w with pages := Function.update w.pages p ((w.pages p).map f) }

end VehicleWorld

variable (ids : IdSupply) (p : ℕ)

namespace FirebaseHelper

def updateVehicle (driverId : Uid) (id : String) (f : VehicleDetail → VehicleDetail)
    (w : VehicleWorld) : VehicleWorld × Except DartError Unit :=
  match (w.vehicles driverId)[id]? with
  | some doc => (w.setVehicles driverId fun docs => docs.insert id (f doc), .ok ())
  | none => (w, .error .firestore)

def newId (driverId : Uid) (w : VehicleWorld) : String :=
  ids.newId (w.vehicles driverId).size (w.vehicles driverId).keys

/-- The server's part of `add` on a driver's vehicles. -/
def addVehicle (driverId : Uid) (data : VehicleData) (w : VehicleWorld) :
    VehicleWorld × Except DartError String :=
  (w.setVehicles driverId fun docs => docs.insert (newId ids driverId w) (data.write {}),
    .ok (newId ids driverId w))

def fetchVehicleInfo (driverId : Uid) : VehicleProgram (Option (List VehicleDetail)) := do
  try
    let docs ← call (.readAll driverId)
      (fun w => (w, .ok ((w.vehicles driverId).toList.map (·.2)))) .firestore
    if docs ≠ [] then pure (some docs) else pure none
  catch _ => pure none

/-- `limit(1)` leaves the document with the first id. -/
def updateVehicleInfo (driverId : Uid) (vehicleInfo : VehicleData) : VehicleProgram Unit := do
  try
    let snapshot ← call (.firstVehicle driverId)
      (fun w => (w, .ok (w.vehicles driverId).keys.head?)) .firestore
    match snapshot with
    | some id =>
      call (.update driverId id) (updateVehicle driverId id vehicleInfo.write) .firestore
    | none =>
      let id ← call (.add driverId) (addVehicle ids driverId vehicleInfo) .firestore
      call (.setId driverId id)
        (updateVehicle driverId id fun doc => { doc with vehicleID := some id }) .firestore
  catch _ => pure ()

end FirebaseHelper

namespace VehicleInfoController

def load (vehicleInfo : List VehicleDetail) (c : VehicleInfoController) :
    VehicleInfoController :=
  match vehicleInfo with
  | [] => c
  | data :: _ => { c with vehicleInfo := vehicleInfo, texts := .ofDoc data }

def getVehicleInfo (d : Device) : VehicleProgram Unit := do
  try
    let response ← FirebaseHelper.fetchVehicleInfo d.uid
    match response with
    | some vehicleInfo => change fun w => w.setPage p (.load vehicleInfo)
    | none => pure ()
  catch _ => pure ()

def updateVehicleInfo : VehicleProgram Unit := do
  match ← look fun w => w.pages p with
  | none => pure ()
  | some c =>
    match c.texts.validationError with
    | some _ => pure ()
    | none =>
      let vehicleData := c.texts.trimmed
      try
        change fun w =>
          { w with
            saved := Function.update w.saved c.device.uid
              (w.saved c.device.uid ++ [vehicleData]) }
        FirebaseHelper.updateVehicleInfo ids c.device.uid vehicleData
        getVehicleInfo p c.device
      catch _ => pure ()

/-- `onInit` -/
def openVehicleInfo (d : Device) : VehicleProgram Unit := do
  change fun w => { w with pages := Function.update w.pages p (some { device := d }) }
  getVehicleInfo p d

end VehicleInfoController

inductive VehicleEvent where
  | openVehicleInfo (page : ℕ) (d : Device)
  | toggleEditing (page : ℕ) (field : VehicleField)
  | typeText (page : ℕ) (field : VehicleField) (text : String)
  | save (page : ℕ)

def vehicleProgram : VehicleEvent → VehicleProgram Unit
  | .openVehicleInfo page d => VehicleInfoController.openVehicleInfo page d
  | .toggleEditing page field => change fun w => w.setPage page fun c =>
    { c with editing := Function.update c.editing field (!c.editing field) }
  | .typeText page field text => change fun w => w.setPage page fun c =>
    if c.editing field then { c with texts := field.write text c.texts } else c
  | .save page => VehicleInfoController.updateVehicleInfo ids page

def vehicleHandler (e : VehicleEvent) : Task VehicleWorld VehicleAccess Bool :=
  (vehicleProgram ids e).task

end Gherass.Vehicles
