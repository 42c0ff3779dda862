import Gherass.MarketData
import Gherass.TextNumbers

set_option autoImplicit false

/-!
# Farm events and their tickets

The documents of `farmer/{uid}/events` and `customer/{uid}/booked_events`, and the pages
that show them. Numbers of tickets are stored as text.
-/
namespace Gherass

/-- The map of an event. A booking is such a map, with the three fields that
    `bookEvents` adds. -/
structure EventData where
  id : Option String := none
  name : String := ""
  startDate : String := ""
  maxNumbers : String := ""
  remainingTickets : String := ""
  description : String := ""
  location : String := ""
  lat : Option ℚ := none
  lng : Option ℚ := none
  farmName : Option String := none
  remainingTicket : Option String := none
  bookingId : Option String := none
  deriving DecidableEq

structure FarmEvent extends EventData where
  farmerId : Uid
  deriving DecidableEq

/-- A document of `customer/{customerId}/booked_events`. -/
structure Booking extends EventData where
  customerId : Uid
  deriving DecidableEq

/-- A farm's page. The maps of its events are kept by identity: a booking that waits goes
    on with the map it had. -/
structure ProductController where
  device : Device
  farmerId : Uid
  farmName : String
  maps : List EventData := []
  farmerEvents : List ℕ := []
  bookedEvents : List EventData := []
  farmerEventItem : List ℕ := []
  successDialogs : ℕ := 0

/-- The farmer's own event pages share one controller. -/
structure EventController where
  maxNumberOfVisit : ℤ := 1
  eventName : String := ""
  startDate : String := ""
  eventDescription : String := ""
  eventLocation : String := ""
  eventMinimumNumber : String := ""
  eventId : String := ""
  remainingTickets : String := ""
  maxMembersForTickets : String := ""
  farmerEvents : List EventData := []
  selectedLatLng : Option (ℚ × ℚ) := none
  address : String := ""

structure DateTime where
  year : ℕ
  month : ℕ
  day : ℕ
  hour : ℕ := 0
  minute : ℕ := 0
  deriving DecidableEq

/-- `deletedEvents` are the ids that were in use once, `underWay` counts a customer's presses
    that are at work on an event. Both are bookkeeping. -/
structure EventWorld where
  events : Std.TreeMap String FarmEvent := ∅
  bookings : Std.TreeMap String Booking := ∅
  deletedEvents : List String := []
  underWay : Uid → String → ℕ := fun _ _ => 0
  now : DateTime := ⟨2025, 1, 1, 0, 0⟩
  farmPages : ℕ → Option ProductController := fun _ => none
  eventPages : Device → EventController := fun _ => {}

inductive EventAccess where
  | plain
  | updateTickets (farmerId : Uid) (eventId : String) (remainingTickets : ℤ)
  | addBooking (eventId : Option String)
  | setBookingId
  | editEvent (farmerId : Uid) (eventId : String)
  deriving DecidableEq

abbrev EventProgram (α : Type) := EventLoop.Async EventWorld EventAccess DartError Bool α

namespace EventWorld

def setFarmPage (w : EventWorld) (p : ℕ) (f : ProductController → ProductController) :
    EventWorld :=
  { w with farmPages := Function.update w.farmPages p ((w.farmPages p).map f) }

def setEventPage (w : EventWorld) (d : Device) (f : EventController → EventController) :
    EventWorld :=
  { w with eventPages := Function.update w.eventPages d (f (w.eventPages d)) }

def map? (w : EventWorld) (p ref : ℕ) : Option EventData :=
  (w.farmPages p).bind fun c => c.maps[ref]?

def setMap (w : EventWorld) (p ref : ℕ) (f : EventData → EventData) : EventWorld :=
  w.setFarmPage p fun c => { c with maps := c.maps.modify ref f }

def setUnderWay (w : EventWorld) (uid : Uid) (id : String) (f : ℕ → ℕ) : EventWorld :=
  { w with
    underWay := Function.update w.underWay uid
      (Function.update (w.underWay uid) id (f (w.underWay uid id))) }

def usedIds (w : EventWorld) : List String :=
  w.events.keys ++ w.bookings.keys ++ w.deletedEvents

def newId (ids : IdSupply) (w : EventWorld) : String := ids.newId w.usedIds.length w.usedIds

end EventWorld

def monthNames : List String :=
  ["Jan", "Feb", "Mar", "Apr", "May", "Jun", "Jul", "Aug", "Sep", "Oct", "Nov", "Dec"]

def twoDigits (n : ℕ) : String := if n < 10 then "0" ++ toString n else toString n

/-- `DateFormat("dd MMM h:mm a")` -/
def formatDateTime (t : DateTime) : String :=
  twoDigits t.day ++ " " ++ monthNames.getD (t.month - 1) "" ++ " " ++
    toString (if t.hour % 12 = 0 then 12 else t.hour % 12) ++ ":" ++ twoDigits t.minute ++ " " ++
    (if t.hour < 12 then "AM" else "PM")

namespace FirebaseHelper

open EventLoop.Async

def query {α : Type} (f : EventWorld → α) : EventProgram α :=
  call .plain (fun w => (w, .ok (f w))) .firestore

/-- The server's part of `delete` on an event of a farmer. -/
def deleteEventDoc (uid : Uid) (id : String) (w : EventWorld) : EventWorld :=
  if (w.events[id]?).any (·.farmerId = uid) then
    { w with events := w.events.erase id, deletedEvents := id :: w.deletedEvents }
  else w

/-- The server's part of `update` on an event of a farmer. -/
def updateEventDoc (uid : Uid) (id : String) (f : EventData → EventData) (w : EventWorld) :
    EventWorld × Except DartError Unit :=
  match w.events[id]? with
  | some e =>
    if e.farmerId = uid then
      ({ w with events := w.events.insert id { e with toEventData := f e.toEventData } }, .ok ())
    else (w, .error .firestore)
  | none => (w, .error .firestore)

def checkDoc (id : String) : EventProgram Unit := if id = "" then throw .argument else pure ()

def expiredDocs (uid : Uid) (formattedDate : String) (w : EventWorld) : List String :=
  (w.events.toList.filter fun e => e.2.farmerId = uid ∧ e.2.startDate < formattedDate).map (·.1)

def deleteEach (uid : Uid) : List String → EventProgram Unit
  | [] => pure ()
  | id :: rest => do
    call .plain (fun w => (deleteEventDoc uid id w, .ok ())) .firestore
    deleteEach uid rest

/-- For the collection `events` and the field `start_date`; it catches nothing. -/
def removeExpiredDoc (uid : Uid) (formattedDate : String) : EventProgram Unit := do
  let docs ← query (expiredDocs uid formattedDate)
  deleteEach uid docs

def fetchFarmerEvents (farmerId : Uid) : EventProgram (Option (List EventData)) := do
  try
    let docs ← query fun w =>
      (w.events.toList.filter (·.2.farmerId = farmerId)).map (·.2.toEventData)
    if docs ≠ [] then pure (some docs) else pure none
  catch _ => pure none

def fetchBookedEvents (customerId : Uid) : EventProgram (Option (List EventData)) := do
  try
    let docs ← query fun w =>
      (w.bookings.toList.filter (·.2.customerId = customerId)).map (·.2.toEventData)
    if docs ≠ [] then pure (some docs) else pure none
  catch _ => pure none

def updateEventTicketCount (bookingId : String) (remainingTickets : ℤ) (farmerID : Uid) :
    EventProgram Unit := do
  try
    checkDoc bookingId
    call (.updateTickets farmerID bookingId remainingTickets)
      (updateEventDoc farmerID bookingId fun e =>
        { e with remainingTickets := toString remainingTickets }) .firestore
  catch _ => pure ()

def addBooking (ids : IdSupply) (uid : Uid) (eventData : EventData) (w : EventWorld) :
    EventWorld × Except DartError String :=
  ({ w with bookings := w.bookings.insert (w.newId ids) ⟨eventData, uid⟩ }, .ok (w.newId ids))

def updateBooking (id : String) (f : EventData → EventData) (w : EventWorld) :
    EventWorld × Except DartError Unit :=
  match w.bookings[id]? with
  | some b =>
    ({ w with bookings := w.bookings.insert id { b with toEventData := f b.toEventData } }, .ok ())
  | none => (w, .error .firestore)

/-- `eventData` is the map `ref` of the page `p`; the booking's id is put into it. -/
def addToBookEvents (ids : IdSupply) (uid : Uid) (p ref : ℕ) : EventProgram Unit := do
  try
    let eventData ← look fun w => (w.map? p ref).getD {}
    let docRef ← call (.addBooking eventData.id) (addBooking ids uid eventData) .firestore
    change fun w => w.setMap p ref fun e => { e with bookingId := some docRef }
    call .setBookingId (updateBooking docRef fun b => { b with bookingId := some docRef })
      .firestore
  catch _ => pure ()

def addEventDoc (ids : IdSupply) (uid : Uid) (eventData : EventData) (w : EventWorld) :
    EventWorld × Except DartError String :=
  ({ w with events := w.events.insert (w.newId ids) ⟨eventData, uid⟩ }, .ok (w.newId ids))

def addEventsToFarmer (ids : IdSupply) (uid : Uid) (eventData : EventData) :
    EventProgram Unit := do
  try
    let docRef ← call .plain (addEventDoc ids uid eventData) .firestore
    call .plain (updateEventDoc uid docRef fun e => { e with id := some docRef }) .firestore
  catch _ => pure ()

def updateEventsToFarmer (uid : Uid) (eventId : String) (f : EventData → EventData) :
    EventProgram Unit := do
  try
    checkDoc eventId
    call (.editEvent uid eventId) (updateEventDoc uid eventId f) .firestore
  catch _ => pure ()

def deleteFarmEvent (uid : Uid) (eventId : String) : EventProgram Unit := do
  try
    checkDoc eventId
    call .plain (fun w => (deleteEventDoc uid eventId w, .ok ())) .firestore
  catch _ => pure ()

end FirebaseHelper

end Gherass
