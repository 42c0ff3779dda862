import Gherass.EventLoopPrograms
import Gherass.FarmEvents

set_option autoImplicit false

/-!
# The event pages

`ProductController` of `product_contoller.dart`, as far as it shows and books events, and
`EventController` of `event_controller.dart`.
-/
namespace Gherass

open EventLoop EventLoop.Async

variable (ids : IdSupply) (p : ℕ) (d : Device)

namespace ProductController

def page : EventProgram (Option ProductController) := look fun w => w.farmPages p

def setPage (f : ProductController → ProductController) : EventProgram Unit :=
  change fun w => w.setFarmPage p f

def setMap (ref : ℕ) (f : EventData → EventData) : EventProgram Unit :=
  change fun w => w.setMap p ref f

/-- `farmerEvents.assignAll`: new maps in the list -/
def assignEvents (c : ProductController) (events : List EventData) : ProductController :=
  { c with
    maps := c.maps ++ events
    farmerEvents := (List.range events.length).map (c.maps.length + ·) }

/-- The page's own farmer and user never change. -/
def getEventList (farmerId : Uid) : EventProgram Unit := do
  try
    let now ← look fun w => formatDateTime w.now
    FirebaseHelper.removeExpiredDoc d.uid now
    let response ← FirebaseHelper.fetchFarmerEvents farmerId
    match response with
    | some events => setPage p fun c => c.assignEvents events
    | none => pure ()
  catch _ => pure ()

def getBookedEventsList : EventProgram Unit := do
  try
    let response ← FirebaseHelper.fetchBookedEvents d.uid
    match response with
    | some events => setPage p fun c => { c with bookedEvents := events }
    | none => pure ()
  catch _ => pure ()

/-- `onInit` -/
def openFarm (farmerId : Uid) (farmName : String) : EventProgram Unit := do
  let opened ← seg fun w =>
    match w.farmPages p with
    | some _ => (w, false)
    | none =>
      ({ w with
        farmPages := Function.update w.farmPages p
          (some { device := d, farmerId := farmerId, farmName := farmName }) }, true)
  if opened then
    spawn (getEventList p d farmerId)
    spawn (getBookedEventsList p d)

def selectEvent (index : ℕ) : EventProgram Unit :=
  setPage p fun c =>
    match c.farmerEvents[index]? with
    | some ref => { c with farmerEventItem := [ref] }
    | none => c

def reload (c : ProductController) : EventProgram Unit := do
  spawn (getBookedEventsList p c.device)
  spawn (getEventList p c.device c.farmerId)

def isEventBooked (c : ProductController) (eventData : EventData) : Bool :=
  c.bookedEvents.any fun event => event.id = eventData.id

/-- Whether the button `Book` can be pressed. -/
def canBook (c : ProductController) : Bool :=
  (c.farmerEventItem.head?.bind fun ref => c.maps[ref]?).any fun e =>
    !c.isEventBooked e ∧ (intTryParse e.remainingTickets).any (0 < ·)

/-- The two writes of `bookEvents`. -/
def storeBooking (c : ProductController) (ref : ℕ) (id : String) (remainingTickets : ℤ) :
    EventProgram Unit := do
  change fun w => w.setUnderWay c.device.uid id (· + 1)
  FirebaseHelper.updateEventTicketCount id (remainingTickets - 1) c.farmerId
  FirebaseHelper.addToBookEvents ids c.device.uid p ref
  change fun w => w.setUnderWay c.device.uid id (· - 1)

def showDialog : EventProgram Unit :=
  setPage p fun c => { c with successDialogs := c.successDialogs + 1 }

/-- The part of `bookEvents` after the check that a ticket is left. -/
def takeTicket (c : ProductController) (ref : ℕ) (id : Option String) (remainingTickets : ℤ) :
    EventProgram Unit := do
  match id with
  | none => throw .type
  | some id =>
    storeBooking ids p c ref id remainingTickets
    reload p c
    showDialog p

def bookSelected (c : ProductController) (ref : ℕ) : EventProgram Unit := do
  setMap p ref fun e => { e with farmName := some c.farmName }
  try
    let eventData ← look fun w => (w.map? p ref).getD {}
    let remainingTickets := (intTryParse eventData.remainingTickets).getD 0
    setMap p ref fun e => { e with remainingTicket := some (toString remainingTickets) }
    if remainingTickets ≤ 0 then pure ()
    else takeTicket ids p c ref eventData.id remainingTickets
  catch _ => pure ()

def bookEvents : EventProgram Unit := do
  match ← page p with
  | none => pure ()
  | some c =>
    match c.farmerEventItem with
    | [] => throw .state
    | ref :: _ => bookSelected ids p c ref

end ProductController

namespace EventController

def page : EventProgram EventController := look fun w => w.eventPages d

def setPage (f : EventController → EventController) : EventProgram Unit :=
  change fun w => w.setEventPage d f

def updateFields (c : EventController) (arguments : EventData) : EventController :=
  { c with
    eventName := arguments.name
    startDate := arguments.startDate
    eventMinimumNumber := arguments.maxNumbers
    maxMembersForTickets := arguments.maxNumbers
    eventDescription := arguments.description
    eventLocation := arguments.location
    remainingTickets := arguments.remainingTickets
    maxNumberOfVisit := (intTryParse arguments.maxNumbers).getD 0
    eventId := arguments.id.getD "null" }

def clearFields (c : EventController) : EventController :=
  { c with
    eventName := ""
    startDate := ""
    eventMinimumNumber := ""
    eventDescription := ""
    eventLocation := ""
    maxNumberOfVisit := 1 }

def getEventList : EventProgram Unit := do
  try
    let now ← look fun w => formatDateTime w.now
    FirebaseHelper.removeExpiredDoc d.uid now
    let response ← FirebaseHelper.fetchFarmerEvents d.uid
    match response with
    | some events => setPage d fun c => { c with farmerEvents := events }
    | none => pure ()
  catch _ => pure ()

def validationError (c : EventController) : Option String :=
  if c.eventName = "" then some "Event name cannot be empty"
  else if c.startDate = "" then some "Date is required"
  else if c.eventDescription = "" then some "Description type cannot be empty"
  else if c.eventLocation = "" then some "Product description cannot be empty"
  else if c.eventMinimumNumber = "" then some "Product description cannot be empty"
  else none

def formData (c : EventController) (remainingTickets : String) (e : EventData) : EventData :=
  { e with
    name := c.eventName
    startDate := c.startDate
    maxNumbers := c.eventMinimumNumber
    remainingTickets := remainingTickets
    description := c.eventDescription
    lat := c.selectedLatLng.map (·.1)
    lng := c.selectedLatLng.map (·.2)
    location := c.address }

def postEvents : EventProgram Unit := do
  let c ← page d
  match c.validationError with
  | some _ => pure ()
  | none =>
    try
      FirebaseHelper.addEventsToFarmer ids d.uid (c.formData c.eventMinimumNumber {})
      spawn (getEventList d)
      setPage d clearFields
    catch _ => pure ()

/-- `int.parse` throws where `int.tryParse` answers null. -/
def updateRemainTickets (c : EventController) : Option String :=
  if c.maxMembersForTickets ≠ "" ∨ c.remainingTickets ≠ "" then do
    let balance := int64 ((← intTryParse c.remainingTickets) +
      int64 ((← intTryParse c.eventMinimumNumber) - (← intTryParse c.maxMembersForTickets)))
    if balance ≥ 0 then pure (toString balance) else pure "0"
  else some ""

def updateEvents : EventProgram Unit := do
  let c ← page d
  match c.validationError with
  | some _ => pure ()
  | none =>
    match c.updateRemainTickets with
    | none => throw .argument
    | some remainingTickets =>
      try
        FirebaseHelper.updateEventsToFarmer d.uid c.eventId (c.formData remainingTickets)
        spawn (getEventList d)
        setPage d clearFields
      catch _ => pure ()

def deleteEvent : EventProgram Unit := do
  try
    let c ← page d
    FirebaseHelper.deleteFarmEvent d.uid c.eventId
    setPage d fun c =>
      { c with farmerEvents := c.farmerEvents.filter fun e => e.id ≠ some c.eventId }
    spawn (getEventList d)
  catch _ => pure ()

/-- `place` is what the geocoder finds, if anything. -/
def openGoogleMaps (lat lng : ℚ) (place : Option String) : EventProgram Unit := do
  setPage d fun c => { c with selectedLatLng := some (lat, lng) }
  try
    call .plain (fun w => (w, .ok ())) .state
    match place with
    | some address => setPage d fun c => { c with address := address, eventLocation := address }
    | none => pure ()
  catch _ => setPage d fun c => { c with address := "Unknown location" }

end EventController

inductive FormField where
  | name
  | date
  | number
  | description
  | location
  deriving DecidableEq

def FormField.write (text : String) (c : EventController) : FormField → EventController
  | .name => { c with eventName := text }
  | .date => { c with startDate := text }
  | .number => { c with eventMinimumNumber := text }
  | .description => { c with eventDescription := text }
  | .location => { c with eventLocation := text }

inductive TicketEvent where
  | openFarm (page : ℕ) (d : Device) (farmerId : Uid) (farmName : String)
  | selectEvent (page index : ℕ)
  | bookEvents (page : ℕ)
  | openEvents (d : Device)
  | editEvent (d : Device) (index : ℕ)
  | newEvent (d : Device)
  | countVisitors (d : Device) (up : Bool)
  | typeText (d : Device) (field : FormField) (text : String)
  | pickLocation (d : Device) (lat lng : ℚ) (place : Option String)
  | postEvents (d : Device)
  | updateEvents (d : Device)
  | deleteEvent (d : Device)
  | clock (now : DateTime)

def EventController.countVisitors (up : Bool) (c : EventController) : EventController :=
  if up then
    { c with
      maxNumberOfVisit := int64 (c.maxNumberOfVisit + 1)
      eventMinimumNumber := toString (int64 (c.maxNumberOfVisit + 1)) }
  else if c.maxNumberOfVisit > 0 then
    { c with
      maxNumberOfVisit := c.maxNumberOfVisit - 1
      eventMinimumNumber := toString (c.maxNumberOfVisit - 1) }
  else c

def ticketProgram : TicketEvent → EventProgram Unit
  | .openFarm page d farmerId farmName => ProductController.openFarm page d farmerId farmName
  | .selectEvent page index => ProductController.selectEvent page index
  | .bookEvents page => ProductController.bookEvents ids page
  | .openEvents d => EventController.getEventList d
  | .editEvent d index => EventController.setPage d fun c =>
    match c.farmerEvents[index]? with
    | some arguments => c.updateFields arguments
    | none => c
  | .newEvent d => EventController.setPage d EventController.clearFields
  | .countVisitors d up => EventController.setPage d (EventController.countVisitors up)
  | .typeText d field text => EventController.setPage d fun c => field.write text c
  | .pickLocation d lat lng place => EventController.openGoogleMaps d lat lng place
  | .postEvents d => EventController.postEvents ids d
  | .updateEvents d => EventController.updateEvents d
  | .deleteEvent d => EventController.deleteEvent d
  | .clock now => change fun w => { w with now := now }

def ticketHandler (e : TicketEvent) : Task EventWorld EventAccess Bool :=
  (ticketProgram ids e).task

abbrev TicketMarket := Pool EventWorld EventAccess Bool

end Gherass
