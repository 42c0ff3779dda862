import Gherass.EventControllers
import Gherass.ListSums

set_option autoImplicit false

/-!
# Tickets and bookings of an event

What the pages' programs leave alone of one event's account: its stored numbers and the
number of its bookings.
-/
namespace Gherass

open EventLoop EventLoop.Async FirebaseHelper ListSums

namespace EventWorld

/-- The stored numbers of an event, with the farmer it belongs to. -/
structure Tickets where
  farmerId : Uid
  maxNumbers : String
  remainingTickets : String
  deriving DecidableEq

def tickets (w : EventWorld) (id : String) : Option Tickets :=
  w.events[id]?.map fun e => ⟨e.farmerId, e.maxNumbers, e.remainingTickets⟩

def booked (w : EventWorld) (id : String) : ℤ :=
  (w.bookings.toList.map fun b => if b.2.id = some id then 1 else 0).sum

/-- The page and the map that a press on `Book` is about. -/
def selected? (s : EventWorld) (p : ℕ) : Option (ProductController × EventData) := do
  let c ← s.farmPages p
  let ref ← c.farmerEventItem.head?
  let e ← c.maps[ref]?
  pure (c, e)

theorem newId_free (ids : IdSupply) (w : EventWorld) : w.newId ids ∉ w.usedIds := ids.fresh _ _

theorem used_of_tickets {w : EventWorld} {id : String} {e : Tickets} (h : w.tickets id = some e) :
    id ∈ w.usedIds := by
  obtain ⟨e', he', -⟩ := Option.map_eq_some_iff.1 h
  have hkey : id ∈ w.events.keys :=
    Std.TreeMap.mem_keys.2 (Std.TreeMap.mem_iff_isSome_getElem?.2 (by simp [he']))
  simp [usedIds, hkey]

end EventWorld

def bystander (id : String) : Contract EventWorld EventAccess where
  inv s := id ∈ s.usedIds
  rel s t := t.booked id = s.booked id ∧ (t.tickets id = s.tickets id ∨ t.tickets id = none) ∧
    ∀ p ref e, s.map? p ref = some e → ∃ e', t.map? p ref = some e' ∧ e'.id = e.id
  shows _ _ := True
  refl s := ⟨rfl, .inl rfl, fun _ _ e he => ⟨e, he, rfl⟩⟩
  trans := by
    rintro s t u ⟨hb, ht, hm⟩ ⟨hb', ht', hm'⟩
    refine ⟨hb'.trans hb, ?_, fun p ref e he => ?_⟩
    · rcases ht' with ht' | ht'
      · exact ht.imp ht'.trans ht'.trans
      · exact .inr ht'
    · obtain ⟨e', he', hid⟩ := hm p ref e he
      obtain ⟨e'', he'', hid'⟩ := hm' p ref e' he'
      exact ⟨e'', he'', hid'.trans hid⟩

section Effects

variable {id : String} {w : EventWorld}

theorem selected?_eq {p : ℕ} {c : ProductController} {ref : ℕ} {rest : List ℕ}
    (hc : w.farmPages p = some c) (hitem : c.farmerEventItem = ref :: rest) :
    w.selected? p = (w.map? p ref).map fun e => (c, e) := by
  simp only [EventWorld.selected?, EventWorld.map?, hc, hitem, Option.bind_some,
    Option.bind_eq_bind, List.head?_cons]
  cases c.maps[ref]? with
  | none => rfl
  | some e => rfl

theorem map?_update (p q ref : ℕ) (c : Option ProductController) :
    ({ w with farmPages := Function.update w.farmPages p c } : EventWorld).map? q ref =
      if q = p then c.bind fun c => c.maps[ref]? else w.map? q ref := by
  simp only [EventWorld.map?, Function.update_apply]
  split
  · rfl
  · rfl

theorem keeps_eventPage (d : Device) (f : EventController → EventController) :
    (bystander id).Keeps fun w => w.setEventPage d f := fun s hs => ⟨hs, (bystander id).refl s⟩

theorem keeps_farmPage (p : ℕ) {f : ProductController → ProductController}
    (hf : ∀ (c : ProductController) (ref : ℕ) (e : EventData), c.maps[ref]? = some e →
      ∃ e', (f c).maps[ref]? = some e' ∧ e'.id = e.id) :
    (bystander id).Keeps fun w => w.setFarmPage p f := by
  refine fun s hs => ⟨hs, rfl, .inl rfl, fun q ref e he => ?_⟩
  simp only [EventWorld.setFarmPage, map?_update]
  split
  case isTrue h =>
    subst h
    obtain ⟨c, hc, hmap⟩ := Option.bind_eq_some_iff.1 he
    rw [hc]
    exact hf c ref e hmap
  case isFalse => exact ⟨e, he, rfl⟩

theorem keeps_setMap (p ref : ℕ) {f : EventData → EventData} (hf : ∀ e, (f e).id = e.id) :
    (bystander id).Keeps fun w => w.setMap p ref f := by
  refine keeps_farmPage p fun c i e he => ?_
  by_cases h : ref = i
  · subst h
    exact ⟨f e, by simp [he], hf e⟩
  · exact ⟨e, by simp [h, he], rfl⟩

theorem keeps_openPage (p : ℕ) (c : ProductController) (s : EventWorld)
    (hp : s.farmPages p = none) (hs : (bystander id).inv s) :
    (bystander id).inv { s with farmPages := Function.update s.farmPages p (some c) } ∧
      (bystander id).rel s { s with farmPages := Function.update s.farmPages p (some c) } := by
  refine ⟨hs, rfl, .inl rfl, fun q ref e he => ?_⟩
  rw [map?_update]
  split
  case isTrue h =>
    subst h
    simp [EventWorld.map?, hp] at he
  case isFalse => exact ⟨e, he, rfl⟩

theorem keeps_deleteEventDoc (uid : Uid) (eventId : String) :
    (bystander id).Keeps (deleteEventDoc uid eventId) := by
  intro s hs
  unfold deleteEventDoc
  split
  case isTrue h =>
    refine ⟨?_, rfl, ?_, fun p ref e he => ⟨e, he, rfl⟩⟩
    · simp only [bystander, EventWorld.usedIds, List.mem_append, List.mem_cons,
        Std.TreeMap.mem_keys, Std.TreeMap.mem_erase] at hs ⊢
      by_cases heq : eventId = id
      · simp [heq]
      · simpa [heq, Ne.symm heq] using hs
    · simp only [EventWorld.tickets, Std.TreeMap.getElem?_erase]
      split
      · exact .inr rfl
      · exact .inl rfl
  case isFalse => exact ⟨hs, (bystander id).refl s⟩

theorem usedIds_insert {e : FarmEvent} (eventId : String) (hs : id ∈ w.usedIds) :
    id ∈ ({ w with events := w.events.insert eventId e } : EventWorld).usedIds := by
  simp only [EventWorld.usedIds, List.mem_append, Std.TreeMap.mem_keys, Std.TreeMap.mem_insert]
    at hs ⊢
  grind

theorem usedIds_updateEventDoc (uid : Uid) (eventId : String) (f : EventData → EventData)
    (hs : id ∈ w.usedIds) : id ∈ (updateEventDoc uid eventId f w).1.usedIds := by
  unfold updateEventDoc
  split
  · split
    · exact usedIds_insert eventId hs
    · exact hs
  · exact hs

theorem booked_updateEventDoc (uid : Uid) (eventId : String) (f : EventData → EventData) :
    (updateEventDoc uid eventId f w).1.booked = w.booked := by
  unfold updateEventDoc
  split
  · split
    · rfl
    · rfl
  · rfl

theorem map?_updateEventDoc (uid : Uid) (eventId : String) (f : EventData → EventData)
    (p ref : ℕ) : (updateEventDoc uid eventId f w).1.map? p ref = w.map? p ref := by
  unfold updateEventDoc
  split
  · split
    · rfl
    · rfl
  · rfl

theorem tickets_updateEventDoc_congr {w' : EventWorld} (h : w'.events = w.events) (uid : Uid)
    (eventId : String) (f : EventData → EventData) :
    (updateEventDoc uid eventId f w').1.tickets id = (updateEventDoc uid eventId f w).1.tickets id := by
  unfold updateEventDoc
  rw [h]
  split
  · split
    · rfl
    · simp only [EventWorld.tickets, h]
  · simp only [EventWorld.tickets, h]

theorem tickets_updateOther (uid : Uid) {eventId : String} (hne : eventId ≠ id)
    (f : EventData → EventData) : (updateEventDoc uid eventId f w).1.tickets id = w.tickets id := by
  unfold updateEventDoc
  split
  · split
    · simp [EventWorld.tickets, Std.TreeMap.getElem?_insert, hne]
    · rfl
  · rfl

theorem keeps_updateEventDoc (uid : Uid) (eventId : String) {f : EventData → EventData}
    (hmax : ∀ e, (f e).maxNumbers = e.maxNumbers)
    (hremaining : ∀ e, (f e).remainingTickets = e.remainingTickets) :
    (bystander id).Keeps fun w => (updateEventDoc uid eventId f w).1 := by
  have htickets : ∀ s : EventWorld,
      (updateEventDoc uid eventId f s).1.tickets id = s.tickets id := fun s => by
    by_cases hne : eventId = id
    · subst hne
      unfold updateEventDoc
      split
      · rename_i e he
        split
        · simp [EventWorld.tickets, he, hmax, hremaining]
        · rfl
      · rfl
    · exact tickets_updateOther uid hne f
  exact fun s hs => ⟨usedIds_updateEventDoc uid eventId f hs,
    congrFun (booked_updateEventDoc uid eventId f) id, .inl (htickets s),
    fun p ref e he => ⟨e, (map?_updateEventDoc uid eventId f p ref).trans he, rfl⟩⟩

theorem keeps_updateOther (uid : Uid) {eventId : String} (hne : eventId ≠ id)
    (f : EventData → EventData) :
    (bystander id).Keeps fun w => (updateEventDoc uid eventId f w).1 := by
  exact fun s hs => ⟨usedIds_updateEventDoc uid eventId f hs,
    congrFun (booked_updateEventDoc uid eventId f) id, .inl (tickets_updateOther uid hne f),
    fun p ref e he => ⟨e, (map?_updateEventDoc uid eventId f p ref).trans he, rfl⟩⟩

theorem updateEventDoc_stored {uid : Uid} {e : FarmEvent} (he : w.events[id]? = some e)
    (hf : e.farmerId = uid) (f : EventData → EventData) : updateEventDoc uid id f w =
      ({ w with events := w.events.insert id { e with toEventData := f e.toEventData } },
        .ok ()) := by
  simp [updateEventDoc, he, hf]

theorem tickets_insert (e : FarmEvent) :
    ({ w with events := w.events.insert id e } : EventWorld).tickets id =
      some ⟨e.farmerId, e.maxNumbers, e.remainingTickets⟩ := by
  simp [EventWorld.tickets]

theorem keeps_addEventDoc (ids : IdSupply) (uid : Uid) (e : EventData) :
    (bystander id).Keeps fun w => (addEventDoc ids uid e w).1 := by
  intro s hs
  have hne : s.newId ids ≠ id := fun h => s.newId_free ids (h ▸ hs)
  refine ⟨usedIds_insert _ hs, rfl, .inl ?_, fun p ref e he => ⟨e, he, rfl⟩⟩
  simp [EventWorld.tickets, addEventDoc, Std.TreeMap.getElem?_insert, hne]

theorem keeps_updateBooking (bookingId : String) {f : EventData → EventData}
    (hf : ∀ e, (f e).id = e.id) :
    (bystander id).Keeps fun w => (updateBooking bookingId f w).1 := by
  intro s hs
  unfold updateBooking
  dsimp only
  split
  case h_2 => exact ⟨hs, (bystander id).refl s⟩
  case h_1 b hb =>
    refine ⟨?_, ?_, .inl rfl, fun p ref e he => ⟨e, he, rfl⟩⟩
    · simp only [bystander, EventWorld.usedIds, List.mem_append, Std.TreeMap.mem_keys,
        Std.TreeMap.mem_insert] at hs ⊢
      grind
    · exact sum_toList_same (fun b : Booking => if b.id = some id then 1 else 0) hb (by simp [hf])

theorem usedIds_addBooking (ids : IdSupply) (uid : Uid) (e : EventData) (hs : id ∈ w.usedIds) :
    id ∈ (addBooking ids uid e w).1.usedIds := by
  simp only [addBooking, EventWorld.usedIds, List.mem_append, Std.TreeMap.mem_keys,
    Std.TreeMap.mem_insert] at hs ⊢
  grind

theorem booked_addBooking (ids : IdSupply) (uid : Uid) (e : EventData) :
    (addBooking ids uid e w).1.booked id = (if e.id = some id then 1 else 0) + w.booked id := by
  have hfree : w.bookings[w.newId ids]? = none := by
    refine Std.TreeMap.getElem?_eq_none fun h => w.newId_free ids ?_
    simp [EventWorld.usedIds, Std.TreeMap.mem_keys.2 h]
  exact sum_toList_fresh (fun b : Booking => if b.id = some id then 1 else 0) _ hfree

end Effects

/-- The contract allows what the lists, the forms and new events do. -/
structure AllowsLists (C : Contract EventWorld EventAccess) : Prop where
  plain : ∀ s, C.inv s → C.shows .plain s
  deletes : ∀ uid eventId, C.Keeps (deleteEventDoc uid eventId)
  adds : ∀ ids uid e, e.id = none → C.Keeps fun w => (addEventDoc ids uid e w).1
  names : ∀ uid eventId, C.Keeps fun w =>
    (updateEventDoc uid eventId (fun e => { e with id := some eventId }) w).1
  fills : ∀ d f, C.Keeps fun w => w.setEventPage d f
  selects : ∀ (p : ℕ) (items : ProductController → List ℕ), C.Keeps fun w =>
    w.setFarmPage p fun c => { c with farmerEventItem := items c }
  showsBooked : ∀ p events, C.Keeps fun w =>
    w.setFarmPage p fun c => { c with bookedEvents := events }
  clock : ∀ now, C.Keeps fun w => { w with now := now }

section Programs

variable {C : Contract EventWorld EventAccess} (hC : AllowsLists C) (ids : IdSupply) (p : ℕ)
  (d : Device)

theorem quiet_checkDoc (eventId : String) : Quiet C (checkDoc eventId) := by
  unfold checkDoc
  split
  · exact .throw _
  · exact .pure _

include hC

theorem quiet_query {α : Type} (f : EventWorld → α) : Quiet C (query f) :=
  .call C.keeps_id hC.plain

theorem quiet_deleteEach (uid : Uid) (docs : List String) : Quiet C (deleteEach uid docs) := by
  induction docs with
  | nil => exact .pure _
  | cons doc docs ih => exact .bind (.call (hC.deletes uid doc) hC.plain) fun _ => ih

theorem quiet_removeExpiredDoc (uid : Uid) (formattedDate : String) :
    Quiet C (removeExpiredDoc uid formattedDate) :=
  .bind (quiet_query hC _) fun docs => quiet_deleteEach hC uid docs

theorem quiet_fetch {α : Type} [DecidableEq α] (f : EventWorld → List α) :
    Quiet C (tryCatch (do
      let docs ← query f
      if docs ≠ [] then pure (some docs) else pure none) fun _ => pure none) := by
  refine .tryCatch (.bind (quiet_query hC f) fun docs => ?_) fun _ => .pure _
  split
  · exact .pure _
  · exact .pure _

theorem quiet_fetchFarmerEvents (farmerId : Uid) : Quiet C (fetchFarmerEvents farmerId) :=
  quiet_fetch hC _

theorem quiet_fetchBookedEvents (customerId : Uid) : Quiet C (fetchBookedEvents customerId) :=
  quiet_fetch hC _

theorem quiet_farm_getEventList (farmerId : Uid) (hshows : ∀ events, C.Keeps fun w =>
    w.setFarmPage p fun c => c.assignEvents events) :
    Quiet C (ProductController.getEventList p d farmerId) := by
  refine .tryCatch (.bind (.look _) fun now => .bind (quiet_removeExpiredDoc hC _ _) fun _ =>
    .bind (quiet_fetchFarmerEvents hC _) fun response => ?_) fun _ => .pure _
  cases response with
  | none => exact .pure _
  | some events => exact .change (hshows events)

theorem quiet_getBookedEventsList : Quiet C (ProductController.getBookedEventsList p d) := by
  refine .tryCatch (.bind (quiet_fetchBookedEvents hC _) fun response => ?_) fun _ => .pure _
  cases response with
  | none => exact .pure _
  | some events => exact .change (hC.showsBooked p events)

theorem quiet_reload (c : ProductController) (hshows : ∀ events, C.Keeps fun w =>
    w.setFarmPage p fun c => c.assignEvents events) :
    Quiet C (ProductController.reload p c) :=
  .bind (.spawn (quiet_getBookedEventsList hC p _)) fun _ =>
    .spawn (quiet_farm_getEventList hC p _ _ hshows)

theorem quiet_selectEvent (index : ℕ) : Quiet C (ProductController.selectEvent p index) := by
  let items (c : ProductController) : List ℕ :=
    (c.farmerEvents[index]?.map ([·])).getD c.farmerEventItem
  have selected : ProductController.selectEvent p index =
      ProductController.setPage p fun c => { c with farmerEventItem := items c } := by
    refine congrArg (ProductController.setPage p) (funext fun c => ?_)
    simp only [items]
    cases c.farmerEvents[index]? with
    | some ref => rfl
    | none => rfl
  rw [selected]
  exact .change (hC.selects p items)

theorem quiet_setEventPage (f : EventController → EventController) :
    Quiet C (EventController.setPage d f) := .change (hC.fills d f)

theorem quiet_own_getEventList : Quiet C (EventController.getEventList d) := by
  refine .tryCatch (.bind (.look _) fun now => .bind (quiet_removeExpiredDoc hC _ _) fun _ =>
    .bind (quiet_fetchFarmerEvents hC _) fun response => ?_) fun _ => .pure _
  cases response with
  | none => exact .pure _
  | some events => exact quiet_setEventPage hC d _

theorem quiet_addEventsToFarmer (uid : Uid) {eventData : EventData} (hid : eventData.id = none) :
    Quiet C (addEventsToFarmer ids uid eventData) :=
  .tryCatch (.bind (.call (hC.adds ids uid eventData hid) hC.plain) fun _ =>
    .call (hC.names uid _) hC.plain) fun _ => .pure _

theorem quiet_afterForm : Quiet C (do
    spawn (EventController.getEventList d)
    EventController.setPage d EventController.clearFields) :=
  .bind (.spawn (quiet_own_getEventList hC d)) fun _ => quiet_setEventPage hC d _

theorem quiet_postEvents : Quiet C (EventController.postEvents ids d) := by
  refine .bind (.look _) fun c => ?_
  cases c.validationError with
  | some error => exact .pure _
  | none => exact .tryCatch (.bind (quiet_addEventsToFarmer hC ids _ rfl) fun _ =>
      quiet_afterForm hC d) fun _ => .pure _

theorem quiet_deleteFarmEvent (uid : Uid) (eventId : String) :
    Quiet C (deleteFarmEvent uid eventId) :=
  .tryCatch (.bind (quiet_checkDoc eventId) fun _ => .call (hC.deletes uid eventId) hC.plain)
    fun _ => .pure _

theorem quiet_deleteEvent : Quiet C (EventController.deleteEvent d) :=
  .tryCatch (.bind (.look _) fun _ => .bind (quiet_deleteFarmEvent hC _ _) fun _ =>
    .bind (quiet_setEventPage hC d _) fun _ => .spawn (quiet_own_getEventList hC d))
    fun _ => .pure _

theorem quiet_openGoogleMaps (lat lng : ℚ) (place : Option String) :
    Quiet C (EventController.openGoogleMaps d lat lng place) := by
  refine .bind (quiet_setEventPage hC d _) fun _ => .tryCatch (.bind
    (.call C.keeps_id hC.plain) fun _ => ?_) fun _ => quiet_setEventPage hC d _
  cases place with
  | some address => exact quiet_setEventPage hC d _
  | none => exact .pure _

omit hC

def TicketEvent.Passes : TicketEvent → Prop
  | .bookEvents _ => False
  | .updateEvents _ => False
  | _ => True

include hC

theorem quiet_ticketProgram {e : TicketEvent} (he : e.Passes)
    (hopen : ∀ page d farmerId farmName, e = .openFarm page d farmerId farmName →
      Quiet C (ProductController.openFarm page d farmerId farmName)) :
    Quiet C (ticketProgram ids e) := by
  cases e with
  | bookEvents page => exact he.elim
  | updateEvents d => exact he.elim
  | openFarm page d farmerId farmName => exact hopen page d farmerId farmName rfl
  | selectEvent page index => exact quiet_selectEvent hC page index
  | openEvents d => exact quiet_own_getEventList hC d
  | editEvent d index => exact quiet_setEventPage hC d _
  | newEvent d => exact quiet_setEventPage hC d _
  | countVisitors d up => exact quiet_setEventPage hC d _
  | typeText d field text => exact quiet_setEventPage hC d _
  | pickLocation d lat lng place => exact quiet_openGoogleMaps hC d lat lng place
  | postEvents d => exact quiet_postEvents hC ids d
  | deleteEvent d => exact quiet_deleteEvent hC d
  | clock now => exact .change (hC.clock now)

end Programs

section Bystander

variable (id : String) (ids : IdSupply) (p : ℕ) (d : Device)

theorem bystander_allowsLists : AllowsLists (bystander id) where
  plain _ _ := trivial
  deletes := keeps_deleteEventDoc
  adds ids uid e _ := keeps_addEventDoc ids uid e
  names uid eventId := keeps_updateEventDoc uid eventId (fun _ => rfl) fun _ => rfl
  fills := keeps_eventPage
  selects p _ := keeps_farmPage p fun _ _ e he => ⟨e, he, rfl⟩
  showsBooked p _ := keeps_farmPage p fun _ _ e he => ⟨e, he, rfl⟩
  clock _ s hs := ⟨hs, (bystander id).refl s⟩

theorem keeps_assignEvents (events : List EventData) : (bystander id).Keeps fun w =>
    w.setFarmPage p fun c => c.assignEvents events := by
  refine keeps_farmPage p fun c ref e he => ⟨e, ?_, rfl⟩
  have hlt : ref < c.maps.length := (List.getElem?_eq_some_iff.1 he).1
  simp [ProductController.assignEvents, List.getElem?_append_left hlt, he]

theorem bystander_openFarm (farmerId : Uid) (farmName : String) :
    Quiet (bystander id) (ProductController.openFarm p d farmerId farmName) := by
  have lists := bystander_allowsLists id
  refine .bind (.seg fun s hs => ?_) fun opened => ?_
  · cases hp : s.farmPages p with
    | some c => simpa only [hp] using ⟨hs, (bystander id).refl s⟩
    | none => simpa only [hp] using keeps_openPage p _ s hp hs
  · cases opened with
    | true =>
      exact .bind (.spawn (quiet_farm_getEventList lists p d _ (keeps_assignEvents id p)))
        fun _ => .spawn (quiet_getBookedEventsList lists p d)
    | false => exact .pure _

theorem bystander_program {e : TicketEvent} (he : e.Passes) :
    Quiet (bystander id) (ticketProgram ids e) :=
  quiet_ticketProgram (bystander_allowsLists id) ids he fun page d farmerId farmName _ =>
    bystander_openFarm id page d farmerId farmName

theorem bystander_setUnderWay (uid : Uid) (eventId : String) (f : ℕ → ℕ) :
    Quiet (bystander id) (change fun w => w.setUnderWay uid eventId f : EventProgram Unit) :=
  .change fun s hs => ⟨hs, (bystander id).refl s⟩

theorem bystander_afterBooking (c : ProductController) : Quiet (bystander id) (do
    ProductController.reload p c
    ProductController.showDialog p) :=
  .bind (quiet_reload (bystander_allowsLists id) p c (keeps_assignEvents id p)) fun _ =>
    .change (keeps_farmPage p fun _ _ e he => ⟨e, he, rfl⟩)

end Bystander

end Gherass
