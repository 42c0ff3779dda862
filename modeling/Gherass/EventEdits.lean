import Gherass.CapacityEdits
import Gherass.ExpiredEvents

set_option autoImplicit false

/-!
# Editing an event

The page that edits an event loads its texts. The place is what was last picked on the map, for
whichever event.
-/
namespace Gherass

open EventLoop EventLoop.Async FirebaseHelper

def afterTicket (ids : IdSupply) (e : TicketEvent) (w : EventWorld) : EventWorld :=
  ((ticketHandler ids e).alone (fun _ => true) w).2

/-- The farmer opens an event of the list, and saves it as it is. -/
def editAndSave (ids : IdSupply) (d : Device) (index : ℕ) (w : EventWorld) : EventWorld :=
  afterTicket ids (.updateEvents d) (afterTicket ids (.editEvent d index) w)

/-- The fields without which the form is refused. -/
structure EventData.Complete (e : EventData) : Prop where
  name : e.name ≠ ""
  startDate : e.startDate ≠ ""
  description : e.description ≠ ""
  location : e.location ≠ ""
  maxNumbers : e.maxNumbers ≠ ""

/-- The place that the page holds is the event's. -/
structure EventController.HoldsPlace (c : EventController) (e : EventData) : Prop where
  location : c.address = e.location
  lat : c.selectedLatLng.map (·.1) = e.lat
  lng : c.selectedLatLng.map (·.2) = e.lng

/-- A count of tickets as it is written by a program. -/
def isCount (text : String) : Prop := ∃ n : ℤ, 0 ≤ n ∧ intTryParse text = some n ∧ toString n = text

/-- The numbers of the event cannot be read, so that saving it fails. -/
def EventData.unread (e : EventData) : Prop :=
  intTryParse e.maxNumbers = none ∨ intTryParse e.remainingTickets = none

section Editing

variable {ids : IdSupply} {d : Device} {index : ℕ} {w : EventWorld} {c : EventController}
  {e : EventData} {id : String}

theorem afterTicket_editEvent (h : (w.eventPages d).farmerEvents[index]? = some e) :
    afterTicket ids (.editEvent d index) w = w.setEventPage d fun c => c.updateFields e := by
  have run : Yields (fun _ => true) (ticketProgram ids (.editEvent d index)) w (.ok ()) _ :=
    .change _
  refine run.task.trans ?_
  rw [EventWorld.setEventPage, EventWorld.setEventPage, h]

theorem validationError_updateFields (h : e.Complete) :
    (c.updateFields e).validationError = none := by
  simp [EventController.validationError, EventController.updateFields, h.name, h.startDate,
    h.description, h.location, h.maxNumbers]

theorem tickets_of_unread (h : e.Complete) (hunread : e.unread) :
    (c.updateFields e).updateRemainTickets = none := by
  have filled : (c.updateFields e).maxMembersForTickets ≠ "" ∨
      (c.updateFields e).remainingTickets ≠ "" := .inl h.maxNumbers
  have maxNumbers : (c.updateFields e).eventMinimumNumber = e.maxNumbers := rfl
  have remaining : (c.updateFields e).remainingTickets = e.remainingTickets := rfl
  rw [EventController.updateRemainTickets, if_pos filled, maxNumbers, remaining]
  rcases hunread with hmax | hremaining
  · rw [hmax]
    cases intTryParse e.remainingTickets with
    | none => rfl
    | some r => rfl
  · rw [hremaining]
    rfl

theorem tickets_of_read {m r : ℤ} (hmax : intTryParse e.maxNumbers = some m)
    (hremaining : intTryParse e.remainingTickets = some r) :
    (c.updateFields e).updateRemainTickets = some (if r ≥ 0 then toString r else "0") := by
  have balance := updateRemainTickets_eq (c := c.updateFields e) hmax hremaining
  have again : (c.updateFields e).eventMinimumNumber = e.maxNumbers := rfl
  rw [again, hmax, Option.map_some, Int.sub_self, int64_of_fits fits_zero, Int.add_zero,
    int64_of_fits (fits_of_tryParse hremaining)] at balance
  exact balance

theorem balance_eq_iff {r : ℤ} (hremaining : intTryParse e.remainingTickets = some r) :
    (if r ≥ 0 then toString r else "0") = e.remainingTickets ↔ isCount e.remainingTickets := by
  constructor
  · intro h
    rw [← h]
    split
    · exact ⟨r, ‹_›, intTryParse_toString (fits_of_tryParse hremaining), rfl⟩
    · exact ⟨0, le_refl 0, by decide +kernel, rfl⟩
  · rintro ⟨n, hn, hparse, htext⟩
    obtain rfl : n = r := Option.some_inj.1 (hparse.symm.trans hremaining)
    rw [if_pos hn, htext]

theorem formData_eq_iff {text : String} :
    (c.updateFields e).formData text e = e ↔ text = e.remainingTickets ∧ c.HoldsPlace e := by
  constructor
  · intro h
    exact ⟨congrArg (·.remainingTickets) h, congrArg (·.location) h, congrArg (·.lat) h,
      congrArg (·.lng) h⟩
  · rintro ⟨rfl, hlocation, hlat, hlng⟩
    simp only [EventController.formData, EventController.updateFields]
    rw [hlocation, hlat, hlng]

end Editing

section Saving

variable {ids : IdSupply} {d : Device} {w : EventWorld} {e : FarmEvent} {id text : String}

theorem save_unread (hvalid : (w.eventPages d).validationError = none)
    (htext : (w.eventPages d).updateRemainTickets = none) :
    afterTicket ids (.updateEvents d) w = w := by
  rw [afterTicket, updateEvents_page, hvalid, htext]
  have failed : Yields (fun _ => true) (throw .argument : EventProgram Unit) w (.error .argument)
      w := .throw _
  exact failed.task

variable (e text) in
theorem save_read (hid : (w.eventPages d).eventId = id) (hne : id ≠ "")
    (hvalid : (w.eventPages d).validationError = none)
    (htext : (w.eventPages d).updateRemainTickets = some text)
    (he : w.events[id]? = some e) (hfarmer : e.farmerId = d.uid) :
    (afterTicket ids (.updateEvents d) w).events[id]? =
      if ((w.eventPages d).formData text e.toEventData).startDate < formatDateTime w.now then none
      else some ⟨(w.eventPages d).formData text e.toEventData, e.farmerId⟩ := by
  obtain ⟨e', hnew⟩ : ∃ e' : FarmEvent,
    e' = ⟨(w.eventPages d).formData text e.toEventData, e.farmerId⟩ := ⟨_, rfl⟩
  let stored : EventWorld := { w with events := w.events.insert id e' }
  have store : updateEventDoc d.uid id ((w.eventPages d).formData text) w = (stored, .ok ()) := by
    rw [updateEventDoc, he]
    dsimp only
    rw [if_pos hfarmer, ← hnew]
  have write : Yields (fun _ => true) (updateEventsToFarmer d.uid id
      ((w.eventPages d).formData text)) w (.ok ()) stored := by
    have named : Yields (fun _ => true) (checkDoc id) w (.ok ()) w := by
      rw [checkDoc, if_neg hne]
      exact .pure ()
    exact .tryCatch (named.bind (.call_eq rfl store))
  have run : Yields (fun _ => true) (do
      updateEventsToFarmer d.uid id ((w.eventPages d).formData text)
      spawn (EventController.getEventList d)
      EventController.setPage d EventController.clearFields) w (.ok ()) _ :=
    write.bind (.bind (.spawn _) (.change _))
  have after : (afterTicket ids (.updateEvents d) w).events =
      (afterList (EventController.getEventList d) stored).events := by
    rw [afterTicket, updateEvents_page, hvalid, htext, hid]
    dsimp only
    rw [run.tryCatch.task]
    rfl
  have found : stored.events[id]? = some e' := Std.TreeMap.getElem?_insert_self
  have own : e'.farmerId = d.uid := by rw [hnew, hfarmer]
  have swept : id ∈ expiredDocs d.uid (formatDateTime w.now) stored ∧ e'.farmerId = d.uid ↔
      e'.startDate < formatDateTime w.now := by
    rw [mem_expiredDocs found, and_iff_left own, and_iff_right own]
  rw [after, events_afterList (.event (d := d)), deleteDocs_stored found, if_congr swept rfl rfl,
    hnew]

variable {index : ℕ} (hlist : (w.eventPages d).farmerEvents[index]? = some e.toEventData)
  (hcomplete : e.Complete)

def openedPage (d : Device) (e : EventData) (w : EventWorld) : EventController :=
  (w.eventPages d).updateFields e

include hlist in
theorem editAndSave_eq : editAndSave ids d index w = afterTicket ids (.updateEvents d)
    (w.setEventPage d fun c => c.updateFields e.toEventData) := by
  rw [editAndSave, afterTicket_editEvent hlist]

theorem opened_page : (w.setEventPage d fun c => c.updateFields e.toEventData).eventPages d =
    openedPage d e.toEventData w := Function.update_self ..

include hlist hcomplete in
theorem editAndSave_unread (hunread : e.unread) :
    (editAndSave ids d index w).events = w.events := by
  rw [editAndSave_eq hlist, save_unread]
  · rfl
  · rw [opened_page]
    exact validationError_updateFields hcomplete
  · rw [opened_page]
    exact tickets_of_unread hcomplete hunread

include hlist hcomplete in
theorem editAndSave_read (hid : e.id = some id) (hne : id ≠ "") (he : w.events[id]? = some e)
    (hfarmer : e.farmerId = d.uid) {m r : ℤ} (hmax : intTryParse e.maxNumbers = some m)
    (hremaining : intTryParse e.remainingTickets = some r) :
    (editAndSave ids d index w).events[id]? =
      if e.startDate < formatDateTime w.now then none
      else some ⟨(openedPage d e.toEventData w).formData (if r ≥ 0 then toString r else "0")
        e.toEventData, e.farmerId⟩ := by
  have chosen : (openedPage d e.toEventData w).eventId = id := congrArg (·.getD "null") hid
  rw [editAndSave_eq hlist, save_read e (if r ≥ 0 then toString r else "0")]
  · rw [opened_page]
    rfl
  · rw [opened_page]
    exact chosen
  · exact hne
  · rw [opened_page]
    exact validationError_updateFields hcomplete
  · rw [opened_page]
    exact tickets_of_read hmax hremaining
  · exact he
  · exact hfarmer

end Saving

/-- An event that is opened and saved stays as it is exactly if saving it fails, or if it is not
    over, its place is the one that was last picked, and its remaining tickets are a count. -/
theorem editAndSave_iff (ids : IdSupply) (d : Device) {w : EventWorld} {index : ℕ} {id : String}
    {e : FarmEvent} (hlist : (w.eventPages d).farmerEvents[index]? = some e.toEventData)
    (hid : e.id = some id) (hne : id ≠ "") (he : w.events[id]? = some e)
    (hfarmer : e.farmerId = d.uid) (hcomplete : e.Complete) :
    (editAndSave ids d index w).events[id]? = some e ↔
      e.unread ∨ ¬ e.startDate < formatDateTime w.now ∧
        (w.eventPages d).HoldsPlace e.toEventData ∧ isCount e.remainingTickets := by
  by_cases hunread : e.unread
  · rw [editAndSave_unread hlist hcomplete hunread]
    exact iff_of_true he (.inl hunread)
  · obtain ⟨hmax, hremaining⟩ := not_or.1 hunread
    obtain ⟨m, hmax⟩ := Option.ne_none_iff_exists'.1 hmax
    obtain ⟨r, hremaining⟩ := Option.ne_none_iff_exists'.1 hremaining
    have same : (openedPage d e.toEventData w).formData (if r ≥ 0 then toString r else "0")
        e.toEventData = e.toEventData ↔ _ :=
      formData_eq_iff.trans (and_congr_left' (balance_eq_iff hremaining))
    rw [editAndSave_read hlist hcomplete hid hne he hfarmer hmax hremaining, or_iff_right hunread]
    by_cases hpast : e.startDate < formatDateTime w.now
    · rw [if_pos hpast]
      exact iff_of_false nofun fun h => h.1 hpast
    · rw [if_neg hpast, and_iff_right hpast, and_comm, ← same]
      constructor
      · intro h
        exact congrArg (·.toEventData) (Option.some_inj.1 h)
      · intro h
        rw [h]

def vineyardTasting : FarmEvent where
  id := some "tasting"
  name := "Tasting"
  startDate := "09 Jun 6:00 PM"
  maxNumbers := "20"
  remainingTickets := "12"
  description := "Grapes of the season"
  location := "Vineyard road"
  lat := some 24
  lng := some 39
  farmerId := tastingHost.uid

def vineyardPage (address : String) (selectedLatLng : Option (ℚ × ℚ)) : EventWorld where
  events := (∅ : Std.TreeMap String FarmEvent).insert "tasting" vineyardTasting
  eventPages := fun _ =>
    { farmerEvents := [vineyardTasting.toEventData]
      address := address
      selectedLatLng := selectedLatLng }

theorem vineyardPage_stored (address : String) (selectedLatLng : Option (ℚ × ℚ)) :
    (vineyardPage address selectedLatLng).events["tasting"]? = some vineyardTasting :=
  Std.TreeMap.getElem?_insert_self

theorem vineyardTasting_complete : vineyardTasting.Complete := by
  refine ⟨?_, ?_, ?_, ?_, ?_⟩
  all_goals decide

theorem vineyard_kept : (editAndSave .longer tastingHost 0
    (vineyardPage "Vineyard road" (some (24, 39)))).events["tasting"]? = some vineyardTasting := by
  refine (@editAndSave_iff .longer tastingHost _ 0 _ _ rfl rfl (by decide)
    (vineyardPage_stored ..) rfl vineyardTasting_complete).2 (.inr ⟨?_, ⟨rfl, rfl, rfl⟩, 12, ?_⟩)
  · decide
  · decide +kernel

/-- On a page on which no place was picked, the event loses its place. -/
theorem vineyard_lost : ¬ ∀ (w : EventWorld) (index : ℕ) (id : String) (e : FarmEvent),
    (w.eventPages tastingHost).farmerEvents[index]? = some e.toEventData → e.id = some id →
    id ≠ "" → w.events[id]? = some e → e.farmerId = tastingHost.uid → e.Complete →
    (editAndSave .longer tastingHost index w).events[id]? = some e := by
  intro h
  let w := vineyardPage "" none
  have kept := h w 0 "tasting" vineyardTasting rfl rfl (by decide) (vineyardPage_stored ..) rfl
    vineyardTasting_complete
  have hmax : intTryParse vineyardTasting.maxNumbers = some 20 := by decide +kernel
  have hremaining : intTryParse vineyardTasting.remainingTickets = some 12 := by decide +kernel
  rw [@editAndSave_read .longer tastingHost w vineyardTasting "tasting" 0 rfl
    vineyardTasting_complete rfl (by decide) (vineyardPage_stored ..) rfl 20 12 hmax hremaining]
    at kept
  split at kept
  case isTrue => cases kept
  case isFalse => exact absurd (congrArg (·.location) (Option.some_inj.1 kept)) (by decide)

end Gherass
