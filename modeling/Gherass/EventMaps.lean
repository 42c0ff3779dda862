import Gherass.EventControllers

set_option autoImplicit false

/-!
# What the pages know of an event

A farm's page books from the map it has read. What was known of an event when it was read and
cannot be lost is still known of the map, however old it is.
-/
namespace Gherass

open EventLoop EventLoop.Async FirebaseHelper

/-- Pages may hold maps of events that `Known` is true of, and book from them. -/
structure AllowsMaps (C : Contract EventWorld EventAccess)
    (Known : EventData → EventWorld → Prop) : Prop where
  shows : ∀ l s, C.inv s → C.shows l s
  stable : ∀ (e : EventData) s t, C.rel s t → Known e s → Known e t
  blank : ∀ s, Known {} s
  marked : ∀ (e : EventData) s farmName remainingTicket bookingId, Known e s →
    Known { e with farmName, remainingTicket, bookingId } s
  stored : ∀ s (id : String) (e : FarmEvent), C.inv s → s.events[id]? = some e →
    Known e.toEventData s
  held : ∀ s p c, C.inv s → s.farmPages p = some c → ∀ e ∈ c.maps, Known e s
  holds : ∀ s p (c : ProductController), C.inv s → (∀ e ∈ c.maps, Known e s) →
    C.inv { s with farmPages := Function.update s.farmPages p (some c) } ∧
      C.rel s { s with farmPages := Function.update s.farmPages p (some c) }
  counts : ∀ uid id f, C.Keeps fun w => w.setUnderWay uid id f
  deletes : ∀ uid id, C.Keeps (deleteEventDoc uid id)
  takes : ∀ s uid id e n, C.inv s → Known e s → e.id = some id →
    intTryParse e.remainingTickets = some n → 0 < n →
    C.inv (updateEventDoc uid id (fun e => { e with remainingTickets := toString (n - 1) }) s).1 ∧
      C.rel s (updateEventDoc uid id (fun e => { e with remainingTickets := toString (n - 1) }) s).1
  books : ∀ ids uid s e, C.inv s → Known e s →
    C.inv (addBooking ids uid e s).1 ∧ C.rel s (addBooking ids uid e s).1
  marksBooking : ∀ id bookingId, C.Keeps fun w =>
    (updateBooking id (fun b => { b with bookingId := some bookingId }) w).1

section Programs

variable {C : Contract EventWorld EventAccess} {Known : EventData → EventWorld → Prop}
  {g : Guard EventWorld EventAccess TicketEvent} (hC : AllowsMaps C Known) (ids : IdSupply)
  (p : ℕ) (d : Device)

include hC

theorem AllowsMaps.setPage {s : EventWorld} {f : ProductController → ProductController}
    (hs : C.inv s) (hf : ∀ c, s.farmPages p = some c → ∀ e ∈ (f c).maps, Known e s) :
    C.inv (s.setFarmPage p f) ∧ C.rel s (s.setFarmPage p f) := by
  unfold EventWorld.setFarmPage
  cases hp : s.farmPages p with
  | none =>
    rw [Option.map_none, Function.update_eq_self_iff.2 hp.symm]
    exact ⟨hs, C.refl s⟩
  | some c => exact hC.holds s p (f c) hs (hf c hp)

theorem AllowsMaps.keepsMaps {f : ProductController → ProductController}
    (hf : ∀ c, (f c).maps = c.maps) : C.Keeps fun w => w.setFarmPage p f := by
  refine fun s hs => hC.setPage p hs fun c hc e he => ?_
  rw [hf c] at he
  exact hC.held s p c hs hc e he

theorem AllowsMaps.marks (ref : ℕ) {f : EventData → EventData}
    (hf : ∀ e s, Known e s → Known (f e) s) : C.Keeps fun w => w.setMap p ref f := by
  refine fun s hs => hC.setPage p hs fun c hc e he => ?_
  obtain ⟨i, hi⟩ := List.mem_iff_getElem?.1 he
  rw [List.getElem?_modify] at hi
  obtain ⟨e', he', rfl⟩ := Option.map_eq_some_iff.1 hi
  have known := hC.held s p c hs hc e' (List.mem_of_getElem? he')
  split
  · exact hf e' s known
  · exact known

theorem AllowsMaps.map {s : EventWorld} (hs : C.inv s) (ref : ℕ) :
    Known ((s.map? p ref).getD {}) s := by
  cases hm : s.map? p ref with
  | none => exact hC.blank s
  | some e =>
    obtain ⟨c, hc, he⟩ := Option.bind_eq_some_iff.1 hm
    exact hC.held s p c hs hc e (List.mem_of_getElem? he)

theorem AllowsMaps.query {α : Type} (f : EventWorld → α) : Quiet C (query f) :=
  .call C.keeps_id (hC.shows .plain)

theorem AllowsMaps.deleteEach (uid : Uid) (docs : List String) : Quiet C (deleteEach uid docs) := by
  induction docs with
  | nil => exact .pure _
  | cons doc docs ih => exact .bind (.call (hC.deletes uid doc) (hC.shows .plain)) fun _ => ih

theorem AllowsMaps.removeExpiredDoc (uid : Uid) (formattedDate : String) :
    Quiet C (removeExpiredDoc uid formattedDate) :=
  .bind (hC.query _) fun docs => hC.deleteEach uid docs

theorem AllowsMaps.fetchFarmerEvents (farmerId : Uid) :
    Spec C g (fun _ => True) (fetchFarmerEvents farmerId)
      (fun r s => ∀ events, r = some events → ∀ e ∈ events, Known e s) fun _ _ => True := by
  refine .tryCatch (F := fun _ _ => True) (.bind (R := fun docs s => ∀ e ∈ docs, Known e s)
    (.call (fun s t _ _ ht _ _ => ⟨hC.shows _ t ht, ht, C.refl t, fun u hu hr e he => ?_⟩)
      fun _ _ _ _ _ _ _ _ _ _ => trivial) fun docs => ?_)
    fun _ => .pure fun _ _ events h => by cases h
  · obtain ⟨⟨id, stored⟩, hmem, rfl⟩ := List.mem_map.1 he
    have hstored := Std.TreeMap.mem_toList_iff_getElem?_eq_some.1 (List.mem_filter.1 hmem).1
    exact hC.stable _ t u hr (hC.stored t id stored ht hstored)
  · split
    · exact .pure fun s h events he => Option.some.inj he ▸ h
    · exact .pure fun s h events he => by cases he

theorem AllowsMaps.getEventList (farmerId : Uid) :
    Spec C g (fun _ => True) (ProductController.getEventList p d farmerId) (fun _ _ => True)
      fun _ _ => True := by
  refine .tryCatch (F := fun _ _ => True) (.bind (R := fun _ _ => True) (Quiet.spec (.look _))
    fun now => .bind (R := fun _ _ => True) (Quiet.spec (hC.removeExpiredDoc _ _)) fun _ =>
      .bind (hC.fetchFarmerEvents farmerId) fun response => ?_) fun _ => .pure fun _ _ => trivial
  cases response with
  | none => exact .pure fun _ _ => trivial
  | some events =>
    refine .change fun s hs hread => ?_
    have shown := hC.setPage p (f := fun c => c.assignEvents events) hs fun c hc e he => by
      rcases List.mem_append.1 he with he | he
      · exact hC.held s p c hs hc e he
      · exact hread events rfl e he
    exact ⟨shown.1, shown.2, trivial⟩

theorem AllowsMaps.getBookedEventsList :
    Quiet C (ProductController.getBookedEventsList p d) := by
  have fetched (customerId : Uid) : Quiet C (FirebaseHelper.fetchBookedEvents customerId) := by
    refine .tryCatch (.bind (hC.query _) fun docs => ?_) fun _ => .pure _
    split
    · exact .pure _
    · exact .pure _
  refine .tryCatch (.bind (fetched d.uid) fun response => ?_) fun _ => .pure _
  cases response with
  | none => exact .pure _
  | some events => exact .change (hC.keepsMaps p fun _ => rfl)

theorem AllowsMaps.openFarm (farmerId : Uid) (farmName : String) :
    Spec C g (fun _ => True) (ProductController.openFarm p d farmerId farmName)
      (fun _ _ => True) fun _ _ => True := by
  refine .bind (R := fun _ _ => True) (.seg fun s hs _ => ?_) fun opened => ?_
  · cases hp : s.farmPages p with
    | some c => exact ⟨hs, C.refl s, trivial⟩
    | none =>
      obtain ⟨hi, hr⟩ := hC.holds s p { device := d, farmerId, farmName } hs
        fun e he => by cases he
      exact ⟨hi, hr, trivial⟩
  · cases opened with
    | false => exact .pure fun _ _ => trivial
    | true =>
      exact .bind (R := fun _ _ => True) (.spawn
        (fun s hs _ => (hC.getEventList p d farmerId).safe hs trivial) fun _ _ _ _ _ => trivial)
        fun _ => Quiet.spec (.spawn (hC.getBookedEventsList p d))

theorem AllowsMaps.addToBookEvents (uid : Uid) (ref : ℕ) :
    Spec C g (fun _ => True) (addToBookEvents ids uid p ref) (fun _ _ => True)
      fun _ _ => True := by
  refine .tryCatch (F := fun _ _ => True) (.bind (R := fun e s => Known e s)
    (.look fun s hs _ => hC.map p hs ref) fun eventData => .bind (R := fun _ _ => True)
      (.call (fun s t _ hknown ht hr _ => ?_) fun _ _ _ _ _ _ _ _ _ _ => trivial) fun docRef =>
        Quiet.spec (.bind (.change (hC.marks p ref fun e s h => ?_)) fun _ =>
          .call (hC.marksBooking docRef docRef) (hC.shows _))) fun _ => .pure fun _ _ => trivial
  · obtain ⟨hi, hrel⟩ := hC.books ids uid t eventData ht (hC.stable _ s t hr hknown)
    exact ⟨hC.shows _ t ht, hi, hrel, fun _ _ _ => trivial⟩
  · exact hC.marked e s e.farmName e.remainingTicket (some docRef) h

theorem AllowsMaps.updateEventTicketCount (farmerId : Uid) {id : String} {e : EventData} {n : ℤ}
    (hid : e.id = some id) (hn : intTryParse e.remainingTickets = some n) (hpos : 0 < n) :
    Spec C g (fun s => Known e s) (updateEventTicketCount id (n - 1) farmerId) (fun _ _ => True)
      fun _ _ => True := by
  have checked : Spec C g (fun s => Known e s) (checkDoc id) (fun _ s => Known e s)
      fun _ _ => True := by
    unfold checkDoc
    split
    · exact .throw fun _ _ => trivial
    · exact .pure fun _ h => h
  refine .tryCatch (F := fun _ _ => True) (.bind checked fun _ => .call
    (fun s t _ hknown ht hr _ => ?_) fun _ _ _ _ _ _ _ _ _ _ => trivial)
      fun _ => .pure fun _ _ => trivial
  obtain ⟨hi, hrel⟩ := hC.takes t farmerId id e n ht (hC.stable _ s t hr hknown) hid hn hpos
  exact ⟨hC.shows _ t ht, hi, hrel, fun _ _ _ => by split <;> trivial⟩

theorem AllowsMaps.reload (c : ProductController) :
    Spec C g (fun _ => True) (ProductController.reload p c) (fun _ _ => True) fun _ _ => True :=
  .bind (R := fun _ _ => True) (Quiet.spec (.spawn (hC.getBookedEventsList p c.device)))
    fun _ => .spawn (fun _ hs _ => (hC.getEventList p c.device c.farmerId).safe hs trivial)
      fun _ _ _ _ _ => trivial

theorem AllowsMaps.takeTicket (c : ProductController) (ref : ℕ) {e : EventData} {n : ℤ}
    (hn : intTryParse e.remainingTickets = some n) (hpos : 0 < n) :
    Spec C g (fun s => Known e s) (ProductController.takeTicket ids p c ref e.id n)
      (fun _ _ => True) fun _ _ => True := by
  unfold ProductController.takeTicket
  cases hid : e.id with
  | none => exact .throw fun _ _ => trivial
  | some id =>
  have counted : Spec C g (fun s => Known e s)
      (change fun w => w.setUnderWay c.device.uid id (· + 1) : EventProgram Unit)
      (fun _ s => Known e s) fun _ _ => True := .change fun s hs h => by
    obtain ⟨hi, hr⟩ := hC.counts c.device.uid id (· + 1) s hs
    exact ⟨hi, hr, hC.stable e _ _ hr h⟩
  refine .bind (R := fun _ _ => True) (.bind counted fun _ => .bind (R := fun _ _ => True)
    (hC.updateEventTicketCount c.farmerId hid hn hpos) fun _ => .bind (R := fun _ _ => True)
      (hC.addToBookEvents ids p _ ref) fun _ => Quiet.spec (.change (hC.counts _ id _))) fun _ => ?_
  exact .bind (R := fun _ _ => True) (hC.reload p c) fun _ =>
    Quiet.spec (.change (hC.keepsMaps p
      (f := fun c => { c with successDialogs := c.successDialogs + 1 }) fun _ => rfl))

theorem AllowsMaps.bookEvents :
    Spec C g (fun _ => True) (ProductController.bookEvents ids p) (fun _ _ => True)
      fun _ _ => True := by
  refine .bind (R := fun _ _ => True) (Quiet.spec (.look _)) fun c => ?_
  cases c with
  | none => exact .pure fun _ _ => trivial
  | some c =>
    dsimp only
    cases c.farmerEventItem with
    | nil => exact .throw fun _ _ => trivial
    | cons ref _ =>
      refine .bind (R := fun _ _ => True) (Quiet.spec (.change (hC.marks p ref fun e s h => ?_)))
        fun _ => .tryCatch (F := fun _ _ => True) (.bind (R := fun e s => Known e s)
          (.look fun s hs _ => hC.map p hs ref) fun e => .bind (R := fun _ s => Known e s)
            (.change fun s hs h => ?_) fun _ => ?_) fun _ => .pure fun _ _ => trivial
      · exact hC.marked e s (some c.farmName) e.remainingTicket e.bookingId h
      · obtain ⟨hi, hr⟩ := hC.marks p ref (fun e' s' h' => hC.marked e' s' e'.farmName
          (some (toString ((intTryParse e.remainingTickets).getD 0))) e'.bookingId h') s hs
        exact ⟨hi, hr, hC.stable e _ _ hr h⟩
      · split
        case isTrue => exact .pure fun _ _ => trivial
        case isFalse hleft =>
          cases hn : intTryParse e.remainingTickets with
          | none =>
            rw [hn] at hleft
            exact absurd le_rfl hleft
          | some n =>
            rw [hn] at hleft
            exact hC.takeTicket ids p c ref hn (not_le.1 hleft)

end Programs

/-- The form of `EventController` may hold what `Form` is true of. -/
structure AllowsForms (C : Contract EventWorld EventAccess)
    (Known : EventData → EventWorld → Prop) (Form : EventController → Prop) : Prop
    extends AllowsMaps C Known where
  form : ∀ s d, C.inv s → Form (s.eventPages d)
  fills : ∀ s d c, C.inv s → Form c →
    C.inv { s with eventPages := Function.update s.eventPages d c } ∧
      C.rel s { s with eventPages := Function.update s.eventPages d c }
  same : ∀ (c c' : EventController), Form c → c'.maxNumberOfVisit = c.maxNumberOfVisit →
    c'.eventMinimumNumber = c.eventMinimumNumber → (∀ e ∈ c'.farmerEvents, e ∈ c.farmerEvents) →
    Form c'
  listed : ∀ s c events, Form c → (∀ e ∈ events, Known e s) → Form { c with farmerEvents := events }
  cleared : ∀ c, Form c → Form c.clearFields
  opened : ∀ c, Form c → ∀ e ∈ c.farmerEvents, Form (c.updateFields e)
  adds : ∀ ids uid s c, C.inv s → Form c →
    C.inv (addEventDoc ids uid (c.formData c.eventMinimumNumber {}) s).1 ∧
      C.rel s (addEventDoc ids uid (c.formData c.eventMinimumNumber {}) s).1
  names : ∀ uid id, C.Keeps fun w =>
    (updateEventDoc uid id (fun e => { e with id := some id }) w).1
  clock : ∀ now, C.Keeps fun w => { w with now := now }

section Forms

variable {C : Contract EventWorld EventAccess} {Known : EventData → EventWorld → Prop}
  {Form : EventController → Prop} {g : Guard EventWorld EventAccess TicketEvent}
  (hC : AllowsForms C Known Form) (ids : IdSupply) (d : Device)

include hC

theorem AllowsForms.setPage {f : EventController → EventController}
    (hf : ∀ c, Form c → Form (f c)) : Quiet C (EventController.setPage d f) :=
  .change fun s hs => hC.fills s d _ hs (hf _ (hC.form s d hs))

theorem AllowsForms.setSame (f : EventController → EventController)
    (hcount : ∀ c, (f c).maxNumberOfVisit = c.maxNumberOfVisit)
    (hnumber : ∀ c, (f c).eventMinimumNumber = c.eventMinimumNumber)
    (hevents : ∀ c, ∀ e ∈ (f c).farmerEvents, e ∈ c.farmerEvents) :
    Quiet C (EventController.setPage d f) :=
  hC.setPage d fun c h => hC.same c (f c) h (hcount c) (hnumber c) (hevents c)

theorem AllowsForms.ownEventList :
    Spec C g (fun _ => True) (EventController.getEventList d) (fun _ _ => True)
      fun _ _ => True := by
  refine .tryCatch (F := fun _ _ => True) (.bind (R := fun _ _ => True) (Quiet.spec (.look _))
    fun now => .bind (R := fun _ _ => True) (Quiet.spec (hC.removeExpiredDoc _ _)) fun _ =>
      .bind (hC.fetchFarmerEvents d.uid) fun response => ?_) fun _ => .pure fun _ _ => trivial
  cases response with
  | none => exact .pure fun _ _ => trivial
  | some events =>
    refine .change fun s hs hread => ?_
    obtain ⟨hi, hr⟩ := hC.fills s d _ hs
      (hC.listed s (s.eventPages d) events (hC.form s d hs) (hread events rfl))
    exact ⟨hi, hr, trivial⟩

theorem AllowsForms.afterForm : Spec C g (fun _ => True) (do
    spawn (EventController.getEventList d)
    EventController.setPage d EventController.clearFields : EventProgram Unit) (fun _ _ => True)
      fun _ _ => True :=
  .bind (R := fun _ _ => True) (.spawn (fun _ hs _ => (hC.ownEventList d).safe hs trivial)
    fun _ _ _ _ _ => trivial) fun _ => Quiet.spec (hC.setPage d hC.cleared)

theorem AllowsForms.postEvents :
    Spec C g (fun _ => True) (EventController.postEvents ids d) (fun _ _ => True)
      fun _ _ => True := by
  refine .bind (R := fun c _ => Form c ∧ True) (.look fun s hs _ => ⟨hC.form s d hs, trivial⟩)
    fun c => .given fun hform => ?_
  cases c.validationError with
  | some error => exact .pure fun _ _ => trivial
  | none =>
    have added : Quiet C (addEventsToFarmer ids d.uid (c.formData c.eventMinimumNumber {})) :=
      .tryCatch (.bind (.call (fun s hs => hC.adds ids d.uid s c hs hform) (hC.shows _)) fun _ =>
        .call (hC.names d.uid _) (hC.shows _)) fun _ => .pure _
    exact .tryCatch (F := fun _ _ => True) (.bind (R := fun _ _ => True) (Quiet.spec added)
      fun _ => hC.afterForm d) fun _ => .pure fun _ _ => trivial

theorem AllowsForms.deleteEvent :
    Spec C g (fun _ => True) (EventController.deleteEvent d) (fun _ _ => True)
      fun _ _ => True := by
  refine .tryCatch (F := fun _ _ => True) (.bind (R := fun _ _ => True) (Quiet.spec (.look _))
    fun c => .bind (R := fun _ _ => True) (Quiet.spec (.tryCatch (.bind ?_ fun _ =>
      .call (hC.deletes d.uid c.eventId) (hC.shows _)) fun _ => .pure _)) fun _ =>
        .bind (R := fun _ _ => True) (Quiet.spec ?_) fun _ => .spawn
          (fun _ hs _ => (hC.ownEventList d).safe hs trivial) fun _ _ _ _ _ => trivial)
            fun _ => .pure fun _ _ => trivial
  · unfold checkDoc
    split
    · exact .throw _
    · exact .pure _
  · exact hC.setSame d _ (fun _ => rfl) (fun _ => rfl) fun _ _ he => (List.mem_filter.1 he).1

theorem AllowsForms.openGoogleMaps (lat lng : ℚ) (place : Option String) :
    Quiet C (EventController.openGoogleMaps d lat lng place) := by
  have same {f : EventController → EventController}
      (h : ∀ c, (f c).maxNumberOfVisit = c.maxNumberOfVisit ∧
        (f c).eventMinimumNumber = c.eventMinimumNumber ∧ (f c).farmerEvents = c.farmerEvents) :
      Quiet C (EventController.setPage d f) :=
    hC.setSame d f (fun c => (h c).1) (fun c => (h c).2.1) fun c e he => (h c).2.2 ▸ he
  refine .bind (same fun _ => ⟨rfl, rfl, rfl⟩) fun _ => .tryCatch (.bind
    (.call C.keeps_id (hC.shows .plain)) fun _ => ?_) fun _ => same fun _ => ⟨rfl, rfl, rfl⟩
  cases place with
  | some address => exact same fun _ => ⟨rfl, rfl, rfl⟩
  | none => exact .pure _

theorem AllowsForms.program {e : TicketEvent} {P : EventWorld → Prop}
    (hcounted : ∀ d up, e = .countVisitors d up → ∀ s, C.inv s → P s →
      Form ((s.eventPages d).countVisitors up))
    (htyped : ∀ d text, e = .typeText d .number text →
      ∀ c, Form c → Form { c with eventMinimumNumber := text })
    (hedits : ∀ d, e = .updateEvents d → Spec C g (fun _ => True)
      (EventController.updateEvents d : EventProgram Unit) (fun _ _ => True) fun _ _ => True) :
    Spec C g P (ticketProgram ids e) (fun _ _ => True) fun _ _ => True := by
  have always {m : EventProgram Unit}
      (h : Spec C g (fun _ => True) m (fun _ _ => True) fun _ _ => True) :
      Spec C g P m (fun _ _ => True) fun _ _ => True :=
    h.weaken (fun _ _ => trivial) (fun _ _ h => h) fun _ _ h => h
  cases e with
  | openFarm page d farmerId farmName => exact always (hC.openFarm page d farmerId farmName)
  | selectEvent page index =>
    refine Quiet.spec (.change (hC.keepsMaps page fun c => ?_))
    split
    · rfl
    · rfl
  | bookEvents page => exact always (hC.bookEvents ids page)
  | openEvents d => exact always (hC.ownEventList d)
  | editEvent d index =>
    refine Quiet.spec (hC.setPage d fun c h => ?_)
    split
    · rename_i e he
      exact hC.opened c h e (List.mem_of_getElem? he)
    · exact h
  | newEvent d => exact Quiet.spec (hC.setPage d hC.cleared)
  | countVisitors d up =>
    refine .change fun s hs hp => ?_
    obtain ⟨hi, hr⟩ := hC.fills s d _ hs (hcounted d up rfl s hs hp)
    exact ⟨hi, hr, trivial⟩
  | typeText d field text =>
    cases field with
    | number => exact Quiet.spec (hC.setPage d (htyped d text rfl))
    | name => exact Quiet.spec (hC.setSame d (FormField.name.write text) (fun _ => rfl)
        (fun _ => rfl) fun _ _ he => he)
    | date => exact Quiet.spec (hC.setSame d (FormField.date.write text) (fun _ => rfl)
        (fun _ => rfl) fun _ _ he => he)
    | description => exact Quiet.spec (hC.setSame d (FormField.description.write text)
        (fun _ => rfl) (fun _ => rfl) fun _ _ he => he)
    | location => exact Quiet.spec (hC.setSame d (FormField.location.write text) (fun _ => rfl)
        (fun _ => rfl) fun _ _ he => he)
  | pickLocation d lat lng place => exact Quiet.spec (hC.openGoogleMaps d lat lng place)
  | postEvents d => exact always (hC.postEvents ids d)
  | updateEvents d => exact always (hedits d rfl)
  | deleteEvent d => exact always (hC.deleteEvent d)
  | clock now => exact Quiet.spec (.change (hC.clock now))

end Forms

end Gherass
