import Gherass.TicketConservation
import Mathlib.Algebra.Group.Prod
import Mathlib.Algebra.Order.BigOperators.Group.List
import Mathlib.Algebra.Order.Monoid.Prod

set_option autoImplicit false

/-!
# One booking for each customer and event

A booking that has been started first owes the count and then the booking itself; a customer
who starts none while one is stored or under way gets one at most.
-/
namespace Gherass

open EventLoop EventLoop.Async FirebaseHelper ListSums

namespace EventWorld

def bookedBy (w : EventWorld) (uid : Uid) (id : String) : ℤ :=
  (w.bookings.toList.map fun b => if b.2.customerId = uid ∧ b.2.id = some id then 1 else 0).sum

def Begun (w : EventWorld) (uid : Uid) (id : String) : Prop :=
  w.underWay uid id ≠ 0 ∨ w.bookedBy uid id ≠ 0

def Keyed (w : EventWorld) (id : String) : Prop :=
  ∀ k e, w.events[k]? = some e → e.id = some id → k = id

def Reads (w : EventWorld) (id : String) (n : ℤ) : Prop :=
  ∀ e, w.tickets id = some e → intTryParse e.remainingTickets = some n

end EventWorld

/-- A press on `Book` takes a ticket of the event only for one customer, and only while no
    booking of theirs is stored or under way. -/
def MayPress (uid : Uid) (id : String) (p : ℕ) (w : EventWorld) : Prop :=
  ∀ x ∈ w.selected? p, x.2.id = some id → ∀ r ∈ intTryParse x.2.remainingTickets, 0 < r →
    x.1.device.uid = uid ∧ w.underWay uid id = 0 ∧ w.bookedBy uid id = 0

instance (uid : Uid) (id : String) (p : ℕ) (w : EventWorld) : Decidable (MayPress uid id p w) := by
  unfold MayPress
  infer_instance

/-- No press but such a one; the event is not edited, and none of the two writes of its bookings
    is lost. -/
def onePress (uid : Uid) (id : String) : Guard EventWorld EventAccess TicketEvent where
  start
    | .bookEvents p, w => MayPress uid id p w
    | _, _ => True
  access
    | .editEvent _ eventId, _ => eventId ≠ id
    | _, _ => True
  lost
    | .updateTickets _ eventId _, _ => eventId ≠ id
    | .addBooking eventId, _ => eventId ≠ some id
    | _, _ => True

instance (uid : Uid) (id : String) : (onePress uid id).Checks where
  start
    | .bookEvents p, w => inferInstanceAs (Decidable (MayPress uid id p w))
    | .openFarm _ _ _ _, _ | .selectEvent _ _, _ | .openEvents _, _ | .editEvent _ _, _
    | .newEvent _, _ | .countVisitors _ _, _ | .typeText _ _ _, _ | .pickLocation _ _ _ _, _
    | .postEvents _, _ | .updateEvents _, _ | .deleteEvent _, _ | .clock _, _ => .isTrue trivial
  access
    | .editEvent _ eventId, _ => inferInstanceAs (Decidable (eventId ≠ id))
    | .plain, _ | .updateTickets _ _ _, _ | .addBooking _, _ | .setBookingId, _ => .isTrue trivial
  lost
    | .updateTickets _ eventId _, _ => inferInstanceAs (Decidable (eventId ≠ id))
    | .addBooking eventId, _ => inferInstanceAs (Decidable (eventId ≠ some id))
    | .plain, _ | .setBookingId, _ | .editEvent _ _, _ => .isTrue trivial

def PagesLater (s t : EventWorld) : Prop :=
  ∀ p c, s.farmPages p = some c → ∃ c', t.farmPages p = some c' ∧ c'.farmerId = c.farmerId ∧
    ∀ (ref : ℕ) (e : EventData), c.maps[ref]? = some e → ∃ e' : EventData,
      c'.maps[ref]? = some e' ∧ e'.id = e.id

theorem PagesLater.refl (s : EventWorld) : PagesLater s s := fun _ c hc =>
  ⟨c, hc, rfl, fun _ e he => ⟨e, he, rfl⟩⟩

theorem PagesLater.trans {s t u : EventWorld} (h : PagesLater s t) (h' : PagesLater t u) :
    PagesLater s u := by
  intro p c hc
  obtain ⟨c', hc', hf, hm⟩ := h p c hc
  obtain ⟨c'', hc'', hf', hm'⟩ := h' p c' hc'
  refine ⟨c'', hc'', hf'.trans hf, fun ref e he => ?_⟩
  obtain ⟨e', he', hid⟩ := hm ref e he
  obtain ⟨e'', he'', hid'⟩ := hm' ref e' he'
  exact ⟨e'', he'', hid'.trans hid⟩

section Ledger

variable (uid : Uid) (id : String) (farmer : Uid) (total : ℤ)

/-- A map of the event is one of the farm's, with the count before the booking. -/
def Fresh (farmerId : Uid) (e : EventData) : Prop :=
  e.id = some id → farmerId = farmer ∧ intTryParse e.remainingTickets = some total

structure Shown (s : EventWorld) : Prop where
  used : id ∈ s.usedIds
  keyed : s.Keyed id
  owner : ∀ e, s.tickets id = some e → e.farmerId = farmer
  copies : s.Begun uid id ∨ ∀ p (c : ProductController) (ref : ℕ) e, s.farmPages p = some c →
    c.maps[ref]? = some e → Fresh id farmer total c.farmerId e

/-- How far the booking is. What is paid is short of what the program at work still owes. -/
inductive Stage (s : EventWorld) : ℤ × ℤ → Prop where
  | idle (free : s.underWay uid id = 0) (none : s.bookedBy uid id = 0) (count : s.Reads id total) :
    Stage s 0
  | counting (busy : s.underWay uid id = 1) (none : s.bookedBy uid id = 0)
    (count : s.Reads id total) : Stage s (-1, 0)
  | adding (busy : s.underWay uid id = 1) (none : s.bookedBy uid id = 0)
    (count : s.Reads id (total - 1)) : Stage s (0, -1)
  | booked (one : s.bookedBy uid id = 1) (count : s.Reads id (total - 1)) : Stage s 0

def bookingLedger : EventLoop.Ledger EventWorld TicketEvent (ℤ × ℤ) where
  charge _ := 0
  inv s p := Shown uid id farmer total s ∧ Stage uid id total s p
  rel s t := (s.Begun uid id → t.Begun uid id) ∧ s.bookedBy uid id ≤ t.bookedBy uid id ∧
    PagesLater s t
  limit p := p ≤ 0
  refl s := ⟨fun h => h, le_rfl, .refl s⟩
  trans h h' := ⟨fun hs => h'.1 (h.1 hs), h.2.1.trans h'.2.1, h.2.2.trans h'.2.2⟩
  limit_le h h' := h.trans h'
  limit_charge _ h := by rwa [add_zero]

def aside : Contract EventWorld EventAccess where
  inv := Shown uid id farmer total
  rel s t := t.underWay uid id = s.underWay uid id ∧ t.bookedBy uid id = s.bookedBy uid id ∧
    (t.tickets id = s.tickets id ∨ t.tickets id = none) ∧ PagesLater s t
  shows _ _ := True
  refl s := ⟨rfl, rfl, .inl rfl, .refl s⟩
  trans := by
    rintro s t u ⟨hw, hb, ht, hp⟩ ⟨hw', hb', ht', hp'⟩
    refine ⟨hw'.trans hw, hb'.trans hb, ?_, hp.trans hp'⟩
    rcases ht' with ht' | ht'
    · exact ht.imp ht'.trans ht'.trans
    · exact .inr ht'

variable {uid id farmer total}

theorem begun_congr {s t : EventWorld} (hw : t.underWay uid id = s.underWay uid id)
    (hb : t.bookedBy uid id = s.bookedBy uid id) : t.Begun uid id ↔ s.Begun uid id := by
  rw [EventWorld.Begun, EventWorld.Begun, hw, hb]

theorem reads_of_tickets {s t : EventWorld} {n : ℤ}
    (ht : t.tickets id = s.tickets id ∨ t.tickets id = none) (h : s.Reads id n) :
    t.Reads id n := by
  intro e he
  rcases ht with ht | ht
  · exact h e (ht.symm.trans he)
  · rw [ht] at he
    cases he

theorem Stage.congr {s t : EventWorld} {p : ℤ × ℤ} (h : Stage uid id total s p)
    (hw : t.underWay uid id = s.underWay uid id) (hb : t.bookedBy uid id = s.bookedBy uid id)
    (ht : t.tickets id = s.tickets id ∨ t.tickets id = none) : Stage uid id total t p := by
  cases h with
  | idle free none count => exact .idle (hw.trans free) (hb.trans none) (reads_of_tickets ht count)
  | counting busy none count =>
    exact .counting (hw.trans busy) (hb.trans none) (reads_of_tickets ht count)
  | adding busy none count =>
    exact .adding (hw.trans busy) (hb.trans none) (reads_of_tickets ht count)
  | booked one count => exact .booked (hb.trans one) (reads_of_tickets ht count)

theorem bookingLedger_covers : (bookingLedger uid id farmer total).Covers
    (aside uid id farmer total) where
  inv _ _ h := h.1
  paid _ _ _ h ht hs := ⟨ht, hs.2.congr h.1 h.2.1 h.2.2.1⟩
  rel _ _ h := ⟨(begun_congr h.1 h.2.1).2, h.2.1.ge, h.2.2.2⟩

end Ledger

section Effects

variable {uid : Uid} {id : String} {farmer : Uid} {total : ℤ} {w : EventWorld}

theorem bookedBy_addBooking (ids : IdSupply) (customer : Uid) (e : EventData) :
    (addBooking ids customer e w).1.bookedBy uid id =
      (if customer = uid ∧ e.id = some id then 1 else 0) + w.bookedBy uid id := by
  have hfree : w.bookings[w.newId ids]? = none := by
    refine Std.TreeMap.getElem?_eq_none fun h => w.newId_free ids ?_
    simp [EventWorld.usedIds, Std.TreeMap.mem_keys.2 h]
  exact sum_toList_fresh
    (fun b : Booking => if b.customerId = uid ∧ b.id = some id then 1 else 0) _ hfree

variable (uid id) in
theorem bookedBy_updateBooking (bookingId : String) {f : EventData → EventData}
    (hf : ∀ e, (f e).id = e.id) :
    (updateBooking bookingId f w).1.bookedBy uid id = w.bookedBy uid id := by
  unfold updateBooking
  split
  case h_2 => rfl
  case h_1 b hb =>
    exact sum_toList_same
      (fun b : Booking => if b.customerId = uid ∧ b.id = some id then 1 else 0) hb (by simp [hf])

theorem keyed_insert {k : String} {e : FarmEvent} (h : w.Keyed id)
    (hk : e.id = some id → k = id) :
    ({ w with events := w.events.insert k e } : EventWorld).Keyed id := by
  intro i x hx hid
  rw [Std.TreeMap.getElem?_insert] at hx
  split at hx
  case isTrue heq =>
    cases hx
    rw [← Std.LawfulEqCmp.compare_eq_iff_eq.1 heq, hk hid]
  case isFalse => exact h i x hx hid

theorem keyed_updateEventDoc (farmerId : Uid) {k : String} {f : EventData → EventData}
    (h : w.Keyed id) (hf : ∀ e, w.events[k]? = some e → (f e.toEventData).id = some id → k = id) :
    (updateEventDoc farmerId k f w).1.Keyed id := by
  unfold updateEventDoc
  split
  case h_2 => exact h
  case h_1 e he =>
    split
    · exact keyed_insert h (hf e he)
    · exact h

theorem keyed_deleteEventDoc (farmerId : Uid) (k : String) (h : w.Keyed id) :
    (deleteEventDoc farmerId k w).Keyed id := by
  unfold deleteEventDoc
  split
  · intro i x hx hid
    rw [Std.TreeMap.getElem?_erase] at hx
    split at hx
    · cases hx
    · exact h i x hx hid
  · exact h

theorem aside_store {f : EventWorld → EventWorld} (hb : (bystander id).Keeps f)
    (hw : ∀ s, (f s).underWay = s.underWay) (hbooked : ∀ s, (f s).bookings = s.bookings)
    (hpages : ∀ s, (f s).farmPages = s.farmPages) (hkeyed : ∀ s, s.Keyed id → (f s).Keyed id) :
    (aside uid id farmer total).Keeps f := by
  intro s hs
  obtain ⟨hused, -, htickets, -⟩ := hb s hs.used
  have hbook : (f s).bookedBy uid id = s.bookedBy uid id := by
    rw [EventWorld.bookedBy, EventWorld.bookedBy, hbooked]
  have hway : (f s).underWay uid id = s.underWay uid id := by rw [hw]
  refine ⟨⟨hused, hkeyed s hs.keyed, fun e he => ?_, ?_⟩, hway, hbook, htickets, ?_⟩
  · rcases htickets with ht | ht
    · exact hs.owner e (ht.symm.trans he)
    · rw [ht] at he
      cases he
  · rw [begun_congr hway hbook, hpages]
    exact hs.copies
  · intro p c hc
    exact ⟨c, by rw [hpages, hc], rfl, fun _ e he => ⟨e, he, rfl⟩⟩

theorem aside_page (p : ℕ) {f : ProductController → ProductController}
    (hfarm : ∀ c, (f c).farmerId = c.farmerId) (hmaps : ∀ c, (f c).maps = c.maps) :
    (aside uid id farmer total).Keeps fun w => w.setFarmPage p f := by
  intro s hs
  refine ⟨⟨hs.used, hs.keyed, hs.owner, hs.copies.imp_right fun h q c ref e hc he => ?_⟩, rfl, rfl,
    .inl rfl, fun q c hc => ?_⟩
  · simp only [EventWorld.setFarmPage, Function.update_apply] at hc
    split at hc
    · obtain ⟨c', hc', rfl⟩ := Option.map_eq_some_iff.1 hc
      rw [hmaps] at he
      rw [hfarm]
      exact h p c' ref e hc' he
    · exact h q c ref e hc he
  · simp only [EventWorld.setFarmPage, Function.update_apply]
    split
    case isTrue heq =>
      subst heq
      exact ⟨f c, by rw [hc, Option.map_some], hfarm c, fun _ e he => ⟨e, by rw [hmaps, he], rfl⟩⟩
    case isFalse => exact ⟨c, hc, rfl, fun _ e he => ⟨e, he, rfl⟩⟩

theorem aside_setMap (p ref : ℕ) {f : EventData → EventData} (hid : ∀ e, (f e).id = e.id)
    (hcount : ∀ e, (f e).remainingTickets = e.remainingTickets) :
    (aside uid id farmer total).Keeps fun w => w.setMap p ref f := by
  have fresh : ∀ farmerId e, Fresh id farmer total farmerId e →
      Fresh id farmer total farmerId (f e) := fun farmerId e h hf => by
    rw [hid] at hf
    rw [hcount]
    exact h hf
  intro s hs
  refine ⟨⟨hs.used, hs.keyed, hs.owner, hs.copies.imp_right fun h q c i e hc he => ?_⟩, rfl, rfl,
    .inl rfl, fun q c hc => ?_⟩
  · simp only [EventWorld.setMap, EventWorld.setFarmPage, Function.update_apply] at hc
    split at hc
    · obtain ⟨c', hc', rfl⟩ := Option.map_eq_some_iff.1 hc
      simp only [List.getElem?_modify] at he
      obtain ⟨e', he', rfl⟩ := Option.map_eq_some_iff.1 he
      have old := h p c' i e' hc' he'
      dsimp only
      split
      · exact fresh _ _ old
      · exact old
    · exact h q c i e hc he
  · simp only [EventWorld.setMap, EventWorld.setFarmPage, Function.update_apply]
    split
    case isTrue heq =>
      subst heq
      refine ⟨{ c with maps := c.maps.modify ref f }, by rw [hc, Option.map_some], rfl,
        fun i e he => ⟨if ref = i then f e else e, ?_, ?_⟩⟩
      · simp [List.getElem?_modify, he]
      · split
        · exact hid e
        · rfl
    case isFalse => exact ⟨c, hc, rfl, fun _ e he => ⟨e, he, rfl⟩⟩

theorem underWay_updateEventDoc (farmerId : Uid) (k : String) (f : EventData → EventData) :
    (updateEventDoc farmerId k f w).1.underWay = w.underWay := by
  unfold updateEventDoc
  split
  · split
    · rfl
    · rfl
  · rfl

theorem bookings_updateEventDoc (farmerId : Uid) (k : String) (f : EventData → EventData) :
    (updateEventDoc farmerId k f w).1.bookings = w.bookings := by
  unfold updateEventDoc
  split
  · split
    · rfl
    · rfl
  · rfl

theorem farmPages_updateEventDoc (farmerId : Uid) (k : String) (f : EventData → EventData) :
    (updateEventDoc farmerId k f w).1.farmPages = w.farmPages := by
  unfold updateEventDoc
  split
  · split
    · rfl
    · rfl
  · rfl

theorem aside_update {farmerId : Uid} {k : String} {f : EventData → EventData}
    (hb : (bystander id).Keeps fun w => (updateEventDoc farmerId k f w).1)
    (hkeyed : ∀ s : EventWorld, s.Keyed id → ∀ e, s.events[k]? = some e →
      (f e.toEventData).id = some id → k = id) :
    (aside uid id farmer total).Keeps fun w => (updateEventDoc farmerId k f w).1 :=
  aside_store hb (fun _ => underWay_updateEventDoc ..) (fun _ => bookings_updateEventDoc ..)
    (fun _ => farmPages_updateEventDoc ..) fun s hs => keyed_updateEventDoc farmerId hs (hkeyed s hs)

theorem aside_allowsLists : AllowsLists (aside uid id farmer total) where
  plain _ _ := trivial
  deletes farmerId eventId := by
    have frame : ∀ s, (deleteEventDoc farmerId eventId s).underWay = s.underWay ∧
        (deleteEventDoc farmerId eventId s).bookings = s.bookings ∧
        (deleteEventDoc farmerId eventId s).farmPages = s.farmPages := fun s => by
      unfold deleteEventDoc
      split
      · exact ⟨rfl, rfl, rfl⟩
      · exact ⟨rfl, rfl, rfl⟩
    exact aside_store (keeps_deleteEventDoc farmerId eventId) (fun s => (frame s).1)
      (fun s => (frame s).2.1) (fun s => (frame s).2.2)
      fun _ => keyed_deleteEventDoc farmerId eventId
  adds ids farmerId e he := aside_store (keeps_addEventDoc ids farmerId e) (fun _ => rfl)
    (fun _ => rfl) (fun _ => rfl) fun s hs => keyed_insert hs fun h => by
      rw [he] at h
      cases h
  names farmerId k := aside_update (keeps_updateEventDoc farmerId k (fun _ => rfl) fun _ => rfl)
    fun _ _ _ _ h => Option.some.inj h
  fills d f := aside_store (keeps_eventPage d f) (fun _ => rfl) (fun _ => rfl) (fun _ => rfl)
    fun _ h => h
  selects p _ := aside_page p (by intro; rfl) (by intro; rfl)
  showsBooked p _ := aside_page p (by intro; rfl) (by intro; rfl)
  clock now := aside_store (fun s hs => ⟨hs, (bystander id).refl s⟩) (fun _ => rfl) (fun _ => rfl)
    (fun _ => rfl) fun _ h => h

variable (uid farmer total) in
theorem aside_updateOther (farmerId : Uid) {k : String} (hne : k ≠ id)
    {f : EventData → EventData} (hf : ∀ e, (f e).id = e.id) :
    (aside uid id farmer total).Keeps fun w => (updateEventDoc farmerId k f w).1 :=
  aside_update (keeps_updateOther farmerId hne f) fun _ hs e he hid =>
    hs k e he ((hf e.toEventData).symm.trans hid)

theorem aside_updateBooking (bookingId : String) {f : EventData → EventData}
    (hf : ∀ e, (f e).id = e.id) :
    (aside uid id farmer total).Keeps fun w => (updateBooking bookingId f w).1 := by
  intro s hs
  have hbook := bookedBy_updateBooking uid id (w := s) bookingId hf
  obtain ⟨hused, -, -⟩ := keeps_updateBooking bookingId hf s hs.used
  obtain ⟨hway, hevents, hpages⟩ : (updateBooking bookingId f s).1.underWay = s.underWay ∧
      (updateBooking bookingId f s).1.events = s.events ∧
      (updateBooking bookingId f s).1.farmPages = s.farmPages := by
    unfold updateBooking
    split
    · exact ⟨rfl, rfl, rfl⟩
    · exact ⟨rfl, rfl, rfl⟩
  have hway' : (updateBooking bookingId f s).1.underWay uid id = s.underWay uid id := by rw [hway]
  have htickets : (updateBooking bookingId f s).1.tickets id = s.tickets id := by
    rw [EventWorld.tickets, EventWorld.tickets, hevents]
  refine ⟨⟨hused, ?_, ?_, ?_⟩, hway', hbook, .inl htickets, ?_⟩
  · rw [EventWorld.Keyed, hevents]
    exact hs.keyed
  · rw [htickets]
    exact hs.owner
  · rw [begun_congr hway' hbook, hpages]
    exact hs.copies
  · exact fun p c hc => ⟨c, by rw [hpages, hc], rfl, fun _ e he => ⟨e, he, rfl⟩⟩

theorem underWay_setUnderWay (customer : Uid) (i : String) (f : ℕ → ℕ) :
    (w.setUnderWay customer i f).underWay uid id =
      if customer = uid ∧ i = id then f (w.underWay uid id) else w.underWay uid id := by
  simp only [EventWorld.setUnderWay, Function.update_apply]
  grind

variable (uid farmer total) in
theorem aside_setUnderWay (customer : Uid) {i : String} (hne : i ≠ id) (f : ℕ → ℕ) :
    (aside uid id farmer total).Keeps fun w => w.setUnderWay customer i f := by
  intro s hs
  have hway : (s.setUnderWay customer i f).underWay uid id = s.underWay uid id := by
    rw [underWay_setUnderWay, if_neg fun h => hne h.2]
  have hbook : (s.setUnderWay customer i f).bookedBy uid id = s.bookedBy uid id := rfl
  refine ⟨⟨hs.used, hs.keyed, hs.owner, ?_⟩, hway, hbook, .inl rfl, .refl s⟩
  rw [begun_congr hway hbook]
  exact hs.copies

end Effects

section Accounts

variable {uid : Uid} {id : String} {farmer : Uid} {total : ℤ}

def FarmPage (p : ℕ) (farmerId : Uid) (s : EventWorld) : Prop :=
  ∃ c, s.farmPages p = some c ∧ c.farmerId = farmerId

def BookingPage (p ref : ℕ) (farmerId : Uid) (eventId : String) (s : EventWorld) : Prop :=
  ∃ c e, s.farmPages p = some c ∧ c.farmerId = farmerId ∧ c.maps[ref]? = some e ∧
    e.id = some eventId

theorem FarmPage.later {p : ℕ} {farmerId : Uid} (s t : EventWorld)
    (hr : (bookingLedger uid id farmer total).rel s t) (h : FarmPage p farmerId s) :
    FarmPage p farmerId t := by
  obtain ⟨c, hc, hf⟩ := h
  obtain ⟨c', hc', hf', -⟩ := hr.2.2 p c hc
  exact ⟨c', hc', hf'.trans hf⟩

theorem BookingPage.later {p ref : ℕ} {farmerId : Uid} {eventId : String} (s t : EventWorld)
    (hr : (bookingLedger uid id farmer total).rel s t) (h : BookingPage p ref farmerId eventId s) :
    BookingPage p ref farmerId eventId t := by
  obtain ⟨c, e, hc, hf, he, hid⟩ := h
  obtain ⟨c', hc', hf', hm⟩ := hr.2.2 p c hc
  obtain ⟨e', he', hid'⟩ := hm ref e he
  exact ⟨c', e', hc', hf'.trans hf, he', hid'.trans hid⟩

theorem Stage.of_free {s : EventWorld} {q : ℤ × ℤ} (h : Stage uid id total s q)
    (hfree : s.underWay uid id = 0) (hnone : s.bookedBy uid id = 0) : q = 0 ∧ s.Reads id total := by
  cases h with
  | idle _ _ count => exact ⟨rfl, count⟩
  | counting busy | adding busy => omega
  | booked one => omega

theorem Stage.of_not_begun {s : EventWorld} {q : ℤ × ℤ} (h : Stage uid id total s q)
    (hs : ¬ s.Begun uid id) : s.Reads id total := by
  have hfree : s.underWay uid id = 0 := by
    by_contra hne
    exact hs (.inl hne)
  have hnone : s.bookedBy uid id = 0 := by
    by_contra hne
    exact hs (.inr hne)
  exact (h.of_free hfree hnone).2

theorem Stage.of_count {s : EventWorld} {q : ℤ × ℤ} (h : Stage uid id total s q)
    (hq : q + (1, 0) ≤ 0) : q = (-1, 0) ∧ s.underWay uid id = 1 ∧ s.bookedBy uid id = 0 := by
  cases h with
  | idle => exact absurd hq (by decide)
  | counting busy none => exact ⟨rfl, busy, none⟩
  | adding => exact absurd hq (by decide)
  | booked => exact absurd hq (by decide)

theorem Stage.of_add {s : EventWorld} {q : ℤ × ℤ} (h : Stage uid id total s q)
    (hq : q + (0, 1) ≤ 0) : q = (0, -1) ∧ s.bookedBy uid id = 0 ∧ s.Reads id (total - 1) := by
  cases h with
  | idle => exact absurd hq (by decide)
  | counting => exact absurd hq (by decide)
  | adding _ none count => exact ⟨rfl, none, count⟩
  | booked => exact absurd hq (by decide)

theorem Stage.of_booked {s : EventWorld} {q : ℤ × ℤ} (h : Stage uid id total s q)
    (hs : 1 ≤ s.bookedBy uid id) :
    q = 0 ∧ s.bookedBy uid id = 1 ∧ s.Reads id (total - 1) := by
  cases h with
  | idle _ none | counting _ none | adding _ none => omega
  | booked one count => exact ⟨rfl, one, count⟩

variable {K : EventWorld → Prop}

theorem pays_aside {α : Type} {m : EventProgram α} (h : Quiet (aside uid id farmer total) m)
    (stable : ∀ s t, (bookingLedger uid id farmer total).rel s t → K s → K t) {b : ℤ × ℤ} :
    Pays (bookingLedger uid id farmer total) (onePress uid id) (fun a s => a = b ∧ K s) m
      (fun _ a s => a = b ∧ K s) fun _ a s => a = b ∧ K s :=
  h.pays bookingLedger_covers stable

theorem pays_aside_unit {m : EventProgram Unit} (h : Quiet (aside uid id farmer total) m) :
    Pays (bookingLedger uid id farmer total) (onePress uid id) (fun a _ => a = 0) m
      (fun _ a _ => a = 0) fun _ a _ => a = 0 := h.owes bookingLedger_covers 0

def DocsFresh (uid : Uid) (id : String) (farmer : Uid) (total : ℤ) (farmerId : Uid)
    (events : List EventData) (s : EventWorld) : Prop :=
  s.Begun uid id ∨ ∀ e ∈ events, Fresh id farmer total farmerId e

theorem DocsFresh.read {s : EventWorld} {q : ℤ × ℤ} (hs : Shown uid id farmer total s)
    (hstage : Stage uid id total s q) (farmerId : Uid) : DocsFresh uid id farmer total farmerId
      ((s.events.toList.filter (·.2.farmerId = farmerId)).map (·.2.toEventData)) s := by
  by_cases hbegun : s.Begun uid id
  · exact .inl hbegun
  · refine .inr fun e he hid => ?_
    obtain ⟨⟨k, doc⟩, hdoc, rfl⟩ := List.mem_map.1 he
    obtain ⟨hmem, hfarmer⟩ := List.mem_filter.1 hdoc
    have hget := Std.TreeMap.mem_toList_iff_getElem?_eq_some.1 hmem
    have hkey : k = id := hs.keyed k doc hget hid
    rw [hkey] at hget
    have hstored : s.tickets id = some ⟨doc.farmerId, doc.maxNumbers, doc.remainingTickets⟩ := by
      rw [EventWorld.tickets, hget]
      rfl
    have howner := hs.owner _ hstored
    have hcount := hstage.of_not_begun hbegun _ hstored
    exact ⟨(of_decide_eq_true hfarmer).symm.trans howner, hcount⟩

theorem pays_fetchFarmerEvents (p : ℕ) (farmerId : Uid) :
    Pays (bookingLedger uid id farmer total) (onePress uid id)
      (fun a s => a = 0 ∧ FarmPage p farmerId s) (fetchFarmerEvents farmerId)
      (fun response a s => a = 0 ∧ FarmPage p farmerId s ∧ ∀ events, response = some events →
        DocsFresh uid id farmer total farmerId events s)
      fun _ a _ => a = 0 := by
  refine .tryCatch (F := fun _ a s => a = 0 ∧ FarmPage p farmerId s)
    (.bind (R := fun docs a s => a = 0 ∧ FarmPage p farmerId s ∧
      DocsFresh uid id farmer total farmerId docs s) (.call ?_ ?_) fun docs => ?_)
    fun _ => .pure fun a s h => ⟨h.1, h.2, fun _ h => by cases h⟩
  · rintro a s t q ⟨rfl, hp⟩ - ht - hr -
    refine ⟨0, le_rfl, by simpa using ht, (bookingLedger uid id farmer total).refl t,
      fun u r _ hr' => ⟨rfl, ?_, ?_⟩⟩
    · exact FarmPage.later _ _ hr' (FarmPage.later _ _ hr hp)
    · exact (DocsFresh.read ht.1 ht.2 farmerId).imp_left hr'.1
  · rintro a s t u r ⟨rfl, hp⟩ hr - - hr'
    exact ⟨rfl, FarmPage.later _ _ hr' (FarmPage.later _ _ hr hp)⟩
  · split
    · exact .pure fun a s h => ⟨h.1, h.2.1, fun events he => Option.some.inj he ▸ h.2.2⟩
    · exact .pure fun a s h => ⟨h.1, h.2.1, fun _ h => by cases h⟩

theorem pays_assignEvents (p : ℕ) (farmerId : Uid) (events : List EventData) :
    Pays (bookingLedger uid id farmer total) (onePress uid id)
      (fun a s => a = 0 ∧ FarmPage p farmerId s ∧ DocsFresh uid id farmer total farmerId events s)
      (ProductController.setPage p fun c => c.assignEvents events) (fun _ a _ => a = 0)
      fun _ a _ => a = 0 := by
  refine .change fun a s q hs _ _ hp => ?_
  obtain ⟨rfl, ⟨c, hc, hfarm⟩, hfresh⟩ := hp
  have hpages : (s.setFarmPage p fun c => c.assignEvents events).farmPages =
      Function.update s.farmPages p (some (c.assignEvents events)) := by
    rw [EventWorld.setFarmPage, hc, Option.map_some]
  refine ⟨0, le_rfl, ⟨⟨hs.1.used, hs.1.keyed, hs.1.owner, ?_⟩, ?_⟩, ⟨fun h => h, le_rfl, ?_⟩, rfl⟩
  · rcases hs.1.copies with h | h
    · exact .inl h
    rcases hfresh with h' | h'
    · exact .inl h'
    refine .inr fun i x ref e hx he => ?_
    rw [hpages, Function.update_apply] at hx
    split at hx
    case isTrue =>
      cases hx
      rcases List.mem_append.1 (List.mem_of_getElem? he) with hmem | hmem
      · obtain ⟨j, hj⟩ := List.getElem?_of_mem hmem
        exact h p c j e hc hj
      · rw [← hfarm] at h'
        exact h' e hmem
    case isFalse => exact h i x ref e hx he
  · rw [add_sub_cancel_right]
    exact hs.2.congr rfl rfl (.inl rfl)
  · intro i x hx
    rw [hpages, Function.update_apply]
    split
    case isTrue heq =>
      subst heq
      obtain rfl := Option.some.inj (hc.symm.trans hx)
      refine ⟨_, rfl, rfl, fun ref e he => ⟨e, ?_, rfl⟩⟩
      have hlt : ref < c.maps.length := (List.getElem?_eq_some_iff.1 he).1
      simp [ProductController.assignEvents, List.getElem?_append_left hlt, he]
    case isFalse => exact ⟨x, hx, rfl, fun _ e he => ⟨e, he, rfl⟩⟩

theorem pays_getEventList (p : ℕ) (d : Device) (farmerId : Uid) :
    Pays (bookingLedger uid id farmer total) (onePress uid id)
      (fun a s => a = 0 ∧ FarmPage p farmerId s) (ProductController.getEventList p d farmerId)
      (fun _ a _ => a = 0) fun _ a _ => a = 0 := by
  refine .tryCatch (F := fun _ a _ => a = 0)
    (.bind (R := fun _ a s => a = 0 ∧ FarmPage p farmerId s) (.look fun _ _ _ _ h => h) fun now =>
      .bind ((pays_aside (quiet_removeExpiredDoc aside_allowsLists d.uid now)
          FarmPage.later).weaken (fun _ _ h => h) (fun _ _ _ h => h) fun _ _ _ h => h.1)
        fun _ => .bind (pays_fetchFarmerEvents p farmerId) fun response => ?_)
    fun _ => .pure fun _ _ h => h
  cases response with
  | none => exact .pure fun _ _ h => h.1
  | some events =>
    exact (pays_assignEvents p farmerId events).weaken
      (fun _ _ h => ⟨h.1, h.2.1, h.2.2 events rfl⟩) (fun _ _ _ h => h) fun _ _ _ h => h

theorem pays_getBookedEventsList (p : ℕ) (d : Device) :
    Pays (bookingLedger uid id farmer total) (onePress uid id) (fun a _ => a = 0)
      (ProductController.getBookedEventsList p d) (fun _ a _ => a = 0) fun _ a _ => a = 0 :=
  pays_aside_unit (quiet_getBookedEventsList aside_allowsLists p d)

theorem pays_spawn {m : EventProgram Unit} {P : EventWorld → Prop}
    (hm : Pays (bookingLedger uid id farmer total) (onePress uid id) (fun a s => a = 0 ∧ P s) m
      (fun _ a _ => a = 0) fun _ a _ => a = 0)
    (stable : ∀ s t, (bookingLedger uid id farmer total).rel s t → K s → K t)
    (hP : ∀ s, K s → P s) :
    Pays (bookingLedger uid id farmer total) (onePress uid id) (fun a s => a = 0 ∧ K s) (spawn m)
      (fun _ a s => a = 0 ∧ K s) fun _ a _ => a = 0 := by
  refine .spawn hm fun a s p _ _ hp => ?_
  obtain ⟨rfl, hK⟩ := hp
  exact ⟨0, 0, le_rfl, le_rfl, (add_zero 0).symm, ⟨rfl, hP s hK⟩,
    fun _ _ hr => ⟨rfl, stable _ _ hr hK⟩⟩

theorem pays_reload (p : ℕ) (c : ProductController) :
    Pays (bookingLedger uid id farmer total) (onePress uid id)
      (fun a s => a = 0 ∧ FarmPage p c.farmerId s) (ProductController.reload p c)
      (fun _ a s => a = 0 ∧ FarmPage p c.farmerId s) fun _ a _ => a = 0 :=
  .bind (pays_spawn (P := fun _ => True) ((pays_getBookedEventsList p c.device).weaken
      (fun _ _ h => h.1) (fun _ _ _ h => h) fun _ _ _ h => h) FarmPage.later fun _ _ => trivial)
    fun _ => pays_spawn (pays_getEventList p c.device c.farmerId) FarmPage.later fun _ h => h

theorem pays_openFarm (p : ℕ) (d : Device) (farmerId : Uid) (farmName : String) :
    Pays (bookingLedger uid id farmer total) (onePress uid id) (fun a _ => a = 0)
      (ProductController.openFarm p d farmerId farmName) (fun _ a _ => a = 0)
      fun _ a _ => a = 0 := by
  refine .bind (R := fun opened a s => a = 0 ∧ (opened = true → FarmPage p farmerId s))
    (.seg fun a s q hs _ _ ha => ?_) fun opened => ?_
  · subst ha
    cases hp : s.farmPages p with
    | some c =>
      exact ⟨0, le_rfl, by simpa using hs, (bookingLedger uid id farmer total).refl s, rfl,
        by simp⟩
    | none =>
      refine ⟨0, le_rfl, ⟨⟨hs.1.used, hs.1.keyed, hs.1.owner, ?_⟩, ?_⟩,
        ⟨fun h => h, le_rfl, ?_⟩, rfl, fun _ => ⟨_, Function.update_self .., rfl⟩⟩
      · refine hs.1.copies.imp_right fun h i x ref e hx he => ?_
        dsimp only at hx
        rw [Function.update_apply] at hx
        split at hx
        · cases hx
          cases he
        · exact h i x ref e hx he
      · rw [add_sub_cancel_right]
        exact hs.2.congr rfl rfl (.inl rfl)
      · intro i x hx
        have hne : i ≠ p := fun heq => by
          rw [heq, hp] at hx
          cases hx
        exact ⟨x, (Function.update_of_ne hne ..).trans hx, rfl, fun _ e he => ⟨e, he, rfl⟩⟩
  · cases opened with
    | true =>
      refine .bind (R := fun _ a _ => a = 0) ?_ fun _ => ?_
      · exact (pays_spawn (pays_getEventList p d farmerId) FarmPage.later fun _ h => h).weaken
          (fun _ _ h => ⟨h.1, h.2 rfl⟩) (fun _ _ _ h => h.1) fun _ _ _ h => h
      · exact (pays_spawn (K := fun _ => True) (P := fun _ => True)
          ((pays_getBookedEventsList p d).weaken (fun _ _ h => h.1) (fun _ _ _ h => h)
            fun _ _ _ h => h) (fun _ _ _ h => h) fun _ h => h).weaken
          (fun _ _ h => ⟨h, trivial⟩) (fun _ _ _ h => h.1) fun _ _ _ h => h
    | false => exact .pure fun _ _ h => h.1

def countOwed (id eventId : String) : ℤ × ℤ := if eventId = id then (1, 0) else 0

def addOwed (id eventId : String) : ℤ × ℤ := if eventId = id then (0, 1) else 0

theorem owed_nonneg (id eventId : String) :
    0 ≤ countOwed id eventId ∧ 0 ≤ addOwed id eventId := by
  unfold countOwed addOwed
  split
  · decide
  · decide

theorem pays_begin {p ref : ℕ} (c : ProductController) (eventId : String)
    (huid : eventId = id → c.device.uid = uid) :
    Pays (bookingLedger uid id farmer total) (onePress uid id)
      (fun a s => a = 0 ∧ (eventId = id → s.underWay uid id = 0 ∧ s.bookedBy uid id = 0) ∧
        BookingPage p ref c.farmerId eventId s)
      (change fun w => w.setUnderWay c.device.uid eventId (· + 1) : EventProgram Unit)
      (fun _ a s => a = countOwed id eventId ∧ BookingPage p ref c.farmerId eventId s)
      fun _ a _ => a = 0 := by
  refine .change fun a s q hs _ _ hp => ?_
  obtain ⟨rfl, hfree, hpage⟩ := hp
  refine ⟨countOwed id eventId, (owed_nonneg id eventId).1, ?_⟩
  by_cases heq : eventId = id
  · obtain ⟨hway, hnone⟩ := hfree heq
    obtain ⟨rfl, hcount⟩ := hs.2.of_free hway hnone
    have hbusy : (s.setUnderWay c.device.uid eventId (· + 1)).underWay uid id = 1 := by
      rw [underWay_setUnderWay, if_pos ⟨huid heq, heq⟩, hway]
    have hbegun : (s.setUnderWay c.device.uid eventId (· + 1)).Begun uid id :=
      .inl (by rw [hbusy]; decide)
    have howed : (0 : ℤ × ℤ) + 0 - countOwed id eventId = (-1, 0) := by
      rw [countOwed, if_pos heq]
      decide
    rw [howed]
    exact ⟨⟨⟨hs.1.used, hs.1.keyed, hs.1.owner, .inl hbegun⟩, .counting hbusy hnone hcount⟩,
      ⟨fun _ => hbegun, le_rfl, .refl s⟩, rfl, hpage⟩
  · obtain ⟨hi, hr⟩ := aside_setUnderWay uid farmer total
      c.device.uid heq (· + 1) s hs.1
    have howed : q + 0 - countOwed id eventId = q := by
      rw [countOwed, if_neg heq, add_sub_cancel_right]
    rw [howed]
    exact ⟨bookingLedger_covers.paid _ _ _ hr hi hs, bookingLedger_covers.rel _ _ hr, rfl, hpage⟩

theorem PagesLater.of_pages {s t : EventWorld} (h : t.farmPages = s.farmPages) :
    PagesLater s t := fun i x hx => ⟨x, by rw [h, hx], rfl, fun _ e he => ⟨e, he, rfl⟩⟩

/-- The count that is stored is the one that was written. -/
theorem count_stored {farmerID : Uid} {eventId : String} {n : ℤ} {t : EventWorld}
    (howner : ∀ e, t.tickets eventId = some e → e.farmerId = farmerID) (hfits : fitsInt64 n) :
    let u := (updateEventDoc farmerID eventId
      (fun e => { e with remainingTickets := toString n }) t).1
    (∀ e, u.tickets eventId = some e → e.farmerId = farmerID) ∧ u.Reads eventId n := by
  intro u
  cases hdoc : t.events[eventId]? with
  | none =>
    have hnothing : u.tickets eventId = none := by
      simp [u, updateEventDoc, EventWorld.tickets, hdoc]
    refine ⟨fun e he => ?_, fun e he => ?_⟩
    · rw [hnothing] at he
      cases he
    · rw [hnothing] at he
      cases he
  | some doc =>
    have hfarmer : doc.farmerId = farmerID :=
      howner ⟨doc.farmerId, _, _⟩ (by rw [EventWorld.tickets, hdoc]; rfl)
    have hu : u.tickets eventId = some ⟨doc.farmerId, doc.maxNumbers, toString n⟩ := by
      dsimp only [u]
      rw [updateEventDoc_stored hdoc hfarmer, tickets_insert]
    refine ⟨fun e he => ?_, fun e he => ?_⟩
    · rw [hu] at he
      rw [← Option.some.inj he]
      exact hfarmer
    · rw [hu] at he
      rw [← Option.some.inj he]
      exact intTryParse_toString hfits

theorem pays_count (hid : id ≠ "") {p ref : ℕ} {farmerID : Uid} (eventId : String) {n : ℤ}
    (hn : eventId = id → farmerID = farmer ∧ n = total - 1) (hfits : fitsInt64 n) :
    Pays (bookingLedger uid id farmer total) (onePress uid id)
      (fun a s => a = countOwed id eventId ∧ BookingPage p ref farmerID eventId s)
      (updateEventTicketCount eventId n farmerID)
      (fun _ a s => a = addOwed id eventId ∧ BookingPage p ref farmerID eventId s)
      fun _ a _ => a = 0 := by
  have other : eventId ≠ id → countOwed id eventId = addOwed id eventId := fun h => by
    rw [countOwed, addOwed, if_neg h, if_neg h]
  refine .tryCatch
    (F := fun _ a s => a = addOwed id eventId ∧ BookingPage p ref farmerID eventId s)
    (.bind (R := fun _ a s => a = countOwed id eventId ∧ BookingPage p ref farmerID eventId s)
      ?_ fun _ => .call ?_ ?_) fun _ => .pure fun _ _ h => h
  · unfold checkDoc
    split
    case isTrue h =>
      exact .throw fun a s hp => ⟨hp.1.trans (other fun he => hid (he.symm.trans h)), hp.2⟩
    case isFalse => exact .pure fun a s hp => hp
  · rintro a s t q ⟨rfl, hp⟩ - ht hl hr -
    have hpt := BookingPage.later _ _ hr hp
    refine ⟨addOwed id eventId, (owed_nonneg id eventId).2, ?_⟩
    by_cases heq : eventId = id
    · subst heq
      obtain ⟨rfl, rfl⟩ := hn rfl
      rw [countOwed, if_pos rfl] at hl
      obtain ⟨rfl, hbusy, hnone⟩ := ht.2.of_count hl
      have howed : ((-1, 0) : ℤ × ℤ) + countOwed eventId eventId - addOwed eventId eventId =
          (0, -1) := by
        rw [countOwed, addOwed, if_pos rfl, if_pos rfl]
        decide
      rw [howed]
      let f : EventData → EventData := fun e => { e with remainingTickets := toString (total - 1) }
      have hway : (updateEventDoc farmerID eventId f t).1.underWay uid eventId = 1 := by
        rw [underWay_updateEventDoc, hbusy]
      have hbook : (updateEventDoc farmerID eventId f t).1.bookedBy uid eventId = 0 := by
        rw [EventWorld.bookedBy, bookings_updateEventDoc]
        exact hnone
      have hbegun : (updateEventDoc farmerID eventId f t).1.Begun uid eventId :=
        .inl (by rw [hway]; decide)
      have hpages : PagesLater t (updateEventDoc farmerID eventId f t).1 :=
        .of_pages (farmPages_updateEventDoc ..)
      obtain ⟨howner, hreads⟩ := count_stored ht.1.owner hfits
      have hlater : (bookingLedger uid eventId farmerID total).rel t
          (updateEventDoc farmerID eventId f t).1 :=
        ⟨fun _ => hbegun, by rw [hnone, hbook], hpages⟩
      refine ⟨⟨⟨usedIds_updateEventDoc _ _ _ ht.1.used, ?_, howner, .inl hbegun⟩,
        .adding hway hbook hreads⟩, hlater, fun u r _ hr' => ?_⟩
      · exact keyed_updateEventDoc farmerID ht.1.keyed fun _ _ _ => rfl
      · have hpu := BookingPage.later _ _ hr' (BookingPage.later _ _ hlater hpt)
        split
        · exact ⟨rfl, hpu⟩
        · exact ⟨rfl, hpu⟩
    · obtain ⟨hi, hrel⟩ := aside_updateOther uid farmer total
        farmerID heq (f := fun e => { e with remainingTickets := toString n }) (fun _ => rfl) t ht.1
      have hpaid := bookingLedger_covers.paid _ _ _ hrel hi ht
      have hlater := bookingLedger_covers.rel _ _ hrel
      rw [other heq, add_sub_cancel_right]
      refine ⟨hpaid, hlater, fun u r _ hr' => ?_⟩
      have hpu := BookingPage.later _ _ hr' (BookingPage.later _ _ hlater hpt)
      split
      · exact ⟨rfl, hpu⟩
      · exact ⟨rfl, hpu⟩
  · rintro a s t u r ⟨rfl, hp⟩ hr hl - hr'
    exact ⟨other hl, BookingPage.later _ _ hr' (BookingPage.later _ _ hr hp)⟩

def Done (uid : Uid) (id : String) (p : ℕ) (farmerId : Uid) (eventId : String) (s : EventWorld) :
    Prop :=
  (eventId = id → 1 ≤ s.bookedBy uid id) ∧ FarmPage p farmerId s

theorem Done.later {p : ℕ} {farmerId : Uid} {eventId : String} (s t : EventWorld)
    (hr : (bookingLedger uid id farmer total).rel s t) (h : Done uid id p farmerId eventId s) :
    Done uid id p farmerId eventId t :=
  ⟨fun heq => (h.1 heq).trans hr.2.1, FarmPage.later _ _ hr h.2⟩

theorem pays_add (ids : IdSupply) {customer : Uid} {p ref : ℕ} {farmerId : Uid}
    (eventId : String) (huid : eventId = id → customer = uid) :
    Pays (bookingLedger uid id farmer total) (onePress uid id)
      (fun a s => a = addOwed id eventId ∧ BookingPage p ref farmerId eventId s)
      (addToBookEvents ids customer p ref)
      (fun _ a s => a = 0 ∧ Done uid id p farmerId eventId s) fun _ a _ => a = 0 := by
  have other : eventId ≠ id → addOwed id eventId = 0 := fun h => by rw [addOwed, if_neg h]
  refine .tryCatch (F := fun _ a s => a = 0 ∧ Done uid id p farmerId eventId s)
    (.bind (R := fun e a s => a = addOwed id eventId ∧ e.id = some eventId ∧ FarmPage p farmerId s)
      (.look fun a s q hs hp => ?_) fun e => .bind
      (R := fun _ a s => a = 0 ∧ Done uid id p farmerId eventId s) (.call ?_ ?_) fun docRef => ?_)
    fun _ => .pure fun _ _ h => h
  · obtain ⟨rfl, c, e, hc, hf, he, hid⟩ := hp
    have hmap : s.map? p ref = some e := by rw [EventWorld.map?, hc, Option.bind_some, he]
    exact ⟨rfl, by rw [hmap]; exact hid, c, hc, hf⟩
  · rintro a s t q ⟨rfl, he, hfarm⟩ - ht hl hr -
    have hfarm' := FarmPage.later _ _ hr hfarm
    have hbook : (addBooking ids customer e t).1.bookedBy uid id =
      (if customer = uid ∧ e.id = some id then 1 else 0) + t.bookedBy uid id :=
      bookedBy_addBooking ids customer e
    refine ⟨0, le_rfl, ?_⟩
    by_cases heq : eventId = id
    · rw [addOwed, if_pos heq] at hl ⊢
      obtain ⟨rfl, hnone, hcount⟩ := ht.2.of_add hl
      rw [if_pos ⟨huid heq, he.trans (by rw [heq])⟩, hnone, add_zero] at hbook
      have hbegun : (addBooking ids customer e t).1.Begun uid id := .inr (by rw [hbook]; decide)
      have hpages : PagesLater t (addBooking ids customer e t).1 := .refl t
      have hlater : (bookingLedger uid id farmer total).rel t (addBooking ids customer e t).1 :=
        ⟨fun _ => hbegun, by rw [hnone, hbook]; decide, hpages⟩
      refine ⟨⟨⟨usedIds_addBooking ids customer e ht.1.used, ht.1.keyed, ht.1.owner, .inl hbegun⟩,
        .booked hbook hcount⟩, hlater, fun u r _ hr' => ⟨rfl, fun _ => ?_, ?_⟩⟩
      · have := hr'.2.1
        rwa [hbook] at this
      · exact FarmPage.later _ _ hr' (FarmPage.later _ _ hlater hfarm')
    · have hne : e.id ≠ some id := fun h => heq (Option.some.inj (he.symm.trans h))
      rw [if_neg fun h => hne h.2, zero_add] at hbook
      have hpages : PagesLater t (addBooking ids customer e t).1 := .refl t
      have hi : Shown uid id farmer total (addBooking ids customer e t).1 := by
        have hsame : (addBooking ids customer e t).1.Begun uid id ↔ t.Begun uid id :=
          begun_congr rfl hbook
        exact ⟨usedIds_addBooking ids customer e ht.1.used, ht.1.keyed, ht.1.owner,
          ht.1.copies.imp_left hsame.2⟩
      have hrel : (aside uid id farmer total).rel t (addBooking ids customer e t).1 :=
        ⟨rfl, hbook, .inl rfl, hpages⟩
      have hlater := bookingLedger_covers.rel _ _ hrel
      rw [other heq, add_sub_cancel_right]
      exact ⟨bookingLedger_covers.paid _ _ _ hrel hi ht, hlater, fun u r _ hr' =>
        ⟨rfl, fun h => absurd h heq, FarmPage.later _ _ hr' (FarmPage.later _ _ hlater hfarm')⟩⟩
  · rintro a s t u r ⟨rfl, he, hfarm⟩ hr hl - hr'
    have hne : eventId ≠ id := fun h => hl (he.trans (by rw [h]))
    exact ⟨other hne, fun h => absurd h hne, FarmPage.later _ _ hr' (FarmPage.later _ _ hr hfarm)⟩
  · have rest : Quiet (aside uid id farmer total) (do
        change fun w => w.setMap p ref fun e => { e with bookingId := some docRef }
        call .setBookingId (updateBooking docRef fun b => { b with bookingId := some docRef })
          DartError.firestore : EventProgram Unit) :=
      .bind (.change (aside_setMap p ref (fun _ => rfl) fun _ => rfl)) fun _ =>
        .call (aside_updateBooking docRef fun _ => rfl) fun _ _ => trivial
    exact pays_aside rest Done.later

theorem pays_finish {p : ℕ} {farmerId : Uid} (customer : Uid) (eventId : String) :
    Pays (bookingLedger uid id farmer total) (onePress uid id)
      (fun a s => a = 0 ∧ Done uid id p farmerId eventId s)
      (change fun w => w.setUnderWay customer eventId (· - 1) : EventProgram Unit)
      (fun _ a s => a = 0 ∧ FarmPage p farmerId s) fun _ a _ => a = 0 := by
  refine .change fun a s q hs _ _ hp => ?_
  obtain ⟨rfl, hdone, hfarm⟩ := hp
  refine ⟨0, le_rfl, ?_⟩
  rw [add_sub_cancel_right]
  by_cases heq : eventId = id
  · obtain ⟨rfl, hone, hcount⟩ := hs.2.of_booked (hdone heq)
    have hone' : (s.setUnderWay customer eventId (· - 1)).bookedBy uid id = 1 := hone
    have hbegun : (s.setUnderWay customer eventId (· - 1)).Begun uid id :=
      .inr (by rw [hone']; decide)
    exact ⟨⟨⟨hs.1.used, hs.1.keyed, hs.1.owner, .inl hbegun⟩, .booked hone' hcount⟩,
      ⟨fun _ => hbegun, le_rfl, .refl s⟩, rfl, hfarm⟩
  · obtain ⟨hi, hr⟩ := aside_setUnderWay uid farmer total
      customer heq (· - 1) s hs.1
    exact ⟨bookingLedger_covers.paid _ _ _ hr hi hs, bookingLedger_covers.rel _ _ hr, rfl, hfarm⟩

theorem pays_storeBooking_once (hid : id ≠ "") (ids : IdSupply) (p : ℕ) (c : ProductController)
    (ref : ℕ) (eventId : String) {r : ℤ}
    (hown : eventId = id → c.device.uid = uid ∧ c.farmerId = farmer ∧ r = total)
    (hfits : fitsInt64 (r - 1)) :
    Pays (bookingLedger uid id farmer total) (onePress uid id)
      (fun a s => a = 0 ∧ (eventId = id → s.underWay uid id = 0 ∧ s.bookedBy uid id = 0) ∧
        BookingPage p ref c.farmerId eventId s)
      (ProductController.storeBooking ids p c ref eventId r)
      (fun _ a s => a = 0 ∧ FarmPage p c.farmerId s) fun _ a _ => a = 0 :=
  .bind (pays_begin c eventId fun h => (hown h).1) fun _ =>
    .bind (pays_count hid eventId (fun h => ⟨(hown h).2.1, by rw [(hown h).2.2]⟩) hfits) fun _ =>
      .bind (pays_add ids eventId fun h => (hown h).1) fun _ => pays_finish c.device.uid eventId

theorem pays_takeTicket_once (hid : id ≠ "") (ids : IdSupply) (p : ℕ) (c : ProductController)
    (ref : ℕ) (eventId : String) {r : ℤ}
    (hown : eventId = id → c.device.uid = uid ∧ c.farmerId = farmer ∧ r = total)
    (hfits : fitsInt64 (r - 1)) :
    Pays (bookingLedger uid id farmer total) (onePress uid id)
      (fun a s => a = 0 ∧ (eventId = id → s.underWay uid id = 0 ∧ s.bookedBy uid id = 0) ∧
        BookingPage p ref c.farmerId eventId s)
      (ProductController.takeTicket ids p c ref (some eventId) r) (fun _ a _ => a = 0)
      fun _ a _ => a = 0 := by
  have shown : Quiet (aside uid id farmer total) (ProductController.showDialog p) :=
    .change (aside_page p (by intro; rfl) (by intro; rfl))
  exact .bind (pays_storeBooking_once hid ids p c ref eventId hown hfits) fun _ =>
    .bind (pays_reload p c) fun _ => (pays_aside_unit shown).weaken (fun _ _ h => h.1)
      (fun _ _ _ h => h) fun _ _ _ h => h

def Ready (uid : Uid) (id : String) (c : ProductController) (p ref : ℕ) (s : EventWorld) : Prop :=
  ∃ c', s.farmPages p = some c' ∧ c'.farmerId = c.farmerId ∧
    ∀ e ∈ c'.maps[ref]?, e.id = some id → ∀ r ∈ intTryParse e.remainingTickets, 0 < r →
      c.device.uid = uid ∧ s.underWay uid id = 0 ∧ s.bookedBy uid id = 0

theorem Ready.setMap {c : ProductController} {p ref : ℕ} {s : EventWorld}
    (h : Ready uid id c p ref s) {f : EventData → EventData} (hid : ∀ e, (f e).id = e.id)
    (hcount : ∀ e, (f e).remainingTickets = e.remainingTickets) :
    Ready uid id c p ref (s.setMap p ref f) := by
  obtain ⟨c', hc, hf, hpress⟩ := h
  refine ⟨{ c' with maps := c'.maps.modify ref f }, ?_, hf, fun e he hide r hr hpos => ?_⟩
  · simp [EventWorld.setMap, EventWorld.setFarmPage, hc]
  · simp only [List.getElem?_modify_eq] at he
    obtain ⟨e', he', rfl⟩ := Option.map_eq_some_iff.1 he
    rw [hid] at hide
    rw [hcount] at hr
    exact hpress e' he' hide r hr hpos

theorem pays_mark {c : ProductController} {p ref : ℕ} {f : EventData → EventData}
    (hid : ∀ e, (f e).id = e.id) (hcount : ∀ e, (f e).remainingTickets = e.remainingTickets) :
    Pays (bookingLedger uid id farmer total) (onePress uid id)
      (fun a s => a = 0 ∧ Ready uid id c p ref s) (ProductController.setMap p ref f)
      (fun _ a s => a = 0 ∧ Ready uid id c p ref s) fun _ a _ => a = 0 := by
  refine .change fun a s q hs _ _ hp => ?_
  obtain ⟨rfl, hready⟩ := hp
  obtain ⟨hi, hr⟩ := aside_setMap p ref hid hcount s hs.1
  refine ⟨0, le_rfl, ?_, bookingLedger_covers.rel _ _ hr, rfl, hready.setMap hid hcount⟩
  rw [add_sub_cancel_right]
  exact bookingLedger_covers.paid _ _ _ hr hi hs

theorem Ready.known {c : ProductController} {p ref : ℕ} {s : EventWorld} {q : ℤ × ℤ}
    {e : EventData} (h : Ready uid id c p ref s)
    (hs : (bookingLedger uid id farmer total).inv s q) (he : (s.map? p ref).getD {} = e)
    {eventId : String} (hid : e.id = some eventId) :
    BookingPage p ref c.farmerId eventId s ∧ ∀ r, intTryParse e.remainingTickets = some r → 0 < r →
      eventId = id → (c.device.uid = uid ∧ c.farmerId = farmer ∧ r = total) ∧
        s.underWay uid id = 0 ∧ s.bookedBy uid id = 0 := by
  obtain ⟨c', hc, hf, hpress⟩ := h
  have hmap : c'.maps[ref]? = some e := by
    rw [EventWorld.map?, hc, Option.bind_some] at he
    cases hx : c'.maps[ref]? with
    | none =>
      rw [hx] at he
      rw [← he] at hid
      cases hid
    | some x =>
      rw [hx] at he
      rw [← he]
      rfl
  refine ⟨⟨c', e, hc, hf, hmap, hid⟩, fun r hr hpos heq => ?_⟩
  subst heq
  obtain ⟨huid, hfree, hnone⟩ := hpress e hmap hid r hr hpos
  have hbegun : ¬ s.Begun uid eventId := fun h => h.elim (· hfree) (· hnone)
  obtain ⟨hfarmer, hcount⟩ := hs.1.copies.resolve_left hbegun p c' ref e hc hmap hid
  exact ⟨⟨huid, hf.symm.trans hfarmer, Option.some.inj (hr.symm.trans hcount)⟩, hfree, hnone⟩

theorem pays_bookSelected_once (hid : id ≠ "") (ids : IdSupply) (p : ℕ) (c : ProductController)
    (ref : ℕ) : Pays (bookingLedger uid id farmer total) (onePress uid id)
      (fun a s => a = 0 ∧ Ready uid id c p ref s) (ProductController.bookSelected ids p c ref)
      (fun _ a _ => a = 0) fun _ a _ => a = 0 := by
  refine .bind (pays_mark (fun _ => rfl) fun _ => rfl) fun _ => .tryCatch (F := fun _ a _ => a = 0)
    (.bind (R := fun e a s => (a = 0 ∧ Ready uid id c p ref s) ∧ (s.map? p ref).getD {} = e)
      (.look fun _ _ _ _ h => ⟨h, rfl⟩) fun e => ?_) fun _ => .pure fun _ _ h => h
  set r := (intTryParse e.remainingTickets).getD 0 with hr
  have hread : 0 < r → intTryParse e.remainingTickets = some r := fun hpos => by
    cases h : intTryParse e.remainingTickets with
    | none => simp [hr, h] at hpos
    | some n => simp [hr, h]
  -- what the map says is known while the second field is set
  refine .bind (R := fun _ a s => (∀ eventId, e.id = some eventId → eventId = id → 0 < r →
      c.device.uid = uid ∧ c.farmerId = farmer ∧ r = total) ∧ a = 0 ∧ ∀ eventId,
        e.id = some eventId → BookingPage p ref c.farmerId eventId s ∧ (eventId = id → 0 < r →
          s.underWay uid id = 0 ∧ s.bookedBy uid id = 0)) (.change fun a s q hs hl ha hp => ?_)
    fun _ => .given fun hown => ?_
  · obtain ⟨⟨rfl, hready⟩, he⟩ := hp
    obtain ⟨hi, hrel⟩ := aside_setMap p ref
      (f := fun e => { e with remainingTicket := some (toString r) }) (fun _ => rfl) (fun _ => rfl)
      s hs.1
    have hlater := bookingLedger_covers.rel _ _ hrel
    refine ⟨0, le_rfl, ?_, hlater, fun eventId hid' heq hpos => ?_, rfl, fun eventId hid' => ?_⟩
    · rw [add_sub_cancel_right]
      exact bookingLedger_covers.paid _ _ _ hrel hi hs
    · exact ((hready.known hs he hid').2 r (hread hpos) hpos heq).1
    · obtain ⟨hpage, hknown⟩ := hready.known hs he hid'
      refine ⟨BookingPage.later _ _ hlater hpage, fun heq hpos => ?_⟩
      obtain ⟨-, hfree, hnone⟩ := hknown r (hread hpos) hpos heq
      exact ⟨hrel.1.trans hfree, hrel.2.1.trans hnone⟩
  · split
    case isTrue => exact .pure fun _ _ h => h.1
    case isFalse hpos =>
      have hpos : 0 < r := by omega
      cases heid : e.id with
      | none => exact .throw fun _ _ h => h.1
      | some eventId =>
        exact (pays_takeTicket_once hid ids p c ref eventId (fun heq =>
          hown eventId heid heq hpos) (fits_pred (hread hpos) hpos)).weaken (fun a s h => ⟨h.1, fun heq =>
            (h.2 eventId rfl).2 heq hpos, (h.2 eventId rfl).1⟩) (fun _ _ _ h => h)
          fun _ _ _ h => h

theorem pays_bookEvents_once (hid : id ≠ "") (ids : IdSupply) (p : ℕ) :
    Pays (bookingLedger uid id farmer total) (onePress uid id)
      (fun a s => a = 0 ∧ MayPress uid id p s) (ProductController.bookEvents ids p)
      (fun _ a _ => a = 0) fun _ a _ => a = 0 := by
  refine .bind (R := fun c a s => (a = 0 ∧ MayPress uid id p s) ∧ s.farmPages p = c)
    (.look fun _ _ _ _ h => ⟨h, rfl⟩) fun c => ?_
  cases c with
  | none => exact .pure fun _ _ h => h.1.1
  | some c =>
    dsimp only
    cases hitem : c.farmerEventItem with
    | nil => exact .throw fun _ _ h => h.1.1
    | cons ref rest =>
      refine (pays_bookSelected_once hid ids p c ref).weaken (fun a s h => ?_) (fun _ _ _ h => h)
        fun _ _ _ h => h
      obtain ⟨⟨rfl, hpress⟩, hc⟩ := h
      refine ⟨rfl, c, hc, rfl, fun e he hide r hr hpos => ?_⟩
      have hsel : s.selected? p = some (c, e) := by
        rw [selected?_eq hc hitem, EventWorld.map?, hc, Option.bind_some, Option.mem_def.1 he]
        rfl
      exact hpress (c, e) hsel hide r hr hpos

theorem pays_updateEvents_once (d : Device) :
    Pays (bookingLedger uid id farmer total) (onePress uid id) (fun a _ => a = 0)
      (EventController.updateEvents d) (fun _ a _ => a = 0) fun _ a _ => a = 0 :=
  owes_updateEvents bookingLedger_covers aside_allowsLists
    (fun c remainingTickets t hne => aside_updateOther uid farmer total d.uid hne
      (f := c.formData remainingTickets) (fun _ => rfl) t) 0

theorem bookings_balance (hid : id ≠ "") (ids : IdSupply) :
    (bookingLedger uid id farmer total).Balances (onePress uid id) (ticketHandler ids) := by
  intro e s p hs hl hstart
  have task : ∀ {m : EventProgram Unit} {P : ℤ × ℤ → EventWorld → Prop},
      Pays (bookingLedger uid id farmer total) (onePress uid id) P m (fun _ a _ => a = 0)
        (fun _ a _ => a = 0) → P 0 s →
      m.task.Pays (bookingLedger uid id farmer total) (onePress uid id) s p 0 := fun h hP =>
    h.task hs hl le_rfl hP
  cases e with
  | bookEvents page => exact task (pays_bookEvents_once hid ids page) ⟨rfl, hstart⟩
  | updateEvents d => exact task (pays_updateEvents_once d) rfl
  | openFarm page d farmerId farmName => exact task (pays_openFarm page d farmerId farmName) rfl
  | _ => exact task (pays_aside_unit (quiet_ticketProgram aside_allowsLists ids trivial
      fun _ _ _ _ h => by cases h)) rfl

variable (uid id) in
theorem bookedBy_nonneg (s : EventWorld) : 0 ≤ s.bookedBy uid id := by
  refine List.sum_nonneg fun x hx => ?_
  obtain ⟨b, -, rfl⟩ := List.mem_map.1 hx
  split
  · decide
  · decide

theorem Stage.bookedBy_le {s : EventWorld} {q : ℤ × ℤ} (h : Stage uid id total s q) :
    s.bookedBy uid id ≤ 1 := by
  cases h with
  | idle _ none | counting _ none | adding _ none => omega
  | booked one => omega

theorem Stage.at_rest {s : EventWorld} {q : ℤ × ℤ} (h : Stage uid id total s q) (hq : q = 0) :
    ∃ r, s.Reads id r ∧ r + s.bookedBy uid id = total := by
  cases h with
  | idle _ none count => exact ⟨total, count, by omega⟩
  | counting => exact absurd hq (by decide)
  | adding => exact absurd hq (by decide)
  | booked one count => exact ⟨total - 1, count, by omega⟩

theorem Stage.start {s : EventWorld} {n : ℤ} (hfree : s.underWay uid id = 0)
    (hone : s.bookedBy uid id ≤ 1) (hcount : s.Reads id n) :
    Stage uid id (n + s.bookedBy uid id) s 0 := by
  have hnonneg := bookedBy_nonneg uid id s
  by_cases hnone : s.bookedBy uid id = 0
  · exact .idle hfree hnone (by rwa [hnone, add_zero])
  · have hbooked : s.bookedBy uid id = 1 := by omega
    exact .booked hbooked (by rwa [hbooked, add_sub_cancel_right])

end Accounts

/-- A customer who takes a ticket only while no booking of theirs is stored or under way never
    has two bookings of the event; and once no program is in flight, the count has been lowered
    by one for each booking that was added. -/
theorem one_booking {ids : IdSupply} {u v : TicketMarket} {ms : List (Move TicketEvent)}
    {uid : Uid} {id : String} (hid : id ≠ "") (hu : u.slots = [])
    (hclosed : ∀ p, u.state.farmPages p = none) (hkeyed : u.state.Keyed id)
    (hfree : u.state.underWay uid id = 0) (hone : u.state.bookedBy uid id ≤ 1)
    (hm : Meeting (ticketHandler ids) (onePress uid id) u ms)
    (hx : exec (ticketHandler ids) u ms = some v) {e : EventWorld.Tickets}
    (he : u.state.tickets id = some e) {n : ℤ} (hn : intTryParse e.remainingTickets = some n) :
    v.state.bookedBy uid id ≤ 1 ∧ (v.slots = [] → ∀ e', v.state.tickets id = some e' →
      ∃ r, intTryParse e'.remainingTickets = some r ∧
        r + v.state.bookedBy uid id = n + u.state.bookedBy uid id) := by
  have hstored : ∀ e', u.state.tickets id = some e' → e' = e := fun e' he' =>
    Option.some.inj (he'.symm.trans he)
  have hcount : u.state.Reads id n := fun e' he' => by rw [hstored e' he', hn]
  have shown : Shown uid id e.farmerId (n + u.state.bookedBy uid id) u.state := by
    refine ⟨EventWorld.used_of_tickets he, hkeyed, fun e' he' => by rw [hstored e' he'],
      .inr fun p c _ _ hc => ?_⟩
    rw [hclosed p] at hc
    cases hc
  have start : (bookingLedger uid id e.farmerId (n + u.state.bookedBy uid id)).inv u.state 0 :=
    ⟨shown, Stage.start hfree hone hcount⟩
  have held := (Ledger.Holds.idle hu le_rfl start).run (bookings_balance hid ids)
    (fun _ => le_rfl) hm hx
  rw [Ledger.charged_zero _ fun _ => rfl, add_zero] at held
  obtain ⟨paid, -, -, hstage⟩ := held.paid_le
  refine ⟨hstage.bookedBy_le, fun hv e' he' => ?_⟩
  obtain ⟨-, hrest⟩ := held.settled hv
  obtain ⟨r, hr, hsum⟩ := hrest.at_rest rfl
  exact ⟨r, hr e' he', hsum⟩

def tastingStored : EventWorld where
  events := (∅ : Std.TreeMap String FarmEvent).insert "tasting" ⟨tasting "5", aFarmer.uid⟩

def openTasting : List (Move TicketEvent) :=
  .start (.openFarm 0 aCustomer aFarmer.uid "Farm") :: goOn 3 ++ [.start (.selectEvent 0 0)]

theorem one_booking_tasting :
    let v := Pool.after (ticketHandler IdSupply.longer) ⟨tastingStored, []⟩
      (openTasting ++ .start (.bookEvents 0) :: goOn 6)
    v.state.bookedBy aCustomer.uid "tasting" ≤ 1 ∧ ∀ e', v.state.tickets "tasting" = some e' →
      ∃ r, intTryParse e'.remainingTickets = some r ∧ r + v.state.bookedBy aCustomer.uid "tasting" =
        5 + tastingStored.bookedBy aCustomer.uid "tasting" := by
  intro v
  have hrun : exec (ticketHandler IdSupply.longer) ⟨tastingStored, []⟩
    (openTasting ++ .start (.bookEvents 0) :: goOn 6) = some v := exec_after (by decide +kernel)
  have hmeets : Meeting (ticketHandler IdSupply.longer) (onePress aCustomer.uid "tasting")
    ⟨tastingStored, []⟩ (openTasting ++ .start (.bookEvents 0) :: goOn 6) := by decide +kernel
  have hkeyed : tastingStored.Keyed "tasting" := fun k e he _ => by
    rw [tastingStored, Std.TreeMap.getElem?_insert] at he
    split at he
    case isTrue h => exact (Std.LawfulEqCmp.compare_eq_iff_eq.1 h).symm
    case isFalse => cases he
  obtain ⟨hone, hrest⟩ := one_booking (by decide) rfl (fun _ => rfl) hkeyed rfl
    (by decide +kernel) hmeets hrun (e := ⟨aFarmer.uid, "5", "5"⟩) (n := 5)
    (by decide +kernel) (by decide +kernel)
  exact ⟨hone, hrest (by decide +kernel)⟩

/-- The button `Book` is pressed only while it can be, by one customer; the event is not edited,
    and no call is lost. -/
def buttonPressed (id : String) : Guard EventWorld EventAccess TicketEvent where
  start
    | .bookEvents p, w => (w.farmPages p).any fun c => c.device.uid = aCustomer.uid ∧ c.canBook
    | _, _ => True
  access
    | .editEvent _ eventId, _ => eventId ≠ id
    | _, _ => True
  lost _ _ := False

instance (id : String) : (buttonPressed id).Checks where
  start
    | .bookEvents p, w => inferInstanceAs (Decidable ((w.farmPages p).any (fun c =>
        c.device.uid = aCustomer.uid ∧ c.canBook) = true))
    | .openFarm _ _ _ _, _ | .selectEvent _ _, _ | .openEvents _, _ | .editEvent _ _, _
    | .newEvent _, _ | .countVisitors _ _, _ | .typeText _ _ _, _ | .pickLocation _ _ _ _, _
    | .postEvents _, _ | .updateEvents _, _ | .deleteEvent _, _ | .clock _, _ => .isTrue trivial
  access
    | .editEvent _ eventId, _ => inferInstanceAs (Decidable (eventId ≠ id))
    | .plain, _ | .updateTickets _ _ _, _ | .addBooking _, _ | .setBookingId, _ => .isTrue trivial
  lost _ _ := .isFalse fun h => h

/-- Two presses before the lists are loaded again: two bookings, and one ticket less. -/
theorem booked_twice : ¬ ∀ (ids : IdSupply) (u v : TicketMarket) (ms : List (Move TicketEvent))
    (id : String), id ≠ "" → u.slots = [] → (∀ p, u.state.farmPages p = none) →
    Meeting (ticketHandler ids) (buttonPressed id) u ms → exec (ticketHandler ids) u ms = some v →
    u.state.bookedBy aCustomer.uid id = 0 → v.state.bookedBy aCustomer.uid id ≤ 1 := by
  intro h
  let u : TicketMarket := ⟨tastingStored, []⟩
  let ms : List (Move TicketEvent) :=
    openTasting ++ .start (.bookEvents 0) :: .start (.bookEvents 0) :: goOn 12
  have one := h IdSupply.longer u (u.after (ticketHandler IdSupply.longer) ms) ms "tasting"
    (by decide) rfl (fun _ => rfl) (by decide +kernel) (exec_after (by decide +kernel))
    (by decide +kernel)
  exact absurd one (by decide +kernel)

end Gherass
