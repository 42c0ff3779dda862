import Gherass.CapacityEdits
import Gherass.TicketConservation

set_option autoImplicit false

/-!
# Whether a booking is made as a whole

Both helpers swallow what goes wrong, and the customer is told of a success.
-/
namespace Gherass

open EventLoop EventLoop.Async FirebaseHelper

/-- The page, the event and the number of tickets left of a press on `Book` that takes one. -/
def EventWorld.ticketTaken? (s : EventWorld) (p : ℕ) : Option (ProductController × String × ℤ) :=
  match s.selected? p with
  | none => none
  | some (c, e) =>
    match e.id, intTryParse e.remainingTickets with
    | some id, some remainingTickets =>
      if 0 < remainingTickets then some (c, id, remainingTickets) else none
    | _, _ => none

/-- Of the calls of a booking none is lost, and the update of the count finds its event. -/
def bookingThrough (ok : EventAccess → Bool) (s : EventWorld)
    (x : ProductController × String × ℤ) : Prop :=
  (x.2.1 ≠ "" ∧ ok (.updateTickets x.1.farmerId x.2.1 (x.2.2 - 1)) = true ∧
    (s.tickets x.2.1).any (·.farmerId = x.1.farmerId)) ∧
  ok (.addBooking (some x.2.1)) = true ∧ ok .setBookingId = true

instance (ok : EventAccess → Bool) (s : EventWorld) (x : ProductController × String × ℤ) :
    Decidable (bookingThrough ok s x) := by
  unfold bookingThrough
  infer_instance

variable (ids : IdSupply) (ok : EventAccess → Bool) (p : ℕ) (s : EventWorld)

def afterBooking : EventWorld := ((ticketHandler ids (.bookEvents p)).alone ok s).2

def EventWorld.dialogs (s : EventWorld) (p : ℕ) : Option ℕ :=
  (s.farmPages p).map (·.successDialogs)

/-- If a call of the press fails, nothing has changed and no success is told. -/
structure BookedWhole : Prop where
  tickets : ∀ x ∈ s.ticketTaken? p, ¬ bookingThrough ok s x →
    (afterBooking ids ok p s).tickets x.2.1 = s.tickets x.2.1
  bookings : ∀ x ∈ s.ticketTaken? p, ¬ bookingThrough ok s x →
    (afterBooking ids ok p s).bookings = s.bookings
  dialogs : ∀ x ∈ s.ticketTaken? p, ¬ bookingThrough ok s x →
    (afterBooking ids ok p s).dialogs p = s.dialogs p

section Dialogs

variable {ids ok p s}

def silent (p : ℕ) : Contract EventWorld EventAccess := .ofFrame fun w => w.dialogs p

theorem dialogs_setFarmPage (q : ℕ) {f : ProductController → ProductController}
    (hf : ∀ c, (f c).successDialogs = c.successDialogs) (w : EventWorld) :
    (w.setFarmPage q f).dialogs p = w.dialogs p := by
  simp only [EventWorld.dialogs, EventWorld.setFarmPage, Function.update_apply]
  split
  case isTrue h =>
    subst h
    cases w.farmPages p with
    | none => rfl
    | some c => simp [hf]
  case isFalse => rfl

theorem dialogs_setMap (q ref : ℕ) (f : EventData → EventData) (w : EventWorld) :
    (w.setMap q ref f).dialogs p = w.dialogs p :=
  dialogs_setFarmPage q (f := fun c => { c with maps := c.maps.modify ref f }) (fun _ => rfl) w

theorem dialogs_updateEventDoc (uid : Uid) (id : String) (f : EventData → EventData)
    (w : EventWorld) : (updateEventDoc uid id f w).1.dialogs p = w.dialogs p := by
  unfold updateEventDoc
  split
  · split
    · rfl
    · rfl
  · rfl

theorem dialogs_updateBooking (id : String) (f : EventData → EventData) (w : EventWorld) :
    (updateBooking id f w).1.dialogs p = w.dialogs p := by
  unfold updateBooking
  split
  · rfl
  · rfl

theorem dialogs_deleteEventDoc (uid : Uid) (id : String) (w : EventWorld) :
    (deleteEventDoc uid id w).dialogs p = w.dialogs p := by
  unfold deleteEventDoc
  split
  · rfl
  · rfl

theorem silent_allowsLists (p : ℕ) : AllowsLists (silent p) where
  plain _ _ := trivial
  deletes uid id w _ := ⟨trivial, dialogs_deleteEventDoc uid id w⟩
  adds _ _ _ _ _ _ := ⟨trivial, rfl⟩
  names uid id w _ := ⟨trivial, dialogs_updateEventDoc uid id _ w⟩
  fills _ _ _ _ := ⟨trivial, rfl⟩
  selects q _ w _ := ⟨trivial, dialogs_setFarmPage q (by intro; rfl) w⟩
  showsBooked q _ w _ := ⟨trivial, dialogs_setFarmPage q (by intro; rfl) w⟩
  clock _ _ _ := ⟨trivial, rfl⟩

theorem keeps_assignEvents_silent (q : ℕ) (events : List EventData) : (silent p).Keeps fun w =>
    w.setFarmPage q fun c => c.assignEvents events := fun w _ =>
  ⟨trivial, dialogs_setFarmPage q (f := fun c => c.assignEvents events) (fun _ => rfl) w⟩

theorem silent_updateEventTicketCount (id : String) (n : ℤ) (farmerID : Uid) :
    Quiet (silent p) (updateEventTicketCount id n farmerID) := by
  refine .tryCatch (.bind ?_ fun _ => .call (fun w _ => ⟨trivial, dialogs_updateEventDoc ..⟩)
    fun _ _ => trivial) fun _ => .pure _
  unfold checkDoc
  split
  · exact .throw _
  · exact .pure _

theorem silent_addToBookEvents (uid : Uid) (q ref : ℕ) :
    Quiet (silent p) (addToBookEvents ids uid q ref) :=
  .tryCatch (.bind (.look _) fun _ => .bind (.call (fun _ _ => ⟨trivial, rfl⟩)
    fun _ _ => trivial) fun _ => .bind
      (.change fun w _ => ⟨trivial, dialogs_setMap q ref _ w⟩)
      fun _ => .call (fun _ _ => ⟨trivial, dialogs_updateBooking ..⟩) fun _ _ => trivial)
    fun _ => .pure _

theorem silent_storeBooking (c : ProductController) (q ref : ℕ) (id : String) (n : ℤ) :
    Quiet (silent p) (ProductController.storeBooking ids q c ref id n) :=
  .bind (.change fun _ _ => ⟨trivial, rfl⟩) fun _ =>
    .bind (silent_updateEventTicketCount id _ _) fun _ =>
      .bind (silent_addToBookEvents _ q ref) fun _ => .change fun _ _ => ⟨trivial, rfl⟩

theorem takeTicket_dialogs (c : ProductController) {ref : ℕ} {e : EventData}
    (he : s.map? p ref = some e) (id : String) (n : ℤ) :
    ((ProductController.takeTicket ids p c ref (some id) n).task.alone ok s).2.dialogs p =
      (s.dialogs p).map (· + 1) := by
  let m : EventProgram Unit := do
    ProductController.storeBooking ids p c ref id n
    ProductController.reload p c
  obtain ⟨t, ht⟩ : ∃ t, Yields ok m s (.ok ()) t :=
    ⟨_, .bind (yields_storeBooking c he id n) (.bind (.spawn _) (.spawn _))⟩
  have quiet : Quiet (silent p) m := .bind (silent_storeBooking c p ref id n) fun _ =>
    quiet_reload (silent_allowsLists p) p c (keeps_assignEvents_silent p)
  have hsame : t.dialogs p = s.dialogs p := by
    rw [← ht.task]
    exact (quiet.alone trivial).2
  have told : Yields ok (m >>= fun _ => ProductController.showDialog p) s (.ok ())
    (t.setFarmPage p fun c => { c with successDialogs := c.successDialogs + 1 }) :=
    .bind ht (.change _)
  have hrun : ((ProductController.takeTicket ids p c ref (some id) n).task.alone ok s).2 =
    t.setFarmPage p fun c => { c with successDialogs := c.successDialogs + 1 } := told.task
  rw [hrun, ← hsame]
  simp only [EventWorld.dialogs, EventWorld.setFarmPage, Function.update_self, Option.map_map]
  rfl

theorem ticketTaken?_eq {x : ProductController × String × ℤ} (h : s.ticketTaken? p = some x) :
    ∃ e, s.selected? p = some (x.1, e) ∧ e.id = some x.2.1 ∧
      intTryParse e.remainingTickets = some x.2.2 ∧ 0 < x.2.2 := by
  unfold EventWorld.ticketTaken? at h
  split at h
  case h_1 => cases h
  case h_2 c e hsel =>
    split at h
    case h_2 => cases h
    case h_1 id r hid hr =>
      split at h
      case isFalse => cases h
      case isTrue hpos =>
        cases h
        exact ⟨e, hsel, hid, hr, hpos⟩

variable (ids ok) in
theorem dialogs_of_taken {x : ProductController × String × ℤ} (h : s.ticketTaken? p = some x) :
    (afterBooking ids ok p s).dialogs p = (s.dialogs p).map (· + 1) := by
  obtain ⟨e, hsel, hid, hr, hpos⟩ := ticketTaken?_eq h
  obtain ⟨c, id, r⟩ := x
  obtain ⟨ref, hmap, hrun⟩ := bookEvents_taken ids ok hsel hr hpos
  rw [afterBooking, hrun, hid, takeTicket_dialogs c (map?_withMarks c hmap r)]
  have marked : (withMarks c p ref r s).dialogs p = s.dialogs p :=
    (dialogs_setMap p ref _ _).trans (dialogs_setMap p ref _ s)
  rw [marked]

end Dialogs

/-- A press books as a whole exactly when none of its calls fails. -/
theorem bookedWhole_iff {ids : IdSupply} {ok : EventAccess → Bool} {p : ℕ} {s : EventWorld} :
    BookedWhole ids ok p s ↔ ∀ x ∈ s.ticketTaken? p, bookingThrough ok s x := by
  refine ⟨fun h x hx => ?_, fun h => ⟨?_, ?_, ?_⟩⟩
  · by_contra hfails
    have told := dialogs_of_taken ids ok hx
    rw [h.dialogs x hx hfails] at told
    obtain ⟨e, hsel, -⟩ := ticketTaken?_eq hx
    obtain ⟨c, hc, -⟩ := Option.bind_eq_some_iff.1 hsel
    simp only [EventWorld.dialogs, hc, Option.map_some, Option.some.injEq] at told
    omega
  · exact fun x hx hfails => absurd (h x hx) hfails
  · exact fun x hx hfails => absurd (h x hx) hfails
  · exact fun x hx hfails => absurd (h x hx) hfails

/-- The booking is lost: the count is lowered, no booking is stored, and a success is told. -/
theorem lost_booking_told : ¬ ∀ (ids : IdSupply) (ok : EventAccess → Bool) (p : ℕ)
    (s : EventWorld), BookedWhole ids ok p s := by
  intro h
  have whole := h .longer (fun l => l ≠ .addBooking (some "tasting")) 0 (tastingWorld "5")
  have count := whole.tickets (tastingPage aCustomer "5", "tasting", 5) (by rfl) (by decide +kernel)
  exact absurd count (by decide +kernel)

end Gherass
