import Gherass.EventLoopLedger
import Gherass.Marketplace
import Gherass.TicketAccounts
import Mathlib.Algebra.Order.Group.Int
import Mathlib.Data.Int.ConditionallyCompleteOrder
import Mathlib.Order.ConditionallyCompleteLattice.Indexed

set_option autoImplicit false

/-!
# Tickets under concurrent bookings

A booking writes the count that it computed from the customer's copy, and adds itself by a
second write. Between the two it owes one booking.
-/
namespace Gherass

open EventLoop EventLoop.Async FirebaseHelper

/-- An event's count is written only where it is what the customer's copy says; the event
    is not edited, and none of the two writes of its bookings is lost. -/
def countStillStored (id : String) : Guard EventWorld EventAccess TicketEvent where
  start _ _ := True
  access
    | .updateTickets farmerId eventId remainingTickets, w => eventId = id →
      (w.tickets id).any fun e => e.farmerId = farmerId ∧
        intTryParse e.remainingTickets = some (remainingTickets + 1)
    | .editEvent _ eventId, _ => eventId ≠ id
    | _, _ => True
  lost
    | .updateTickets _ eventId _, _ => eventId ≠ id
    | .addBooking eventId, _ => eventId ≠ some id
    | _, _ => True

instance (id : String) : (countStillStored id).Checks where
  start _ _ := .isTrue trivial
  access l w := by
    cases l with
    | updateTickets | editEvent => unfold countStillStored; infer_instance
    | plain | addBooking | setBookingId => exact .isTrue trivial
  lost l w := by
    cases l with
    | updateTickets | addBooking => unfold countStillStored; infer_instance
    | plain | editEvent | setBookingId => exact .isTrue trivial

def ticketLedger (id : String) (capacity : ℤ) : Ledger EventWorld TicketEvent ℤ where
  charge _ := 0
  inv s paid := id ∈ s.usedIds ∧ s.booked id ≤ capacity + paid ∧ ∀ e, s.tickets id = some e →
    ∃ r, intTryParse e.remainingTickets = some r ∧ 0 ≤ r ∧ s.booked id + r = capacity + paid
  rel s t := ∀ p ref e, s.map? p ref = some e → ∃ e', t.map? p ref = some e' ∧ e'.id = e.id
  refl _ _ _ e he := ⟨e, he, rfl⟩
  trans := by
    intro s t u h h' p ref e he
    obtain ⟨e', he', hid⟩ := h p ref e he
    obtain ⟨e'', he'', hid'⟩ := h' p ref e' he'
    exact ⟨e'', he'', hid'.trans hid⟩

section Accounts

variable {id : String} {capacity : ℤ}

theorem ticketLedger_covers : (ticketLedger id capacity).Covers (bystander id) where
  inv _ _ h := h.1
  paid := by
    rintro s t p ⟨hb, ht, -⟩ hused ⟨-, hle, hsum⟩
    refine ⟨hused, by omega, fun e he => ?_⟩
    have hs : s.tickets id = some e := by
      rcases ht with ht | ht
      · rw [← ht, he]
      · rw [ht] at he
        cases he
    obtain ⟨r, hr, hpos, hr'⟩ := hsum e hs
    exact ⟨r, hr, hpos, by omega⟩
  rel _ _ h := h.2.2

def owedFor (id eventId : String) : ℤ := if eventId = id then 1 else 0

theorem owedFor_nonneg (id eventId : String) : 0 ≤ owedFor id eventId := by
  unfold owedFor
  split
  · omega
  · omega

def IsMapOf (eventId : Option String) (p ref : ℕ) (s : EventWorld) : Prop :=
  ∀ i, eventId = some i → ∃ e, s.map? p ref = some e ∧ e.id = some i

theorem IsMapOf.later {eventId : Option String} {p ref : ℕ} (s t : EventWorld)
    (hr : (ticketLedger id capacity).rel s t) (h : IsMapOf eventId p ref s) :
    IsMapOf eventId p ref t := by
  intro i hi
  obtain ⟨e, he, hid⟩ := h i hi
  obtain ⟨e', he', hid'⟩ := hr p ref e he
  exact ⟨e', he', hid'.trans hid⟩

theorem counted_of_access {farmerId : Uid} {n : ℤ} {w : EventWorld}
    (h : (countStillStored id).access (.updateTickets farmerId id n) w) :
    ∃ e, w.events[id]? = some e ∧ e.farmerId = farmerId ∧
      intTryParse e.remainingTickets = some (n + 1) := by
  have hany := h rfl
  cases he : w.events[id]? with
  | none => simp [EventWorld.tickets, he] at hany
  | some e => exact ⟨e, rfl, by simpa [EventWorld.tickets, he] using hany⟩

variable {K : EventWorld → Prop} {E : DartError → ℤ → EventWorld → Prop}

theorem pays_updateEventTicketCount (hid : id ≠ "")
    (stable : ∀ s t, (ticketLedger id capacity).rel s t → K s → K t) (eventId : String) {n : ℤ}
    (hn : 0 ≤ n) (farmerID : Uid) :
    Pays (ticketLedger id capacity) (countStillStored id) (fun a s => a = 0 ∧ K s)
      (updateEventTicketCount eventId n farmerID)
      (fun _ a s => a = owedFor id eventId ∧ K s) E := by
  have other : eventId ≠ id → (0 : ℤ) = owedFor id eventId := fun h => (if_neg h).symm
  refine .tryCatch (F := fun _ a s => a = owedFor id eventId ∧ K s)
    (.bind (R := fun _ a s => a = 0 ∧ K s ∧ eventId ≠ "") ?_ fun _ => .call ?_ ?_)
    fun _ => .pure fun _ _ h => h
  · unfold checkDoc
    split
    case isTrue h =>
      refine .throw fun a s hp => ⟨hp.1.trans (other fun he => hid (he.symm.trans h)), hp.2⟩
    case isFalse h => exact .pure fun a s hp => ⟨hp.1, hp.2, h⟩
  · rintro a s t q ⟨rfl, hK, -⟩ - ht - hr hguard
    have hKt : K t := stable s t hr hK
    refine ⟨owedFor id eventId, owedFor_nonneg id eventId, ?_⟩
    by_cases heq : eventId = id
    · -- the write finds the count of the customer's copy
      subst heq
      have howed : owedFor eventId eventId = 1 := if_pos rfl
      obtain ⟨e, he, hfarmer, hcount⟩ := counted_of_access hguard
      rw [updateEventDoc_stored he hfarmer]
      obtain ⟨r, hr', -, hsum⟩ := ht.2.2 _ (by rw [EventWorld.tickets, he]; rfl)
      have hread : r = n + 1 := Option.some.inj (hr'.symm.trans hcount)
      have hbooked := ht.2.1
      refine ⟨⟨usedIds_insert eventId ht.1, ?_, fun e' he' => ⟨n, ?_, hn, ?_⟩⟩,
        fun _ _ e he => ⟨e, he, rfl⟩, fun u z hu hr'' => ⟨rfl, stable _ _ hr'' (stable _ _ ?_ hKt)⟩⟩
      · change t.booked eventId ≤ _
        omega
      · rw [tickets_insert] at he'
        rw [← Option.some.inj he']
        exact intTryParse_toString (by simpa using fits_pred hcount (by omega))
      · change t.booked eventId + n = _
        omega
      · exact fun _ _ e he => ⟨e, he, rfl⟩
    · obtain ⟨hi, hrel⟩ := keeps_updateOther farmerID heq _ t ht.1
      have hpaid := ticketLedger_covers.paid _ _ _ hrel hi ht
      have hlater : (ticketLedger id capacity).rel t _ := ticketLedger_covers.rel _ _ hrel
      rw [← other heq, add_sub_cancel_right]
      refine ⟨hpaid, hlater, fun u z hu hr' => ?_⟩
      have hKu : K u := stable _ _ hr' (stable _ _ hlater hKt)
      split
      · exact ⟨rfl, hKu⟩
      · exact ⟨rfl, hKu⟩
  · rintro a s t u r ⟨rfl, hK, -⟩ hr hl - hr'
    exact ⟨other hl, stable _ _ ((ticketLedger id capacity).trans hr hr') hK⟩

theorem pays_addToBookEvents (ids : IdSupply) (uid : Uid) (p ref : ℕ) (eventId : String) :
    Pays (ticketLedger id capacity) (countStillStored id)
      (fun a s => a = owedFor id eventId ∧ IsMapOf (some eventId) p ref s)
      (addToBookEvents ids uid p ref) (fun _ a _ => a = 0) fun _ a _ => a = 0 := by
  have owed : ∀ e : EventData, e.id = some eventId →
      owedFor id eventId = if e.id = some id then 1 else 0 := fun e he => by
    simp [owedFor, he]
  refine .tryCatch (F := fun _ a _ => a = 0)
    (.bind (R := fun e a _ => a = owedFor id eventId ∧ e.id = some eventId)
      (.look fun a s q hs hp => ?_) fun e => .bind (R := fun _ a _ => a = 0) (.call ?_ ?_)
        fun docRef => ?_) fun _ => .pure fun _ _ h => h
  · obtain ⟨e, he, hid⟩ := hp.2 eventId rfl
    exact ⟨hp.1, by simpa [he] using hid⟩
  · rintro a s t q ⟨rfl, he⟩ - ⟨hused, hle, hsum⟩ - hr -
    have hbooked : (addBooking ids uid e t).1.booked id = owedFor id eventId + t.booked id := by
      rw [owed e he]
      exact booked_addBooking ids uid e
    refine ⟨0, le_rfl, ⟨?_, ?_, fun e' he' => ?_⟩, fun _ _ e he => ⟨e, he, rfl⟩, fun _ _ _ _ => rfl⟩
    · exact usedIds_addBooking ids uid e hused
    · rw [hbooked]
      omega
    · obtain ⟨r, hr', hpos, hsum'⟩ := hsum e' he'
      exact ⟨r, hr', hpos, by omega⟩
  · rintro a s t u r ⟨rfl, he⟩ hr hl - -
    refine if_neg fun h => hl ?_
    rw [he, h]
  · have rest : Quiet (bystander id) (do
        change fun w => w.setMap p ref fun e => { e with bookingId := some docRef }
        call .setBookingId (updateBooking docRef fun b => { b with bookingId := some docRef })
          DartError.firestore : EventProgram Unit) :=
      .bind (.change (keeps_setMap p ref fun _ => rfl)) fun _ =>
        .call (keeps_updateBooking docRef fun _ => rfl) fun _ _ => trivial
    exact rest.owes ticketLedger_covers 0

theorem pays_quiet {m : EventProgram Unit} (h : Quiet (bystander id) m) :
    Pays (ticketLedger id capacity) (countStillStored id) (fun a _ => a = 0) m
      (fun _ a _ => a = 0) fun _ a _ => a = 0 := h.owes ticketLedger_covers 0

theorem pays_storeBooking (hid : id ≠ "") (ids : IdSupply) (p : ℕ) (c : ProductController)
    (ref : ℕ) (eventId : String) {remainingTickets : ℤ} (hn : 0 < remainingTickets) :
    Pays (ticketLedger id capacity) (countStillStored id)
      (fun a s => a = 0 ∧ IsMapOf (some eventId) p ref s)
      (ProductController.storeBooking ids p c ref eventId remainingTickets)
      (fun _ a _ => a = 0) fun _ a _ => a = 0 := by
  have hcount : 0 ≤ remainingTickets - 1 := by omega
  have begun : Pays (ticketLedger id capacity) (countStillStored id)
      (fun a s => a = 0 ∧ IsMapOf (some eventId) p ref s)
      (change fun w => w.setUnderWay c.device.uid eventId (· + 1) : EventProgram Unit)
      (fun _ a s => a = 0 ∧ IsMapOf (some eventId) p ref s) fun _ a s =>
        a = 0 ∧ IsMapOf (some eventId) p ref s :=
    (bystander_setUnderWay id c.device.uid eventId (· + 1)).pays ticketLedger_covers IsMapOf.later
  exact .bind (begun.weaken (fun _ _ h => h) (fun _ _ _ h => h) fun _ _ _ h => h.1) fun _ =>
    .bind (pays_updateEventTicketCount hid IsMapOf.later eventId hcount c.farmerId) fun _ =>
      .bind (pays_addToBookEvents ids _ p ref eventId) fun _ =>
        pays_quiet (bystander_setUnderWay id _ _ _)

theorem pays_takeTicket (hid : id ≠ "") (ids : IdSupply) (p : ℕ) (c : ProductController)
    (ref : ℕ) (eventId : Option String) {remainingTickets : ℤ} (hn : 0 < remainingTickets) :
    Pays (ticketLedger id capacity) (countStillStored id)
      (fun a s => a = 0 ∧ IsMapOf eventId p ref s)
      (ProductController.takeTicket ids p c ref eventId remainingTickets)
      (fun _ a _ => a = 0) fun _ a _ => a = 0 := by
  cases eventId with
  | none => exact .throw fun _ _ h => h.1
  | some eventId =>
    exact .bind (pays_storeBooking hid ids p c ref eventId hn) fun _ =>
      pays_quiet (bystander_afterBooking id p c)

theorem pays_bookSelected (hid : id ≠ "") (ids : IdSupply) (p : ℕ) (c : ProductController)
    (ref : ℕ) : Pays (ticketLedger id capacity) (countStillStored id) (fun a _ => a = 0)
      (ProductController.bookSelected ids p c ref) (fun _ a _ => a = 0) fun _ a _ => a = 0 := by
  refine .bind (R := fun _ a _ => a = 0)
    (pays_quiet (.change (keeps_setMap p ref fun _ => rfl))) fun _ =>
    .tryCatch (F := fun _ a _ => a = 0)
      (.bind (R := fun e a s => a = 0 ∧ IsMapOf e.id p ref s) (.look fun a s q hs hp => ?_)
        fun e => .bind (R := fun _ a s => a = 0 ∧ IsMapOf e.id p ref s) ?_ fun _ => ?_)
      fun _ => .pure fun _ _ h => h
  · refine ⟨hp, fun i hi => ?_⟩
    cases hmap : s.map? p ref with
    | none => simp [hmap] at hi
    | some e => exact ⟨e, rfl, by simpa [hmap] using hi⟩
  · have quiet : Quiet (bystander id) (ProductController.setMap p ref fun e' => { e' with
        remainingTicket := some (toString ((intTryParse e.remainingTickets).getD 0)) }) :=
      .change (keeps_setMap p ref fun _ => rfl)
    exact (quiet.pays ticketLedger_covers IsMapOf.later).weaken (fun _ _ h => h)
      (fun _ _ _ h => h) fun _ _ _ h => h.1
  · split
    case isTrue => exact .pure fun _ _ h => h.1
    case isFalse hpos => exact pays_takeTicket hid ids p c ref e.id (by omega)

theorem pays_bookEvents (hid : id ≠ "") (ids : IdSupply) (p : ℕ) :
    Pays (ticketLedger id capacity) (countStillStored id) (fun a _ => a = 0)
      (ProductController.bookEvents ids p) (fun _ a _ => a = 0) fun _ a _ => a = 0 := by
  refine .bind (R := fun _ a _ => a = 0) (.look fun _ _ _ _ h => h) fun c => ?_
  cases c with
  | none => exact .pure fun _ _ h => h
  | some c =>
    dsimp only
    cases c.farmerEventItem with
    | nil => exact .throw fun _ _ h => h
    | cons ref _ => exact pays_bookSelected hid ids p c ref

theorem owes_updateEvents {M : Type} [AddCommGroup M] [PartialOrder M] [IsOrderedAddMonoid M]
    {L : Ledger EventWorld TicketEvent M} {g : Guard EventWorld EventAccess TicketEvent}
    {C : Contract EventWorld EventAccess} (hC : L.Covers C) (lists : AllowsLists C) {d : Device}
    (hwrite : ∀ (c : EventController) remainingTickets t, g.access (.editEvent d.uid c.eventId) t →
      C.inv t → C.inv (updateEventDoc d.uid c.eventId (c.formData remainingTickets) t).1 ∧
        C.rel t (updateEventDoc d.uid c.eventId (c.formData remainingTickets) t).1) (b : M) :
    Pays L g (fun a _ => a = b) (EventController.updateEvents d) (fun _ a _ => a = b)
      fun _ a _ => a = b := by
  refine .bind (R := fun _ a _ => a = b) (.look fun _ _ _ _ h => h) fun c => ?_
  cases c.validationError with
  | some error => exact .pure fun _ _ h => h
  | none =>
    cases c.updateRemainTickets with
    | none => exact .throw fun _ _ h => h
    | some remainingTickets =>
      have writes : Pays L g (fun a _ => a = b) (call (.editEvent d.uid c.eventId)
          (updateEventDoc d.uid c.eventId (c.formData remainingTickets)) .firestore :
            EventProgram Unit) (fun _ a _ => a = b) fun _ a _ => a = b :=
        .call_keeps hC (hwrite c remainingTickets) b
      have sent : Pays L g (fun a _ => a = b) (FirebaseHelper.updateEventsToFarmer d.uid c.eventId
          (c.formData remainingTickets)) (fun _ a _ => a = b) fun _ a _ => a = b :=
        .tryCatch (F := fun _ a _ => a = b)
          (.bind ((quiet_checkDoc c.eventId).owes hC b) fun _ => writes) fun _ => .pure fun _ _ h => h
      exact .tryCatch (F := fun _ a _ => a = b)
        (.bind sent fun _ => (quiet_afterForm lists d).owes hC b) fun _ => .pure fun _ _ h => h

theorem pays_updateEvents (d : Device) :
    Pays (ticketLedger id capacity) (countStillStored id) (fun a _ => a = 0)
      (EventController.updateEvents d) (fun _ a _ => a = 0) fun _ a _ => a = 0 :=
  owes_updateEvents ticketLedger_covers (bystander_allowsLists id)
    (fun _ _ t hne => keeps_updateOther d.uid hne _ t) 0

theorem tickets_balance (hid : id ≠ "") (ids : IdSupply) (capacity : ℤ) :
    (ticketLedger id capacity).Balances (countStillStored id) (ticketHandler ids) := by
  intro e s p hs _ _
  have task : ∀ {m : EventProgram Unit}, Pays (ticketLedger id capacity) (countStillStored id)
      (fun a _ => a = 0) m (fun _ a _ => a = 0) (fun _ a _ => a = 0) →
      m.task.Pays (ticketLedger id capacity) (countStillStored id) s p 0 := fun h =>
    h.task hs trivial le_rfl rfl
  cases e with
  | bookEvents page => exact task (pays_bookEvents hid ids page)
  | updateEvents d => exact task (pays_updateEvents d)
  | _ => exact task (pays_quiet (bystander_program id ids trivial))

end Accounts

/-- Never are more tickets booked than there are; and once no program is in flight, the
    bookings and the remaining tickets make up the capacity. -/
theorem tickets_conserved {ids : IdSupply} {u v : TicketMarket} {ms : List (Move TicketEvent)}
    {id : String} (hid : id ≠ "") (hu : u.slots = [])
    (hm : Meeting (ticketHandler ids) (countStillStored id) u ms)
    (hx : exec (ticketHandler ids) u ms = some v) {e : EventWorld.Tickets}
    (he : u.state.tickets id = some e) {capacity : ℕ}
    (hstart : intTryParse e.remainingTickets = some (capacity : ℤ))
    (hbooked : u.state.booked id = 0) :
    v.state.booked id ≤ capacity ∧ (v.slots = [] → ∀ e', v.state.tickets id = some e' →
      ∃ r, intTryParse e'.remainingTickets = some r ∧ v.state.booked id + r = capacity) := by
  have start : (ticketLedger id capacity).inv u.state 0 := by
    refine ⟨EventWorld.used_of_tickets he, by omega, fun e' he' => ⟨capacity, ?_, by omega, by omega⟩⟩
    rw [he] at he'
    rw [← Option.some.inj he', hstart]
  have held := (Ledger.Holds.idle hu trivial start).run (tickets_balance hid ids capacity)
    (fun _ => le_rfl) hm hx
  rw [Ledger.charged_zero _ fun _ => rfl, add_zero] at held
  obtain ⟨paid, hpaid, -, hle, -⟩ := held.paid_le
  refine ⟨by omega, fun hv e' he' => ?_⟩
  obtain ⟨-, -, hsum⟩ := held.settled hv
  obtain ⟨r, hr, -, hsum⟩ := hsum e' he'
  exact ⟨r, hr, by omega⟩

/-- A copy of an event for five visitors, with what the copy says is left. -/
def tasting (remainingTickets : String) : EventData where
  id := some "tasting"
  startDate := "05 May 10:00 AM"
  maxNumbers := "5"
  remainingTickets := remainingTickets

def tastingPage (d : Device) (remainingTickets : String) : ProductController where
  device := d
  farmerId := aFarmer.uid
  farmName := "Farm"
  maps := [tasting remainingTickets]
  farmerEventItem := [0]

/-- Two customers have the event open; the second one's copy says that `left` are left. -/
def tastingWorld (left : String) : EventWorld where
  events := (∅ : Std.TreeMap String FarmEvent).insert "tasting" ⟨tasting "5", aFarmer.uid⟩
  farmPages
    | 0 => some (tastingPage aCustomer "5")
    | 1 => some (tastingPage anotherCustomer left)
    | _ => none

def goOn {η : Type} (calls : ℕ) : List (Move η) :=
  (List.replicate calls [.serve 0, .resume 0]).flatten

def bookedInTurn : List (Move TicketEvent) :=
  .start (.bookEvents 0) :: goOn 6 ++ .start (.bookEvents 1) :: goOn 6

theorem tickets_conserved_inTurn :
    let v := Pool.after (ticketHandler IdSupply.longer) ⟨tastingWorld "4", []⟩ bookedInTurn
    v.state.booked "tasting" ≤ (5 : ℕ) ∧ ∀ e', v.state.tickets "tasting" = some e' →
      ∃ r, intTryParse e'.remainingTickets = some r ∧ v.state.booked "tasting" + r = (5 : ℕ) := by
  intro v
  have hrun : exec (ticketHandler IdSupply.longer) ⟨tastingWorld "4", []⟩ bookedInTurn = some v :=
    exec_after (by decide +kernel)
  have hmeets : Meeting (ticketHandler IdSupply.longer) (countStillStored "tasting")
    ⟨tastingWorld "4", []⟩ bookedInTurn := by decide +kernel
  have hstored : (tastingWorld "4").tickets "tasting" = some ⟨aFarmer.uid, "5", "5"⟩ := by
    decide +kernel
  have hread : intTryParse "5" = some ((5 : ℕ) : ℤ) := by decide +kernel
  obtain ⟨hle, hsum⟩ :=
    tickets_conserved (by decide) rfl hmeets hrun hstored hread (by decide +kernel)
  exact ⟨hle, hsum (by decide +kernel)⟩

def notEdited (id : String) : Guard EventWorld EventAccess TicketEvent := .lossless fun l _ =>
  match l with
  | .editEvent _ eventId => eventId ≠ id
  | _ => true

instance (id : String) : (notEdited id).Checks := inferInstanceAs (Guard.lossless _).Checks

/-- Both customers' copies say five; the second booking writes the same count as the first. -/
theorem ticket_forgotten : ¬ ∀ (ids : IdSupply) (u v : TicketMarket) (ms : List (Move TicketEvent))
    (id : String), id ≠ "" → u.slots = [] → Meeting (ticketHandler ids) (notEdited id) u ms →
    exec (ticketHandler ids) u ms = some v → ∀ (e : EventWorld.Tickets) (capacity : ℕ),
    u.state.tickets id = some e → intTryParse e.remainingTickets = some (capacity : ℤ) →
    u.state.booked id = 0 → v.state.booked id ≤ capacity ∧ (v.slots = [] → ∀ e',
      v.state.tickets id = some e' → ∃ r, intTryParse e'.remainingTickets = some r ∧
        v.state.booked id + r = capacity) := by
  intro h
  let u : TicketMarket := ⟨tastingWorld "5", []⟩
  let v := u.after (ticketHandler IdSupply.longer) bookedInTurn
  have kept := h IdSupply.longer u v bookedInTurn "tasting" (by decide) rfl (by decide +kernel)
    (exec_after (by decide +kernel)) ⟨aFarmer.uid, "5", "5"⟩ 5 (by decide +kernel)
    (by decide +kernel) (by decide +kernel)
  obtain ⟨r, hr, hsum⟩ := kept.2 (by decide +kernel) ⟨aFarmer.uid, "5", "4"⟩ (by decide +kernel)
  have hread : intTryParse "4" = some 4 := by decide +kernel
  obtain rfl : r = 4 := Option.some.inj (hr.symm.trans hread)
  have hbooked : v.state.booked "tasting" = 2 := by decide +kernel
  rw [hbooked] at hsum
  exact absurd hsum (by decide)

end Gherass
