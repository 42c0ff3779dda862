import Gherass.Marketplace
import Gherass.TicketAccounts
import Mathlib.Algebra.Order.BigOperators.Group.List
import Mathlib.Algebra.Order.Group.Int

set_option autoImplicit false

/-!
# Capacity edits and bookings, one after another

An edit adds the change of the capacity to the old remaining count and stops at zero.
-/
namespace Gherass

open EventLoop EventLoop.Async FirebaseHelper

variable {id : String} {ids : IdSupply} {ok : EventAccess → Bool} {s : EventWorld}

/-- The stored count is what the bookings leave of the stored capacity. -/
def remainingKept (id : String) (s : EventWorld) : Prop :=
  ∀ e ∈ s.tickets id, ∃ capacity ∈ intTryParse e.maxNumbers,
    intTryParse e.remainingTickets = some (max 0 (capacity - s.booked id))

def EventWorld.EditsEvent (s : EventWorld) (d : Device) (id : String) : Prop :=
  (s.eventPages d).validationError = none ∧ (s.eventPages d).eventId = id

/-- What the page that a program starts from says of the event is what is stored. -/
def freshCopy (id : String) (e : TicketEvent) (_ : EventAccess → Bool) (s : EventWorld) : Prop :=
  match e with
  | .bookEvents p => ∀ x ∈ s.selected? p, x.2.id = some id → ∃ t ∈ s.tickets id,
    t.farmerId = x.1.farmerId ∧ t.remainingTickets = x.2.remainingTickets
  | .updateEvents d => s.EditsEvent d id →
    s.tickets id = some ⟨d.uid, (s.eventPages d).maxMembersForTickets,
      (s.eventPages d).remainingTickets⟩
  | _ => True

/-- An edit of the capacity does not raise it below the number of bookings. Beyond 64 bits what
    it works out is only right if it wraps to below zero and nothing is left. -/
def editCovered (booked old new : ℤ) : Prop :=
  if fitsInt64 (new - min old booked) then booked ≤ old ∨ new ≤ old
  else 0 < new - min old booked ∧ new ≤ booked

instance (booked old new : ℤ) : Decidable (editCovered booked old new) := by
  unfold editCovered
  infer_instance

/-- A booking's two writes go through together or not at all, and each edit is covered. -/
def capacityCovered (id : String) (e : TicketEvent) (ok : EventAccess → Bool) (s : EventWorld) :
    Prop :=
  match e with
  | .bookEvents p => ∀ x ∈ s.selected? p, x.2.id = some id →
    ∀ r ∈ intTryParse x.2.remainingTickets, 0 < r →
    (ok (.updateTickets x.1.farmerId id (r - 1)) = true ↔ ok (.addBooking (some id)) = true)
  | .updateEvents d => s.EditsEvent d id → ok (.editEvent d.uid id) = true →
    ∀ old ∈ intTryParse (s.eventPages d).maxMembersForTickets,
    ∀ new ∈ intTryParse (s.eventPages d).eventMinimumNumber, editCovered (s.booked id) old new
  | _ => True

instance (id : String) (s : EventWorld) : Decidable (remainingKept id s) := by
  unfold remainingKept
  infer_instance

instance (s : EventWorld) (d : Device) (id : String) : Decidable (s.EditsEvent d id) := by
  unfold EventWorld.EditsEvent
  infer_instance

instance (id : String) (e : TicketEvent) (ok : EventAccess → Bool) (s : EventWorld) :
    Decidable (freshCopy id e ok s) := by
  cases e with
  | bookEvents | updateEvents => unfold freshCopy; infer_instance
  | _ => exact .isTrue trivial

instance (id : String) (e : TicketEvent) (ok : EventAccess → Bool) (s : EventWorld) :
    Decidable (capacityCovered id e ok s) := by
  cases e with
  | bookEvents | updateEvents => unfold capacityCovered; infer_instance
  | _ => exact .isTrue trivial

theorem EventWorld.booked_nonneg (s : EventWorld) (id : String) : 0 ≤ s.booked id := by
  refine List.sum_nonneg fun n hn => ?_
  obtain ⟨b, -, rfl⟩ := List.mem_map.1 hn
  split
  · exact Int.one_nonneg
  · exact le_rfl

/-- The event's account is as it was, or the event is deleted. -/
structure SameAccount (id : String) (s t : EventWorld) : Prop where
  used : id ∈ t.usedIds
  booked : t.booked id = s.booked id
  tickets : t.tickets id = s.tickets id ∨ t.tickets id = none

theorem SameAccount.refl (hs : id ∈ s.usedIds) : SameAccount id s s := ⟨hs, rfl, .inl rfl⟩

theorem SameAccount.trans {t u : EventWorld} (h : SameAccount id s t) (h' : SameAccount id t u) :
    SameAccount id s u := by
  refine ⟨h'.used, h'.booked.trans h.booked, ?_⟩
  rcases h'.tickets with ht | ht
  · exact h.tickets.imp ht.trans ht.trans
  · exact .inr ht

theorem SameAccount.of_keeps {t : EventWorld}
    (h : (bystander id).inv t ∧ (bystander id).rel s t) : SameAccount id s t :=
  ⟨h.1, h.2.1, h.2.2.1⟩

theorem balance_fits {old new booked : ℤ} (hold : fitsInt64 old) (hnew : fitsInt64 new)
    (hbooked : 0 ≤ booked) :
    max 0 (int64 (max 0 (old - booked) + int64 (new - old))) = max 0 (new - booked) ↔
      editCovered booked old new := by
  have balance : max 0 (old - booked) + (new - old) = new - min old booked := by omega
  unfold fitsInt64 at hold hnew
  rw [int64_add_int64, balance, editCovered]
  split
  case isTrue hfits =>
    rw [int64_of_fits hfits]
    omega
  case isFalse hfits =>
    unfold fitsInt64 at hfits
    rcases lt_or_ge 0 (new - min old booked) with hpos | hneg
    · have hwrap : int64 (new - min old booked) = new - min old booked - 2 ^ 64 :=
        int64_of_lt (by omega) (by omega)
      omega
    · have hwrap : int64 (new - min old booked) = new - min old booked + 2 ^ 64 :=
        int64_of_neg (by omega) (by omega)
      omega

theorem count_fits {r capacity booked : ℤ} (hr : r = capacity - booked) (hpos : 0 < r)
    (counted added : Bool) :
    (if counted = true then r - 1 else r) =
      max 0 (capacity - (booked + if added = true then 1 else 0)) ↔
        (counted = true ↔ added = true) := by
  have hmax : max 0 (capacity - (booked + if added = true then 1 else 0)) =
      if added = true then r - 1 else r := by
    rw [max_eq_right (by split <;> omega)]
    split <;> omega
  have hne : r ≠ r - 1 := by omega
  rw [hmax]
  cases counted with
  | true =>
    cases added with
    | true => simp
    | false => simp
  | false =>
    cases added with
    | true => simpa using hne
    | false => simp

section Booking

def wrote (went : Bool) (f : EventWorld → EventWorld) (s : EventWorld) : EventWorld :=
  if went then f s else s

theorem yields_update (eventId : String) (l : EventAccess)
    (f : EventWorld → EventWorld × Except DartError Unit) :
    Yields ok (tryCatch (do
      checkDoc eventId
      call l f .firestore) fun _ => pure () : EventProgram Unit) s (.ok ())
      (wrote (eventId ≠ "" ∧ ok l = true) (fun s => (f s).1) s) := by
  by_cases hid : eventId = ""
  · have refused : Yields ok (checkDoc eventId) s (.error .argument) s := by
      rw [checkDoc, if_pos hid]
      exact .throw _
    simp only [hid, ne_eq, not_true_eq_false, false_and, decide_false, wrote]
    exact .caught (.bind_error (hid ▸ refused)) (.pure ())
  · have checked : Yields ok (checkDoc eventId) s (.ok ()) s := by
      rw [checkDoc, if_neg hid]
      exact .pure ()
    simp only [hid, ne_eq, not_false_eq_true, true_and, Bool.decide_eq_true]
    cases hl : ok l with
    | false => exact .caught (.bind checked (.call_lost hl f _)) (.pure ())
    | true =>
      cases hf : (f s).2 with
      | ok => exact .tryCatch (.bind checked (.call_answer hl hf))
      | error e => exact .caught (.bind checked (.call_answer hl hf)) (.pure ())

theorem tickets_updateBooking (bookingId : String) (f : EventData → EventData) (w : EventWorld) :
    (updateBooking bookingId f w).1.tickets = w.tickets := by
  unfold updateBooking
  split
  · rfl
  · rfl

def bookingAdded (ok : EventAccess → Bool) (ids : IdSupply) (uid : Uid) (p ref : ℕ)
    (e : EventData) (s : EventWorld) : EventWorld :=
  if ok (.addBooking e.id) then
    wrote (ok .setBookingId) (fun w =>
        (updateBooking (s.newId ids) (fun b => { b with bookingId := some (s.newId ids) }) w).1)
      ((addBooking ids uid e s).1.setMap p ref fun e => { e with bookingId := some (s.newId ids) })
  else s

theorem yields_addToBookEvents (uid : Uid) {p ref : ℕ} {e : EventData}
    (he : s.map? p ref = some e) : Yields ok (addToBookEvents ids uid p ref) s (.ok ())
      (bookingAdded ok ids uid p ref e s) := by
  have look : Yields ok (look fun w => (w.map? p ref).getD {} : EventProgram EventData) s
      (.ok e) s := by
    have hlook : (s.map? p ref).getD {} = e := by rw [he]; rfl
    exact hlook ▸ .look _
  cases hadd : ok (.addBooking e.id) with
  | false =>
    rw [bookingAdded, hadd]
    exact .caught (.bind look (.bind_error (.call_lost hadd _ _))) (.pure ())
  | true =>
    have add : Yields ok (call (.addBooking e.id) (addBooking ids uid e) .firestore :
        EventProgram String) s (.ok (s.newId ids)) (addBooking ids uid e s).1 :=
      .call_answer hadd rfl
    rw [bookingAdded, hadd, if_pos rfl]
    cases hset : ok .setBookingId with
    | false =>
      exact .caught (.bind look (.bind add (.bind (.change _) (.call_lost hset _ _)))) (.pure ())
    | true =>
      cases hanswer : (updateBooking (s.newId ids) (fun b =>
          { b with bookingId := some (s.newId ids) }) ((addBooking ids uid e s).1.setMap p ref
            fun e => { e with bookingId := some (s.newId ids) })).2 with
      | ok => exact .tryCatch (.bind look (.bind add (.bind (.change _)
          (.call_answer hset hanswer))))
      | error error => exact .caught (.bind look (.bind add (.bind (.change _)
          (.call_answer hset hanswer)))) (.pure ())

theorem tickets_bookingAdded (uid : Uid) (p ref : ℕ) (e : EventData) :
    (bookingAdded ok ids uid p ref e s).tickets = s.tickets := by
  simp only [bookingAdded, wrote]
  split
  · split
    · rw [tickets_updateBooking]
      rfl
    · rfl
  · rfl

variable (ids ok) in
theorem booked_bookingAdded (hs : id ∈ s.usedIds) (uid : Uid) (p ref : ℕ) (e : EventData) :
    id ∈ (bookingAdded ok ids uid p ref e s).usedIds ∧
      (bookingAdded ok ids uid p ref e s).booked id = s.booked id +
        if ok (.addBooking e.id) = true ∧ e.id = some id then 1 else 0 := by
  cases hadd : ok (.addBooking e.id) with
  | false => simpa [bookingAdded, hadd] using hs
  | true =>
    let added := (addBooking ids uid e s).1.setMap p ref fun e =>
      { e with bookingId := some (s.newId ids) }
    have hused : id ∈ added.usedIds := usedIds_addBooking ids uid e hs
    have hbooked : added.booked id = (if e.id = some id then 1 else 0) + s.booked id :=
      booked_addBooking ids uid e
    have hsum : added.booked id = s.booked id + if true = true ∧ e.id = some id then 1 else 0 := by
      simp only [hbooked, true_and]
      omega
    rw [bookingAdded, hadd, if_pos rfl, wrote]
    split
    · obtain ⟨hused', hbooked', -⟩ := keeps_updateBooking (s.newId ids)
        (f := fun b => { b with bookingId := some (s.newId ids) }) (fun _ => rfl) added hused
      exact ⟨hused', hbooked'.trans hsum⟩
    · exact ⟨hused, hsum⟩

def countWritten (ok : EventAccess → Bool) (c : ProductController) (i : String) (r : ℤ) :
    EventWorld → EventWorld :=
  wrote (i ≠ "" ∧ ok (.updateTickets c.farmerId i (r - 1)) = true) fun s =>
    (updateEventDoc c.farmerId i (fun e => { e with remainingTickets := toString (r - 1) }) s).1

def bookingStored (ok : EventAccess → Bool) (ids : IdSupply) (c : ProductController) (p ref : ℕ)
    (e : EventData) (i : String) (r : ℤ) (s : EventWorld) : EventWorld :=
  (bookingAdded ok ids c.device.uid p ref e
    (countWritten ok c i r (s.setUnderWay c.device.uid i (· + 1)))).setUnderWay c.device.uid i
      (· - 1)

theorem map?_countWritten (c : ProductController) (i : String) (r : ℤ) (p ref : ℕ) :
    (countWritten ok c i r s).map? p ref = s.map? p ref := by
  simp only [countWritten, wrote]
  split
  · exact map?_updateEventDoc ..
  · rfl

theorem yields_storeBooking (c : ProductController) {p ref : ℕ} {e : EventData}
    (he : s.map? p ref = some e) (i : String) (r : ℤ) :
    Yields ok (ProductController.storeBooking ids p c ref i r) s (.ok ())
      (bookingStored ok ids c p ref e i r s) :=
  .bind (.change _) (.bind (yields_update i (.updateTickets c.farmerId i (r - 1)) _)
    (.bind (yields_addToBookEvents c.device.uid ((map?_countWritten ..).trans he)) (.change _)))

variable (ids ok) in
theorem account_bookingStored (hs : id ∈ s.usedIds) (c : ProductController) (p ref : ℕ)
    (e : EventData) (i : String) (r : ℤ) :
    id ∈ (bookingStored ok ids c p ref e i r s).usedIds ∧
      (bookingStored ok ids c p ref e i r s).tickets id = (countWritten ok c i r s).tickets id ∧
      (bookingStored ok ids c p ref e i r s).booked id = s.booked id +
        if ok (.addBooking e.id) = true ∧ e.id = some id then 1 else 0 := by
  obtain ⟨hused, hbooked, hcount⟩ :
      id ∈ (countWritten ok c i r (s.setUnderWay c.device.uid i (· + 1))).usedIds ∧
      (countWritten ok c i r (s.setUnderWay c.device.uid i (· + 1))).booked id = s.booked id ∧
      (countWritten ok c i r (s.setUnderWay c.device.uid i (· + 1))).tickets id =
        (countWritten ok c i r s).tickets id := by
    simp only [countWritten, wrote]
    split
    · have hevents : (s.setUnderWay c.device.uid i (· + 1)).events = s.events := rfl
      exact ⟨usedIds_updateEventDoc _ _ _ hs, congrFun (booked_updateEventDoc ..) id,
        tickets_updateEventDoc_congr hevents ..⟩
    · exact ⟨hs, rfl, rfl⟩
  obtain ⟨hused', hsum⟩ := booked_bookingAdded ids ok hused c.device.uid p ref e
  refine ⟨hused', ?_, hsum.trans (by rw [hbooked])⟩
  exact (congrFun (tickets_bookingAdded ..) id).trans hcount

theorem takeTicket_alone (hs : id ∈ s.usedIds) (c : ProductController) {p ref : ℕ}
    {e : EventData} (he : s.map? p ref = some e) {i : String} (hi : e.id = some i) (r : ℤ)
    {v : EventWorld}
    (hv : ((ProductController.takeTicket ids p c ref e.id r).task.alone ok s).2 = v) :
    ∃ t, id ∈ v.usedIds ∧ (bystander id).rel t v ∧
      t.tickets id = (countWritten ok c i r s).tickets id ∧
      t.booked id = s.booked id + if ok (.addBooking e.id) = true ∧ e.id = some id then 1 else 0 := by
  obtain ⟨hused, htickets, hbooked⟩ :=
    account_bookingStored ids ok hs c p ref e i r
  have tail : (ProductController.takeTicket ids p c ref e.id r).task.alone ok s = (do
      ProductController.reload p c
      ProductController.showDialog p : EventProgram Unit).task.alone ok
        (bookingStored ok ids c p ref e i r s) := by
    rw [hi]
    exact (yields_storeBooking c he i r).task_bind
  obtain ⟨hvused, hrel⟩ := Quiet.alone (bystander_afterBooking id p c) hused
  rw [← tail, hv] at hvused hrel
  exact ⟨_, hvused, hrel, htickets, hbooked⟩

def withMarks (c : ProductController) (p ref : ℕ) (r : ℤ) (s : EventWorld) : EventWorld :=
  (s.setMap p ref fun e => { e with farmName := some c.farmName }).setMap p ref fun e =>
    { e with remainingTicket := some (toString r) }

theorem keeps_withMarks (c : ProductController) (p ref : ℕ) (r : ℤ) :
    (bystander id).Keeps (withMarks c p ref r) := by
  intro s hs
  obtain ⟨hi, hr⟩ := keeps_setMap p ref
    (f := fun e => { e with farmName := some c.farmName }) (fun _ => rfl) s hs
  obtain ⟨hi', hr'⟩ := keeps_setMap p ref
    (f := fun e => { e with remainingTicket := some (toString r) }) (fun _ => rfl) _ hi
  exact ⟨hi', (bystander id).trans hr hr'⟩

theorem map?_setMap (p ref : ℕ) (f : EventData → EventData) :
    (s.setMap p ref f).map? p ref = (s.map? p ref).map f := by
  simp only [EventWorld.setMap, EventWorld.setFarmPage, EventWorld.map?, Function.update_self]
  cases s.farmPages p with
  | none => rfl
  | some c => simp

theorem map?_withMarks (c : ProductController) {p ref : ℕ} {e : EventData}
    (he : s.map? p ref = some e) (r : ℤ) : (withMarks c p ref r s).map? p ref =
      some { e with farmName := some c.farmName, remainingTicket := some (toString r) } := by
  rw [withMarks, map?_setMap, map?_setMap, he]
  rfl

theorem bookSelected_alone (c : ProductController) {p ref : ℕ} {e : EventData}
    (he : (s.map? p ref).getD {} = e) {r : ℤ} (hr : (intTryParse e.remainingTickets).getD 0 = r) :
    (ProductController.bookSelected ids p c ref).task.alone ok s =
      (if r ≤ 0 then pure () else ProductController.takeTicket ids p c ref e.id r :
        EventProgram Unit).task.alone ok (withMarks c p ref r s) := by
  let marked := s.setMap p ref fun e => { e with farmName := some c.farmName }
  obtain ⟨name, hlook⟩ : ∃ name, (marked.map? p ref).getD {} = { e with farmName := name } := by
    rw [map?_setMap, ← he]
    cases s.map? p ref with
    | none => exact ⟨none, rfl⟩
    | some e => exact ⟨some c.farmName, rfl⟩
  have look : Yields ok (look fun w => (w.map? p ref).getD {} : EventProgram EventData) marked
      (.ok { e with farmName := name }) marked := hlook ▸ .look _
  subst hr
  exact (Yields.change _).task_bind.trans (look.task_try.trans (Yields.change _).task_bind)

theorem bookEvents_page {p : ℕ} {c : ProductController} (hc : s.farmPages p = some c) :
    (ticketHandler ids (.bookEvents p)).alone ok s = (match c.farmerEventItem with
      | [] => throw .state
      | ref :: _ => ProductController.bookSelected ids p c ref :
        EventProgram Unit).task.alone ok s := by
  have look : Yields ok (ProductController.page p) s (.ok (some c)) s := hc ▸ .look _
  exact look.task_bind

theorem bookEvents_passes (hs : id ∈ s.usedIds) (p : ℕ)
    (hno : ∀ c e r, s.selected? p = some (c, e) → e.id = some id →
      intTryParse e.remainingTickets = some r → r ≤ 0) :
    SameAccount id s ((ticketHandler ids (.bookEvents p)).alone ok s).2 := by
  cases hc : s.farmPages p with
  | none =>
    have look : Yields ok (ProductController.page p) s (.ok none) s := hc ▸ .look _
    have hrun : (ticketHandler ids (.bookEvents p)).alone ok s =
      (pure () : EventProgram Unit).task.alone ok s := look.task_bind
    rw [hrun]
    exact .refl hs
  | some c =>
    rw [bookEvents_page hc]
    cases hitem : c.farmerEventItem with
    | nil => exact .refl hs
    | cons ref rest =>
      rw [selected?_eq hc hitem] at hno
      dsimp only
      rw [bookSelected_alone c rfl rfl]
      set e := (s.map? p ref).getD {} with he
      set r := (intTryParse e.remainingTickets).getD 0 with hr
      have marked := SameAccount.of_keeps (keeps_withMarks c p ref r s hs)
      split
      case isTrue => exact marked
      case isFalse hpos =>
        have hparse : intTryParse e.remainingTickets = some r := by
          cases h : intTryParse e.remainingTickets with
          | none => simp [hr, h] at hpos
          | some n => simp [hr, h]
        cases hi : e.id with
        | none => exact marked
        | some i =>
          have hmap : s.map? p ref = some e := by
            cases h : s.map? p ref with
            | none => simp [he, h] at hi
            | some e' => simp [he, h]
          have hne : i ≠ id := fun h => by
            have := hno c e r (by rw [hmap]; rfl) (hi.trans (by rw [h])) hparse
            omega
          have hother : e.id ≠ some id := fun h => hne (Option.some.inj (hi.symm.trans h))
          rw [← hi]
          obtain ⟨t, hused, hrel, htickets, hbooked⟩ := takeTicket_alone marked.used c
            (map?_withMarks c hmap r) hi r rfl
          refine marked.trans ⟨hused, hrel.1.trans ?_, ?_⟩
          · simpa [hother] using hbooked
          · have hsame : t.tickets id = (withMarks c p ref r s).tickets id := by
              rw [htickets, countWritten, wrote]
              split
              · exact tickets_updateOther _ hne _
              · rfl
            rw [← hsame]
            exact hrel.2.1

variable (ids ok) in
theorem bookEvents_taken {p : ℕ} {c : ProductController} {e : EventData} {r : ℤ}
    (hsel : s.selected? p = some (c, e)) (hr : intTryParse e.remainingTickets = some r)
    (hpos : 0 < r) : ∃ ref, s.map? p ref = some e ∧ (ticketHandler ids (.bookEvents p)).alone ok s =
      (ProductController.takeTicket ids p c ref e.id r).task.alone ok (withMarks c p ref r s) := by
  obtain ⟨c', hc, hsel⟩ := Option.bind_eq_some_iff.1 hsel
  obtain ⟨ref, href, hsel⟩ := Option.bind_eq_some_iff.1 hsel
  obtain ⟨e', hmap, hsel⟩ := Option.bind_eq_some_iff.1 hsel
  obtain ⟨rfl, rfl⟩ := Prod.mk.inj (Option.some.inj hsel)
  obtain ⟨rest, hitem⟩ : ∃ rest, c'.farmerEventItem = ref :: rest := by
    cases hitem : c'.farmerEventItem with
    | nil => simp [hitem] at href
    | cons x xs => exact ⟨xs, by simpa [hitem] using href⟩
  have hmap' : s.map? p ref = some e' := by rw [EventWorld.map?, hc, Option.bind_some, hmap]
  have hget : (s.map? p ref).getD {} = e' := by rw [hmap']; rfl
  refine ⟨ref, hmap', ?_⟩
  rw [bookEvents_page hc]
  simp only [hitem]
  rw [bookSelected_alone c' hget (by rw [hr, Option.getD_some]), if_neg (by omega)]

theorem bookEvents_takes (hs : id ∈ s.usedIds) (hid : id ≠ "") {p : ℕ} {c : ProductController}
    {e : EventData} {r : ℤ} (hsel : s.selected? p = some (c, e)) (hi : e.id = some id)
    (hr : intTryParse e.remainingTickets = some r) (hpos : 0 < r) :
    ∃ t, SameAccount id t ((ticketHandler ids (.bookEvents p)).alone ok s).2 ∧
      t.tickets id = (wrote (ok (.updateTickets c.farmerId id (r - 1)))
        (fun s => (updateEventDoc c.farmerId id (fun e =>
          { e with remainingTickets := toString (r - 1) }) s).1) s).tickets id ∧
      t.booked id = s.booked id + if ok (.addBooking (some id)) = true then 1 else 0 := by
  obtain ⟨ref, hmap, hrun⟩ := bookEvents_taken ids ok hsel hr hpos
  have marked := SameAccount.of_keeps (keeps_withMarks c p ref r s hs)
  obtain ⟨t, hused, hrel, htickets, hbooked⟩ := takeTicket_alone marked.used c
    (map?_withMarks c hmap r) hi r (congrArg Prod.snd hrun.symm)
  refine ⟨t, ⟨hused, hrel.1, hrel.2.1⟩, ?_, ?_⟩
  · rw [htickets]
    simp only [countWritten, hid, ne_eq, not_false_eq_true, true_and, Bool.decide_eq_true, wrote]
    split
    · have hevents : (withMarks c p ref r s).events = s.events := rfl
      exact tickets_updateEventDoc_congr hevents _ _ _
    · rfl
  · rw [hbooked]
    simp only [hi, and_true]
    rfl

end Booking

section Editing

theorem updateEvents_page (d : Device) : (ticketHandler ids (.updateEvents d)).alone ok s =
    (match (s.eventPages d).validationError with
      | some _ => pure ()
      | none =>
        match (s.eventPages d).updateRemainTickets with
        | none => throw .argument
        | some remainingTickets => tryCatch (do
            updateEventsToFarmer d.uid (s.eventPages d).eventId
              ((s.eventPages d).formData remainingTickets)
            spawn (EventController.getEventList d)
            EventController.setPage d EventController.clearFields) fun _ => pure () :
      EventProgram Unit).task.alone ok s := by
  have look : Yields ok (EventController.page d) s (.ok (s.eventPages d)) s := .look _
  exact look.task_bind

theorem updateEvents_alone (hs : id ∈ s.usedIds) {d : Device} {text : String}
    (hvalid : (s.eventPages d).validationError = none)
    (htext : (s.eventPages d).updateRemainTickets = some text) :
    SameAccount id (wrote ((s.eventPages d).eventId ≠ "" ∧
        ok (.editEvent d.uid (s.eventPages d).eventId) = true) (fun w =>
      (updateEventDoc d.uid (s.eventPages d).eventId ((s.eventPages d).formData text) w).1) s)
      ((ticketHandler ids (.updateEvents d)).alone ok s).2 := by
  set c := s.eventPages d with hc
  set t := wrote (c.eventId ≠ "" ∧ ok (.editEvent d.uid c.eventId) = true)
    (fun w => (updateEventDoc d.uid c.eventId (c.formData text) w).1) s with ht
  have written : Yields ok (updateEventsToFarmer d.uid c.eventId (c.formData text)) s (.ok ()) t :=
    yields_update c.eventId (.editEvent d.uid c.eventId) _
  have hused : id ∈ t.usedIds := by
    rw [ht, wrote]
    split
    · exact usedIds_updateEventDoc _ _ _ hs
    · exact hs
  rw [updateEvents_page, ← hc, hvalid, htext]
  dsimp only
  rw [written.task_try]
  exact .of_keeps ((quiet_afterForm (bystander_allowsLists id) d).alone hused)

theorem updateRemainTickets_eq {c : EventController} {old r : ℤ}
    (hold : intTryParse c.maxMembersForTickets = some old)
    (hr : intTryParse c.remainingTickets = some r) : c.updateRemainTickets =
      (intTryParse c.eventMinimumNumber).map fun new =>
        if int64 (r + int64 (new - old)) ≥ 0 then toString (int64 (r + int64 (new - old)))
        else "0" := by
  have hfilled : c.maxMembersForTickets ≠ "" := fun h => by
    have hempty : intTryParse "" = none := by decide +kernel
    rw [h, hempty] at hold
    cases hold
  rw [EventController.updateRemainTickets, if_pos (.inl hfilled), hold, hr]
  cases intTryParse c.eventMinimumNumber with
  | none => rfl
  | some new =>
    simp only [Option.bind_eq_bind, Option.bind_some, Option.map_some]
    split
    · rfl
    · rfl

theorem balance_parse {n : ℤ} (hfits : fitsInt64 n) :
    intTryParse (if n ≥ 0 then toString n else "0") = some (max 0 n) := by
  by_cases h : n ≥ 0
  · rw [if_pos h, intTryParse_toString hfits, max_eq_right h]
  · have hzero : intTryParse "0" = some 0 := by decide +kernel
    rw [if_neg h, hzero, max_eq_left (by omega)]

end Editing

section Runs

theorem remainingKept.of_same {t : EventWorld} (h : remainingKept id s) (hst : SameAccount id s t) :
    remainingKept id t := by
  intro e he
  rcases hst.tickets with ht | ht
  · rw [hst.booked]
    exact h e (ht.symm.trans he)
  · rw [ht] at he
    cases he

theorem remainingKept_iff {t v : EventWorld} (htv : SameAccount id t v) (hv : v.tickets id ≠ none)
    {e : EventWorld.Tickets} (ht : t.tickets id = some e) : remainingKept id v ↔
      ∃ capacity ∈ intTryParse e.maxNumbers,
        intTryParse e.remainingTickets = some (max 0 (capacity - t.booked id)) := by
  have hstored : v.tickets id = some e := by
    rcases htv.tickets with h | h
    · exact h.trans ht
    · exact absurd h hv
  rw [remainingKept, hstored, htv.booked]
  exact ⟨fun h => h e rfl, fun h e' he' => Option.some.inj he' ▸ h⟩

theorem tickets_updateTickets {uid : Uid} {e : EventWorld.Tickets} (he : s.tickets id = some e)
    (hf : e.farmerId = uid) (text : String) : (updateEventDoc uid id (fun e =>
      { e with remainingTickets := text }) s).1.tickets id =
        some ⟨e.farmerId, e.maxNumbers, text⟩ := by
  obtain ⟨doc, hdoc, rfl⟩ := Option.map_eq_some_iff.1 he
  rw [updateEventDoc_stored hdoc hf]
  exact tickets_insert _

/-- What one event does to the account of a stored event. -/
structure Turn (id : String) (e : TicketEvent) (ok : EventAccess → Bool) (s v : EventWorld) :
    Prop where
  used : id ∈ v.usedIds
  gone : s.tickets id = none → v.tickets id = none
  kept : v.tickets id ≠ none → (remainingKept id v ↔ capacityCovered id e ok s)

theorem Turn.of_same {e : TicketEvent} {v : EventWorld} (hkept : remainingKept id s)
    (h : SameAccount id s v) (hcovered : capacityCovered id e ok s) : Turn id e ok s v where
  used := h.used
  gone hs := h.tickets.elim (·.trans hs) fun hv => hv
  kept _ := ⟨fun _ => hcovered, fun _ => hkept.of_same h⟩

theorem turn_book (hid : id ≠ "") (hs : id ∈ s.usedIds) (hkept : remainingKept id s) (p : ℕ)
    (hfresh : freshCopy id (.bookEvents p) ok s) :
    Turn id (.bookEvents p) ok s ((ticketHandler ids (.bookEvents p)).alone ok s).2 := by
  by_cases htakes : ∃ c e r, s.selected? p = some (c, e) ∧ e.id = some id ∧
      intTryParse e.remainingTickets = some r ∧ 0 < r
  · obtain ⟨c, e, r, hsel, hi, hr, hpos⟩ := htakes
    obtain ⟨t, (hsame : SameAccount id t ((ticketHandler ids (.bookEvents p)).alone ok s).2),
      htickets, hbooked⟩ := bookEvents_takes hs hid hsel hi hr hpos
    obtain ⟨stored, hstored, hfarmer, hcopy⟩ := hfresh (c, e) hsel hi
    obtain ⟨capacity, hmax, hremaining⟩ := hkept stored hstored
    have hmax : intTryParse stored.maxNumbers = some capacity := hmax
    have hleft : r = capacity - s.booked id := by
      rw [hcopy, hr] at hremaining
      have := Option.some.inj hremaining
      omega
    have hcount : t.tickets id = some ⟨stored.farmerId, stored.maxNumbers,
        if ok (.updateTickets c.farmerId id (r - 1)) = true then toString (r - 1)
        else stored.remainingTickets⟩ := by
      rw [htickets, wrote]
      split
      case isTrue => exact tickets_updateTickets hstored hfarmer _
      case isFalse => exact hstored
    refine ⟨hsame.used, fun hgone => ?_, fun hv => ?_⟩
    · rw [hgone] at hstored
      cases hstored
    · rw [remainingKept_iff hsame hv hcount, hbooked]
      have covered : capacityCovered id (.bookEvents p) ok s ↔
          (ok (.updateTickets c.farmerId id (r - 1)) = true ↔ ok (.addBooking (some id)) = true) := by
        refine ⟨fun h => h (c, e) hsel hi r hr hpos, fun h x hsel' _ r' hr' _ => ?_⟩
        obtain rfl := Option.some.inj (hsel.symm.trans hsel')
        obtain rfl := Option.some.inj (hr.symm.trans hr')
        exact h
      rw [covered]
      have hparse : intTryParse (if ok (.updateTickets c.farmerId id (r - 1)) = true
          then toString (r - 1) else stored.remainingTickets) =
          some (if ok (.updateTickets c.farmerId id (r - 1)) = true then r - 1 else r) := by
        split
        · exact intTryParse_toString (fits_pred hr hpos)
        · rw [hcopy, hr]
      simp only [Option.mem_def, hmax, hparse, Option.some.injEq, exists_eq_left']
      exact count_fits hleft hpos _ _
  · have hno : ∀ c e r, s.selected? p = some (c, e) → e.id = some id →
        intTryParse e.remainingTickets = some r → r ≤ 0 := fun c e r hsel hi hr => by
      by_contra hpos
      exact htakes ⟨c, e, r, hsel, hi, hr, by omega⟩
    refine .of_same hkept (bookEvents_passes hs p hno) fun x hsel hi r hr hpos => ?_
    have := hno x.1 x.2 r hsel hi hr
    omega

theorem turn_written {d : Device} {v : EventWorld} {old new : ℤ} {text : String}
    (hstored : s.tickets id = some ⟨d.uid, (s.eventPages d).maxMembersForTickets,
      (s.eventPages d).remainingTickets⟩)
    (hold : intTryParse (s.eventPages d).maxMembersForTickets = some old)
    (hnew : intTryParse (s.eventPages d).eventMinimumNumber = some new)
    (htext : intTryParse text =
      some (max 0 (int64 (max 0 (old - s.booked id) + int64 (new - old)))))
    (hgo : ok (.editEvent d.uid id) = true) (hedits : s.EditsEvent d id)
    (hsame : SameAccount id
      (updateEventDoc d.uid id ((s.eventPages d).formData text) s).1 v) :
    Turn id (.updateEvents d) ok s v where
  used := hsame.used
  gone h := by
    rw [h] at hstored
    cases hstored
  kept hv := by
    obtain ⟨doc, hdoc, htickets⟩ := Option.map_eq_some_iff.1 hstored
    have hfarmer : doc.farmerId = d.uid := congrArg EventWorld.Tickets.farmerId htickets
    have hwritten : (updateEventDoc d.uid id ((s.eventPages d).formData text) s).1.tickets id =
        some ⟨doc.farmerId, (s.eventPages d).eventMinimumNumber, text⟩ := by
      rw [updateEventDoc_stored hdoc hfarmer]
      exact tickets_insert _
    have covered : capacityCovered id (.updateEvents d) ok s ↔
        editCovered (s.booked id) old new := by
      refine ⟨fun h => h hedits hgo old hold new hnew, fun h _ _ old' hold' new' hnew' => ?_⟩
      obtain rfl := Option.some.inj (hold.symm.trans hold')
      obtain rfl := Option.some.inj (hnew.symm.trans hnew')
      exact h
    rw [remainingKept_iff hsame hv hwritten, covered, ← balance_fits (fits_of_tryParse hold)
      (fits_of_tryParse hnew) (s.booked_nonneg id), booked_updateEventDoc]
    simp only [Option.mem_def, hnew, htext, Option.some.injEq, exists_eq_left']

theorem turn_edit_event (hid : id ≠ "") (hs : id ∈ s.usedIds) (hkept : remainingKept id s)
    (d : Device) (hfresh : freshCopy id (.updateEvents d) ok s) :
    Turn id (.updateEvents d) ok s ((ticketHandler ids (.updateEvents d)).alone ok s).2 := by
  cases hvalid : (s.eventPages d).validationError with
  | some error =>
    have hcovered : capacityCovered id (.updateEvents d) ok s := fun h => by
      rw [h.1] at hvalid
      cases hvalid
    refine .of_same hkept ?_ hcovered
    rw [updateEvents_page, hvalid]
    exact .refl hs
  | none =>
    by_cases hevent : (s.eventPages d).eventId = id
    · have hedits : s.EditsEvent d id := ⟨hvalid, hevent⟩
      have hstored := hfresh hedits
      obtain ⟨old, hold, hr⟩ := hkept _ hstored
      have hbalance := updateRemainTickets_eq hold hr
      cases hnew : intTryParse (s.eventPages d).eventMinimumNumber with
      | none =>
        -- the form's number cannot be read: nothing is sent off
        have hcovered : capacityCovered id (.updateEvents d) ok s := fun _ _ old _ new h => by
          rw [hnew] at h
          cases h
        refine .of_same hkept ?_ hcovered
        rw [hnew, Option.map_none] at hbalance
        rw [updateEvents_page, hvalid, hbalance]
        exact .refl hs
      | some new =>
        rw [hnew, Option.map_some] at hbalance
        have hsame : SameAccount id _ ((ticketHandler ids (.updateEvents d)).alone ok s).2 :=
          updateEvents_alone hs hvalid hbalance
        simp only [hevent, hid, ne_eq, not_false_eq_true, true_and, Bool.decide_eq_true] at hsame
        cases hgo : ok (.editEvent d.uid id) with
        | false =>
          rw [hgo] at hsame
          exact .of_same hkept hsame fun _ h => by
            rw [hgo] at h
            cases h
        | true =>
          rw [hgo] at hsame
          exact turn_written hstored hold hnew (balance_parse (fits_int64 _)) hgo hedits hsame
    · have hcovered : capacityCovered id (.updateEvents d) ok s := fun h => absurd h.2 hevent
      refine .of_same hkept ?_ hcovered
      cases htext : (s.eventPages d).updateRemainTickets with
      | none =>
        rw [updateEvents_page, hvalid, htext]
        exact .refl hs
      | some text =>
        refine SameAccount.trans ?_ (updateEvents_alone hs hvalid htext)
        rw [wrote]
        split
        · exact .of_keeps (keeps_updateOther d.uid hevent _ s hs)
        · exact .refl hs

theorem turn_account (hid : id ≠ "") (hs : id ∈ s.usedIds) (hkept : remainingKept id s)
    (e : TicketEvent) (hfresh : freshCopy id e ok s) :
    Turn id e ok s ((ticketHandler ids e).alone ok s).2 := by
  have passes : e.Passes → capacityCovered id e ok s →
      Turn id e ok s ((ticketHandler ids e).alone ok s).2 := fun he hcovered =>
    .of_same hkept (.of_keeps ((bystander_program id ids he).alone hs)) hcovered
  cases e with
  | bookEvents p => exact turn_book hid hs hkept p hfresh
  | updateEvents d => exact turn_edit_event hid hs hkept d hfresh
  | _ => exact passes trivial trivial

theorem run_gone (hid : id ≠ "") {turns : List (TicketEvent × (EventAccess → Bool))}
    (hs : id ∈ s.usedIds) (hgone : s.tickets id = none)
    (hfresh : EachMeets (ticketHandler ids) (freshCopy id) s turns) :
    (runEach (ticketHandler ids) s turns).tickets id = none := by
  induction turns generalizing s with
  | nil => exact hgone
  | cons turn turns ih =>
    have hkept : remainingKept id s := fun e he => by
      rw [hgone] at he
      cases he
    have hturn : Turn id turn.1 turn.2 s ((ticketHandler ids turn.1).alone turn.2 s).2 :=
      turn_account hid hs hkept turn.1 hfresh.1
    exact ih hturn.used (hturn.gone hgone) hfresh.2

end Runs

/-- After each of a list of events, one after another, the stored count of an event is what the
    bookings leave of its capacity, exactly if no booking stops halfway and each edit is covered. -/
theorem remaining_kept_iff {ids : IdSupply} {id : String} (hid : id ≠ "") {u : EventWorld}
    {turns : List (TicketEvent × (EventAccess → Bool))} (hused : id ∈ u.usedIds)
    (hkept : remainingKept id u)
    (hfresh : EachMeets (ticketHandler ids) (freshCopy id) u turns)
    (hstored : (runEach (ticketHandler ids) u turns).tickets id ≠ none) :
    (∀ n, remainingKept id (runEach (ticketHandler ids) u (turns.take n))) ↔
      EachMeets (ticketHandler ids) (capacityCovered id) u turns := by
  induction turns generalizing u with
  | nil =>
    refine ⟨fun _ => trivial, fun _ n => ?_⟩
    rw [List.take_nil]
    exact hkept
  | cons turn turns ih =>
    have hturn : Turn id turn.1 turn.2 u ((ticketHandler ids turn.1).alone turn.2 u).2 :=
      turn_account hid hused hkept turn.1 hfresh.1
    have hstill : ((ticketHandler ids turn.1).alone turn.2 u).2.tickets id ≠ none := fun h => by
      have hgone := run_gone hid hturn.used h hfresh.2
      exact hstored hgone
    have hfirst := hturn.kept hstill
    refine ⟨fun h => ?_, fun h n => ?_⟩
    · have hkept' := h 1
      exact ⟨hfirst.1 hkept', (ih hturn.used hkept' hfresh.2 hstored).1 fun n => h (n + 1)⟩
    · cases n with
      | zero => exact hkept
      | succ n =>
        have hkept' := hfirst.2 h.1
        exact (ih hturn.used hkept' hfresh.2 hstored).2 h.2 n

def harvest (maxNumbers remainingTickets : String) : EventData where
  id := some "harvest"
  name := "Harvest"
  startDate := "05 May 10:00 AM"
  maxNumbers := maxNumbers
  remainingTickets := remainingTickets
  description := "Date harvest"
  location := "Farm road"

def harvestWorld : EventWorld where
  events := (∅ : Std.TreeMap String FarmEvent).insert "harvest" ⟨harvest "3" "3", aFarmer.uid⟩

def bookFirst (p : ℕ) (d : Device) : List TicketEvent :=
  [.openFarm p d aFarmer.uid "Farm", .selectEvent p 0, .bookEvents p]

def setCapacity (capacity : String) : List TicketEvent :=
  [.openEvents aFarmer, .editEvent aFarmer 0, .typeText aFarmer .number capacity,
    .typeText aFarmer .location "Farm road", .updateEvents aFarmer]

def allThrough (events : List TicketEvent) : List (TicketEvent × (EventAccess → Bool)) :=
  events.map fun e => (e, fun _ => true)

def loweredTwice : List TicketEvent :=
  bookFirst 0 aCustomer ++ bookFirst 1 anotherCustomer ++ setCapacity "1" ++ setCapacity "1"

theorem remaining_kept_lowered : (∀ n, remainingKept "harvest" (runEach
      (ticketHandler IdSupply.longer) harvestWorld ((allThrough loweredTwice).take n))) ↔
    EachMeets (ticketHandler IdSupply.longer) (capacityCovered "harvest") harvestWorld
      (allThrough loweredTwice) :=
  remaining_kept_iff (by decide) (by decide +kernel) (by decide +kernel) (by decide +kernel)
    (by decide +kernel)

/-- Three tickets, two booked, then a capacity of one and of three again: two tickets are on
    sale where one is left. -/
theorem phantom_tickets : ¬ ∀ (ids : IdSupply) (id : String) (u : EventWorld)
    (events : List TicketEvent), id ≠ "" → id ∈ u.usedIds → remainingKept id u →
    EachMeets (ticketHandler ids) (freshCopy id) u (allThrough events) →
    ∀ n, remainingKept id (runEach (ticketHandler ids) u ((allThrough events).take n)) := by
  intro h
  have kept := h IdSupply.longer "harvest" harvestWorld
    (bookFirst 0 aCustomer ++ bookFirst 1 anotherCustomer ++ setCapacity "1" ++ setCapacity "3")
    (by decide) (by decide +kernel) (by decide +kernel) (by decide +kernel) 16
  exact absurd kept (by decide +kernel)

end Gherass
