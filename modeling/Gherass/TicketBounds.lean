import Gherass.EventMaps
import Gherass.TicketConservation

set_option autoImplicit false

/-!
# The bounds of the tickets

A booking writes what its copy of the event says, less one. However old the copy is, what is
written is not below zero, and as long as no event is edited, it is not above the capacity.
-/
namespace Gherass

open EventLoop EventLoop.Async FirebaseHelper

def notNegative (text : String) : Bool := (intTryParse text).all (0 ≤ ·)

theorem notNegative_toString {n : ℤ} (h : 0 ≤ n) : notNegative (toString n) = true := by
  rw [notNegative, intTryParse_toString_eq]
  split
  · exact decide_eq_true h
  · rfl

theorem notNegative_empty : notNegative "" = true := by decide +kernel

theorem notNegative_zero : notNegative "0" = true := by decide +kernel

theorem le_of_notNegative {text : String} {n : ℤ} (h : notNegative text = true)
    (hn : intTryParse text = some n) : 0 ≤ n := by
  simpa [notNegative, hn] using h

structure EventData.Counted (e : EventData) : Prop where
  maxNumbers : notNegative e.maxNumbers = true
  remainingTickets : notNegative e.remainingTickets = true

structure EventController.Counted (c : EventController) : Prop where
  visitors : 0 ≤ c.maxNumberOfVisit
  number : notNegative c.eventMinimumNumber = true
  events : ∀ e ∈ c.farmerEvents, e.Counted

/-- No number is below zero, in what is stored, read or filled in. -/
structure NoneBelowZero (s : EventWorld) : Prop where
  events : ∀ (id : String) (e : FarmEvent), s.events[id]? = some e → e.toEventData.Counted
  bookings : ∀ (id : String) (b : Booking), s.bookings[id]? = some b → b.toEventData.Counted
  maps : ∀ p c, s.farmPages p = some c → ∀ e ∈ c.maps, e.Counted
  forms : ∀ d, (s.eventPages d).Counted

def aboveZero : Contract EventWorld EventAccess where
  inv := NoneBelowZero
  rel _ _ := True
  shows _ _ := True
  refl _ := trivial
  trans _ _ := trivial

theorem NoneBelowZero.insertEvent {s : EventWorld} (hs : NoneBelowZero s) (id : String)
    {e : FarmEvent} (he : e.toEventData.Counted) :
    NoneBelowZero { s with events := s.events.insert id e } := by
  refine ⟨fun i e' h => ?_, hs.bookings, hs.maps, hs.forms⟩
  rw [Std.TreeMap.getElem?_insert] at h
  split at h
  case isTrue => exact Option.some.inj h ▸ he
  case isFalse => exact hs.events i e' h

theorem NoneBelowZero.insertBooking {s : EventWorld} (hs : NoneBelowZero s) (id : String)
    {b : Booking} (hb : b.toEventData.Counted) :
    NoneBelowZero { s with bookings := s.bookings.insert id b } := by
  refine ⟨hs.events, fun i b' h => ?_, hs.maps, hs.forms⟩
  rw [Std.TreeMap.getElem?_insert] at h
  split at h
  case isTrue => exact Option.some.inj h ▸ hb
  case isFalse => exact hs.bookings i b' h

theorem aboveZero_updateEventDoc (uid : Uid) (id : String) {f : EventData → EventData}
    (hf : ∀ e : EventData, e.Counted → (f e).Counted) :
    aboveZero.Keeps fun w => (updateEventDoc uid id f w).1 := by
  refine fun s hs => ⟨?_, trivial⟩
  change NoneBelowZero (updateEventDoc uid id f s).1
  unfold updateEventDoc
  split
  · rename_i e he
    split
    · exact hs.insertEvent id (hf _ (hs.events id e he))
    · exact hs
  · exact hs

theorem updateRemainTickets_counted {c : EventController} {remainingTickets : String}
    (h : c.updateRemainTickets = some remainingTickets) : notNegative remainingTickets = true := by
  unfold EventController.updateRemainTickets at h
  split at h
  · simp only [Option.bind_eq_bind, Option.bind_eq_some_iff] at h
    obtain ⟨left, -, number, -, before, -, hbalance⟩ := h
    split at hbalance
    case isTrue hpos => exact Option.some.inj hbalance ▸ notNegative_toString hpos
    case isFalse =>
      obtain rfl := Option.some.inj hbalance
      exact notNegative_zero
  · obtain rfl := Option.some.inj h
    exact notNegative_empty

theorem aboveZero_allowsMaps : AllowsMaps aboveZero fun e _ => e.Counted where
  shows _ _ _ := trivial
  stable _ _ _ _ h := h
  blank _ := ⟨notNegative_empty, notNegative_empty⟩
  marked _ _ _ _ _ h := ⟨h.maxNumbers, h.remainingTickets⟩
  stored _ id e hs he := hs.events id e he
  held _ p c hs hc := hs.maps p c hc
  holds s p c hs hc := by
    refine ⟨⟨hs.events, hs.bookings, fun q c' hq => ?_, hs.forms⟩, trivial⟩
    simp only [Function.update_apply] at hq
    split at hq
    case isTrue => exact Option.some.inj hq ▸ hc
    case isFalse => exact hs.maps q c' hq
  counts _ _ _ s hs := ⟨⟨hs.events, hs.bookings, hs.maps, hs.forms⟩, trivial⟩
  deletes uid id s hs := by
    refine ⟨?_, trivial⟩
    change NoneBelowZero (deleteEventDoc uid id s)
    unfold deleteEventDoc
    split
    · refine ⟨fun i e he => ?_, hs.bookings, hs.maps, hs.forms⟩
      rw [Std.TreeMap.getElem?_erase] at he
      split at he
      · cases he
      · exact hs.events i e he
    · exact hs
  takes s uid id e n hs _ _ _ hpos := by
    have hleft : notNegative (toString (n - 1)) = true := notNegative_toString (by omega)
    exact aboveZero_updateEventDoc uid id (f := fun e => { e with remainingTickets := toString (n - 1) })
      (fun _ h => ⟨h.maxNumbers, hleft⟩) s hs
  books ids _ s _ hs he := ⟨hs.insertBooking (s.newId ids) he, trivial⟩
  marksBooking id bookingId s hs := by
    refine ⟨?_, trivial⟩
    change NoneBelowZero (updateBooking id _ s).1
    unfold updateBooking
    split
    · rename_i b hb
      have kept := hs.bookings id b hb
      exact hs.insertBooking id ⟨kept.maxNumbers, kept.remainingTickets⟩
    · exact hs

theorem aboveZero_allowsForms :
    AllowsForms aboveZero (fun e _ => e.Counted) EventController.Counted where
  toAllowsMaps := aboveZero_allowsMaps
  form _ d hs := hs.forms d
  fills s d c hs hc := by
    refine ⟨⟨hs.events, hs.bookings, hs.maps, fun d' => ?_⟩, trivial⟩
    simp only [Function.update_apply]
    split
    · exact hc
    · exact hs.forms d'
  same c c' h hcount hnumber hevents :=
    ⟨hcount ▸ h.visitors, hnumber ▸ h.number, fun e he => h.events e (hevents e he)⟩
  listed _ _ _ h hevents := ⟨h.visitors, h.number, hevents⟩
  cleared _ h := ⟨Int.one_nonneg, notNegative_empty, h.events⟩
  opened c h e he := by
    have kept := h.events e he
    refine ⟨?_, kept.maxNumbers, h.events⟩
    change 0 ≤ (intTryParse e.maxNumbers).getD 0
    cases hn : intTryParse e.maxNumbers with
    | none => exact le_rfl
    | some n => exact le_of_notNegative kept.maxNumbers hn
  adds ids uid s c hs hc := ⟨hs.insertEvent (s.newId ids) ⟨hc.number, hc.number⟩, trivial⟩
  names uid id := aboveZero_updateEventDoc uid id (f := fun e => { e with id := some id })
    fun _ h => ⟨h.maxNumbers, h.remainingTickets⟩
  clock _ s hs := ⟨⟨hs.events, hs.bookings, hs.maps, hs.forms⟩, trivial⟩

/-- No number below zero is typed into the form, and the plus is not pressed on the greatest. -/
def countedInput : Guard EventWorld EventAccess TicketEvent := .computed
  (fun
    | .typeText _ .number text, _ => notNegative text
    | .countVisitors d true, s => (s.eventPages d).maxNumberOfVisit < 2 ^ 63 - 1
    | _, _ => true)
  (fun _ _ => true) fun _ _ => true

instance : countedInput.Checks := inferInstanceAs (Guard.computed _ _ _).Checks

theorem EventController.Counted.countVisitors {c : EventController} (h : c.Counted) {up : Bool}
    (hroom : up = true → c.maxNumberOfVisit < 2 ^ 63 - 1) : (c.countVisitors up).Counted := by
  have hvisitors := h.visitors
  unfold EventController.countVisitors
  split
  case isTrue hup =>
    have hlt := hroom hup
    have hfits : fitsInt64 (c.maxNumberOfVisit + 1) := by
      unfold fitsInt64
      omega
    rw [int64_of_fits hfits]
    have hnext : 0 ≤ c.maxNumberOfVisit + 1 := by omega
    exact ⟨hnext, notNegative_toString hnext, h.events⟩
  case isFalse =>
    split
    case isTrue hpos =>
      have hless : 0 ≤ c.maxNumberOfVisit - 1 := by omega
      exact ⟨hless, notNegative_toString hless, h.events⟩
    case isFalse => exact h

theorem aboveZero_updateEvents (d : Device) :
    Spec aboveZero countedInput (fun _ => True) (EventController.updateEvents d : EventProgram Unit)
      (fun _ _ => True) fun _ _ => True := by
  refine .bind (R := fun c _ => c.Counted ∧ True) (.look fun s hs _ => ⟨hs.forms d, trivial⟩)
    fun c => .given fun hc => ?_
  cases c.validationError with
  | some error => exact .pure fun _ _ => trivial
  | none =>
    cases hleft : c.updateRemainTickets with
    | none => exact .throw fun _ _ => trivial
    | some remainingTickets =>
      have written : Quiet aboveZero (updateEventsToFarmer d.uid c.eventId
          (c.formData remainingTickets)) := by
        refine .tryCatch (.bind ?_ fun _ => .call (aboveZero_updateEventDoc d.uid c.eventId
          fun _ _ => ⟨hc.number, updateRemainTickets_counted hleft⟩) fun _ _ => trivial)
            fun _ => .pure _
        unfold checkDoc
        split
        · exact .throw _
        · exact .pure _
      exact .tryCatch (F := fun _ _ => True) (.bind (R := fun _ _ => True) (Quiet.spec written)
        fun _ => aboveZero_allowsForms.afterForm d) fun _ => .pure fun _ _ => trivial

/-- If nobody types a number below zero or counts beyond 64 bits, none below zero is ever stored
    or shown, whichever bookings, edits and reloads overlap. -/
theorem tickets_not_negative {ids : IdSupply} {u v : TicketMarket} (hu : u.slots = [])
    (hstart : NoneBelowZero u.state) (hrun : Run (ticketHandler ids) countedInput u v) :
    NoneBelowZero v.state := by
  have start : u.Safe aboveZero countedInput := ⟨hstart, fun x hx => by
    rw [hu] at hx
    cases hx⟩
  refine (hrun.safe (fun e s hs he => ?_) start).1.1
  refine (aboveZero_allowsForms.program ids (P := countedInput.start e)
    (fun d up hcount s hs hp => ?_) (fun d text hnumber c hc => ?_)
    fun d _ => aboveZero_updateEvents d).safe hs he
  · subst hcount
    refine (hs.forms d).countVisitors fun hup => ?_
    subst hup
    exact of_decide_eq_true hp
  · subst hnumber
    exact ⟨hc.visitors, he, hc.events⟩

theorem tastingWorld_stored {left id : String} {e : FarmEvent}
    (h : (tastingWorld left).events[id]? = some e) :
    id = "tasting" ∧ e = ⟨tasting "5", aFarmer.uid⟩ := by
  simp only [tastingWorld, Std.TreeMap.getElem?_insert, Std.TreeMap.getElem?_emptyc] at h
  split at h
  case isTrue hid =>
    exact ⟨(Std.LawfulEqOrd.eq_of_compare hid).symm, (Option.some.inj h).symm⟩
  case isFalse => cases h

theorem tastingWorld_maps {left : String} {p : ℕ} {c : ProductController}
    (h : (tastingWorld left).farmPages p = some c) :
    ∀ e ∈ c.maps, e = tasting "5" ∨ e = tasting left := by
  unfold tastingWorld at h
  dsimp only at h
  split at h
  · obtain rfl := Option.some.inj h
    exact fun e he => .inl (List.mem_singleton.1 he)
  · obtain rfl := Option.some.inj h
    exact fun e he => .inr (List.mem_singleton.1 he)
  · cases h

theorem tickets_not_negative_inTurn : NoneBelowZero
    (Pool.after (ticketHandler IdSupply.longer) ⟨tastingWorld "4", []⟩ bookedInTurn).state := by
  have hfive : (tasting "5").Counted := ⟨by decide +kernel, by decide +kernel⟩
  have hfour : (tasting "4").Counted := ⟨by decide +kernel, by decide +kernel⟩
  refine tickets_not_negative (u := ⟨tastingWorld "4", []⟩) rfl ⟨fun id e he => ?_, fun id b hb => ?_,
    fun p c hc e he => ?_, fun d => ⟨Int.one_nonneg, notNegative_empty, fun _ he => by cases he⟩⟩
    (.after (by decide +kernel) (by decide +kernel))
  · rw [(tastingWorld_stored he).2]
    exact hfive
  · simp [tastingWorld] at hb
  · rcases tastingWorld_maps hc e he with rfl | rfl
    · exact hfive
    · exact hfour

/-- No more tickets remain than there are, as far as the texts are numbers. -/
def EventData.Within (e : EventData) : Prop :=
  ∀ r, intTryParse e.remainingTickets = some r → ∃ m, intTryParse e.maxNumbers = some m ∧ r ≤ m

def EventData.SameCapacity (e : EventData) (s : EventWorld) : Prop :=
  ∀ id, e.id = some id → id ∈ s.usedIds ∧
    ∀ stored, s.events[id]? = some stored → stored.maxNumbers = e.maxNumbers

structure WithinCapacity (s : EventWorld) : Prop where
  named : ∀ (id : String) (e : FarmEvent), s.events[id]? = some e → ∀ i, e.id = some i → i = id
  events : ∀ (id : String) (e : FarmEvent), s.events[id]? = some e → e.toEventData.Within
  maps : ∀ p c, s.farmPages p = some c → ∀ e ∈ c.maps, e.Within ∧ e.SameCapacity s

/-- Ids are not used again, and capacities stay. -/
structure CapacitiesStay (s t : EventWorld) : Prop where
  used : ∀ id ∈ s.usedIds, id ∈ t.usedIds
  stay : ∀ id ∈ s.usedIds, ∀ e', t.events[id]? = some e' →
    ∃ e, s.events[id]? = some e ∧ e'.maxNumbers = e.maxNumbers

theorem CapacitiesStay.same {s t : EventWorld} (hused : ∀ id ∈ s.usedIds, id ∈ t.usedIds)
    (hevents : t.events = s.events) : CapacitiesStay s t :=
  ⟨hused, fun _ _ e' he' => ⟨e', hevents ▸ he', rfl⟩⟩

def capacities : Contract EventWorld EventAccess where
  inv := WithinCapacity
  rel := CapacitiesStay
  shows _ _ := True
  refl _ := .same (fun _ h => h) rfl
  trans := by
    intro s t u hst htu
    refine ⟨fun id hid => htu.used id (hst.used id hid), fun id hid e'' he'' => ?_⟩
    obtain ⟨e', he', hcapacity'⟩ := htu.stay id (hst.used id hid) e'' he''
    obtain ⟨e, he, hcapacity⟩ := hst.stay id hid e' he'
    exact ⟨e, he, hcapacity'.trans hcapacity⟩

theorem EventData.SameCapacity.later {e : EventData} {s t : EventWorld} (hst : CapacitiesStay s t)
    (h : e.SameCapacity s) : e.SameCapacity t := by
  intro id hid
  obtain ⟨hused, hsame⟩ := h id hid
  refine ⟨hst.used id hused, fun e' he' => ?_⟩
  obtain ⟨stored, hstored, hcapacity⟩ := hst.stay id hused e' he'
  exact hcapacity.trans (hsame stored hstored)

theorem WithinCapacity.mapsLater {s t : EventWorld} (hs : WithinCapacity s)
    (hst : CapacitiesStay s t) (hpages : t.farmPages = s.farmPages) :
    ∀ p c, t.farmPages p = some c → ∀ e ∈ c.maps, e.Within ∧ e.SameCapacity t := by
  intro p c hc e he
  obtain ⟨hwithin, hsame⟩ := hs.maps p c (hpages ▸ hc) e he
  exact ⟨hwithin, hsame.later hst⟩

theorem capacities_same {f : EventWorld → EventWorld} (hevents : ∀ s, (f s).events = s.events)
    (hused : ∀ s, ∀ id ∈ s.usedIds, id ∈ (f s).usedIds)
    (hpages : ∀ s, (f s).farmPages = s.farmPages) : capacities.Keeps f := by
  intro s hs
  have stay : CapacitiesStay s (f s) := .same (hused s) (hevents s)
  exact ⟨⟨hevents s ▸ hs.named, hevents s ▸ hs.events, hs.mapsLater stay (hpages s)⟩, stay⟩

theorem capacities_insert {s : EventWorld} (hs : WithinCapacity s) (id : String) {e : FarmEvent}
    (hnamed : ∀ i, e.id = some i → i = id) (hwithin : e.toEventData.Within)
    (hkey : id ∉ s.usedIds ∨ ∃ e', s.events[id]? = some e' ∧ e.maxNumbers = e'.maxNumbers) :
    WithinCapacity { s with events := s.events.insert id e } ∧
      CapacitiesStay s { s with events := s.events.insert id e } := by
  have stay : CapacitiesStay s { s with events := s.events.insert id e } := by
    refine ⟨fun i hi => usedIds_insert id hi, fun i hi e' he' => ?_⟩
    rw [Std.TreeMap.getElem?_insert] at he'
    split at he'
    case isFalse => exact ⟨e', he', rfl⟩
    case isTrue hid =>
      obtain rfl := Std.LawfulEqOrd.eq_of_compare hid
      obtain rfl := Option.some.inj he'
      exact hkey.resolve_left fun h => h hi
  refine ⟨⟨fun i e' he' => ?_, fun i e' he' => ?_, hs.mapsLater stay rfl⟩, stay⟩
  · rw [Std.TreeMap.getElem?_insert] at he'
    split at he'
    case isFalse => exact hs.named i e' he'
    case isTrue hid =>
      obtain rfl := Std.LawfulEqOrd.eq_of_compare hid
      obtain rfl := Option.some.inj he'
      exact hnamed
  · rw [Std.TreeMap.getElem?_insert] at he'
    split at he'
    case isFalse => exact hs.events i e' he'
    case isTrue => exact Option.some.inj he' ▸ hwithin

theorem capacities_updateEventDoc {s : EventWorld} (hs : WithinCapacity s) (uid : Uid)
    (id : String) {f : EventData → EventData} (hcapacity : ∀ e, (f e).maxNumbers = e.maxNumbers)
    (hnamed : ∀ e : EventData, (∀ i, e.id = some i → i = id) → ∀ i, (f e).id = some i → i = id)
    (hf : ∀ e, s.events[id]? = some e → (f e.toEventData).Within) :
    WithinCapacity (updateEventDoc uid id f s).1 ∧ CapacitiesStay s (updateEventDoc uid id f s).1 := by
  unfold updateEventDoc
  split
  · rename_i e he
    split
    · exact capacities_insert hs id (hnamed _ (hs.named id e he)) (hf e he)
        (.inr ⟨e, he, hcapacity _⟩)
    · exact ⟨hs, capacities.refl s⟩
  · exact ⟨hs, capacities.refl s⟩

theorem capacities_deleteEventDoc (uid : Uid) (id : String) :
    capacities.Keeps (deleteEventDoc uid id) := by
  intro s hs
  unfold deleteEventDoc
  split
  case isFalse => exact ⟨hs, capacities.refl s⟩
  case isTrue =>
  have before {i : String} {e : FarmEvent} (he : (s.events.erase id)[i]? = some e) :
      s.events[i]? = some e := by
    rw [Std.TreeMap.getElem?_erase] at he
    split at he
    · cases he
    · exact he
  have stay : CapacitiesStay s
      { s with events := s.events.erase id, deletedEvents := id :: s.deletedEvents } := by
    refine ⟨fun i hi => ?_, fun i _ e he => ⟨e, before he, rfl⟩⟩
    simp only [EventWorld.usedIds, List.mem_append, List.mem_cons, Std.TreeMap.mem_keys,
      Std.TreeMap.mem_erase] at hi ⊢
    by_cases heq : id = i
    · simp [heq]
    · simpa [heq, Ne.symm heq] using hi
  exact ⟨⟨fun i e he => hs.named i e (before he), fun i e he => hs.events i e (before he),
    hs.mapsLater stay rfl⟩, stay⟩

theorem capacities_allowsMaps :
    AllowsMaps capacities fun e s => e.Within ∧ e.SameCapacity s where
  shows _ _ _ := trivial
  stable _ _ _ hst h := ⟨h.1, h.2.later hst⟩
  blank _ := by
    refine ⟨fun r hr => ?_, fun id hid => by cases hid⟩
    have hnone : intTryParse "" = none := by decide +kernel
    rw [hnone] at hr
    cases hr
  marked _ _ _ _ _ h := h
  stored s id e hs he := by
    refine ⟨hs.events id e he, fun i hi => ?_⟩
    obtain rfl := hs.named id e he i hi
    have hused : i ∈ s.usedIds := EventWorld.used_of_tickets (Option.map_eq_some_iff.2 ⟨e, he, rfl⟩)
    exact ⟨hused, fun e' he' => by rw [Option.some.inj (he.symm.trans he')]⟩
  held _ p c hs hc := hs.maps p c hc
  holds s p c hs hc := by
    have stay : CapacitiesStay s
        { s with farmPages := Function.update s.farmPages p (some c) } := .same (fun _ h => h) rfl
    refine ⟨⟨hs.named, hs.events, fun q c' hq e he => ?_⟩, stay⟩
    simp only [Function.update_apply] at hq
    split at hq
    case isTrue =>
      obtain rfl := Option.some.inj hq
      exact ⟨(hc e he).1, (hc e he).2.later stay⟩
    case isFalse => exact ⟨(hs.maps q c' hq e he).1, (hs.maps q c' hq e he).2.later stay⟩
  counts _ _ _ := capacities_same (fun _ => rfl) (fun _ _ h => h) fun _ => rfl
  deletes := capacities_deleteEventDoc
  takes s uid id e n hs he hid hn hpos := by
    refine capacities_updateEventDoc hs uid id (fun _ => rfl) (fun _ h => h) fun stored hstored r hr => ?_
    obtain ⟨m, hm, hle⟩ := he.1 n hn
    obtain rfl : n - 1 = r :=
      Option.some.inj ((intTryParse_toString (fits_pred hn hpos)).symm.trans hr)
    exact ⟨m, ((he.2 id hid).2 stored hstored) ▸ hm, by omega⟩
  books ids uid s e hs _ := by
    refine capacities_same (f := fun w => (addBooking ids uid e w).1) (fun _ => rfl)
      (fun w id h => usedIds_addBooking ids uid e h) (fun _ => rfl) s hs
  marksBooking id bookingId := by
    refine capacities_same (fun w => ?_) (fun w i h => ?_) fun w => ?_
    · unfold updateBooking
      split
      · rfl
      · rfl
    · unfold updateBooking
      split
      · simp only [EventWorld.usedIds, List.mem_append, Std.TreeMap.mem_keys,
          Std.TreeMap.mem_insert] at h ⊢
        grind
      · exact h
    · unfold updateBooking
      split
      · rfl
      · rfl

theorem capacities_allowsForms :
    AllowsForms capacities (fun e s => e.Within ∧ e.SameCapacity s) fun _ => True where
  toAllowsMaps := capacities_allowsMaps
  form _ _ _ := trivial
  fills s d c hs _ := capacities_same (f := fun w =>
    { w with eventPages := Function.update w.eventPages d c }) (fun _ => rfl) (fun _ _ h => h)
      (fun _ => rfl) s hs
  same _ _ _ _ _ _ := trivial
  listed _ _ _ _ _ := trivial
  cleared _ _ := trivial
  opened _ _ _ _ := trivial
  adds ids uid s c hs _ := capacities_insert hs (s.newId ids) (fun i hi => by cases hi)
    (fun r hr => ⟨r, hr, le_rfl⟩) (.inl (s.newId_free ids))
  names uid id s hs := capacities_updateEventDoc hs uid id (fun _ => rfl)
    (fun _ _ i hi => (Option.some.inj hi).symm) fun e he => hs.events id e he
  clock _ := capacities_same (fun _ => rfl) (fun _ _ h => h) fun _ => rfl

def withoutEdits : Guard EventWorld EventAccess TicketEvent := .starting
  (fun | .updateEvents _ => false | _ => true) fun _ _ => true

instance : withoutEdits.Checks := inferInstanceAs (Guard.starting _ _).Checks

/-- While no event is edited, no more tickets remain than there are, however old the copies are
    that are booked from. -/
theorem tickets_within_capacity {ids : IdSupply} {u v : TicketMarket} (hu : u.slots = [])
    (hstart : WithinCapacity u.state) (hrun : Run (ticketHandler ids) withoutEdits u v) {id : String}
    {e : FarmEvent} (he : v.state.events[id]? = some e) : e.toEventData.Within := by
  have start : u.Safe capacities withoutEdits := ⟨hstart, fun x hx => by
    rw [hu] at hx
    cases hx⟩
  refine (hrun.safe (fun e s hs hallowed => ?_) start).1.1.events id e he
  refine (capacities_allowsForms.program ids (P := fun _ => True) (fun _ _ _ _ _ _ => trivial)
    (fun _ _ _ _ _ => trivial) fun d hedit => ?_).safe hs trivial
  subst hedit
  exact absurd hallowed Bool.false_ne_true

theorem tickets_within_capacity_inTurn :
    (Pool.after (ticketHandler IdSupply.longer) ⟨tastingWorld "4", []⟩ bookedInTurn).state.events[
      "tasting"]? = some ⟨tasting "3", aFarmer.uid⟩ ∧ (tasting "3").Within := by
  have hafter : (Pool.after (ticketHandler IdSupply.longer) ⟨tastingWorld "4", []⟩
      bookedInTurn).state.events["tasting"]? = some ⟨tasting "3", aFarmer.uid⟩ := by decide +kernel
  have hfive : intTryParse "5" = some 5 := by decide +kernel
  have within {text : String} {n : ℤ} (hn : intTryParse text = some n) (hle : n ≤ 5) :
      (tasting text).Within := fun r hr =>
    ⟨5, hfive, Option.some.inj (hn.symm.trans hr) ▸ hle⟩
  have hfour : intTryParse "4" = some 4 := by decide +kernel
  have same (text : String) : (tasting text).SameCapacity (tastingWorld "4") := by
    intro id hid
    obtain rfl := Option.some.inj hid
    exact ⟨by decide +kernel, fun e he => by rw [(tastingWorld_stored he).2]; rfl⟩
  have start : WithinCapacity (tastingWorld "4") := by
    refine ⟨fun id e he i hi => ?_, fun id e he => ?_, fun p c hc e he => ?_⟩
    · obtain ⟨rfl, rfl⟩ := tastingWorld_stored he
      exact (Option.some.inj hi).symm
    · rw [(tastingWorld_stored he).2]
      exact within hfive le_rfl
    · rcases tastingWorld_maps hc e he with rfl | rfl
      · exact ⟨within hfive le_rfl, same "5"⟩
      · exact ⟨within hfour (by decide), same "4"⟩
  have kept : (FarmEvent.mk (tasting "3") aFarmer.uid).toEventData.Within :=
    tickets_within_capacity (u := ⟨tastingWorld "4", []⟩) rfl start
      (.after (by decide +kernel) (by decide +kernel)) hafter
  exact ⟨hafter, kept⟩

end Gherass
