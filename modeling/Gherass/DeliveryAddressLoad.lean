import Gherass.EventLoopEnds
import Gherass.ProfileRules

set_option autoImplicit false

/-!
# Loading the address that an order goes to

The cart's map is extended with the profile's address before the fields of the address are read,
and what the map held before stays in it.
-/
namespace Gherass.Profiles

open EventLoop EventLoop.Async FieldMaps Gherass.Account

def Reached (p : Option Profile) (current : AddressMap) : Prop :=
  ∃ m, p = some m ∧ (∃ userName, m.get "username" = .value (.text userName)) ∧
    m.get "current_address" = .address current

structure Usable (p : Option Profile) (current : AddressMap) (email phoneNumber : String) :
    Prop where
  reached : Reached p current
  texts : ∀ k ∈ ["address", "street", "houseNumber", "neighborhood"],
    ∃ text, current.get k = .text text
  email : ∃ m, p = some m ∧ m.get "email" = .value (.text email)
  phoneNumber : ∃ m, p = some m ∧ m.get "phoneNumber" = .value (.text phoneNumber)

def contact (email phoneNumber : String) : AddressMap :=
  ofList [("email", .text email), ("phoneNumber", .text phoneNumber)]

/-- The map is the profile's address with its contact, or what it was before if the profile cannot
    be used. -/
structure AllOrNothing (p : Option Profile) (before after : AddressMap) : Prop where
  all : ∀ current email phoneNumber, Usable p current email phoneNumber →
    after = merge current (contact email phoneNumber)
  nothing : (¬ ∃ current email phoneNumber, Usable p current email phoneNumber) → after = before

def afterLoad (d : Device) (w : ProfileWorld) : ProfileWorld :=
  ((MyCartController.getCustomerDeliveryAddress d).task.alone (fun _ => true) w).2

inductive LoadsTo (p : Option Profile) (before : AddressMap) : AddressMap → Prop where
  | unread (h : ∀ current, ¬ Reached p current) : LoadsTo p before before
  | stopped (current : AddressMap) (h : Reached p current)
    (hu : ¬ ∃ current email phoneNumber, Usable p current email phoneNumber) :
    LoadsTo p before (merge before current)
  | done (current : AddressMap) (email phoneNumber : String)
    (h : Usable p current email phoneNumber) :
    LoadsTo p before (merge (merge before current) (contact email phoneNumber))

section Load

variable {d : Device} {w : ProfileWorld} {α : Type}

theorem ends_asText {v : ProfileValue} {f : String → ProfileProgram α}
    {Q : Except Thrown α → ProfileWorld → Prop}
    (htext : ∀ s, v = .value (.text s) → Ends (fun _ => true) (f s) w Q)
    (hother : (∀ s, v ≠ .value (.text s)) → Q (.error (.dart .type)) w) :
    Ends (fun _ => true) (asText v >>= f) w Q := by
  unfold asText
  split
  case h_1 s => exact .after (.pure s) (htext s rfl)
  case h_2 h => exact .thrown (.throw _) (hother h)

theorem cart_setCart (f : MyCartController → MyCartController) :
    (w.setCart d f).carts d = f (w.carts d) := Function.update_self ..

theorem ends_asAddress {v : ProfileValue} {f : AddressMap → ProfileProgram α}
    {Q : Except Thrown α → ProfileWorld → Prop}
    (hmap : ∀ m, v = .address m → Ends (fun _ => true) (f m) w Q)
    (hother : (∀ m, v ≠ .address m) → Q (.error (.dart .type)) w) :
    Ends (fun _ => true) (MyCartController.asAddress v >>= f) w Q := by
  unfold MyCartController.asAddress
  split
  case h_1 m => exact .after (.pure m) (hmap m rfl)
  case h_2 h => exact .thrown (.throw _) (hother h)

variable {p : Option Profile} {m : Profile} {before current map : AddressMap}

theorem ends_assign {v : ProfileValue} {put : String → MyCartController → MyCartController}
    {rest : ProfileProgram Unit} {Q : ProfileWorld → Prop}
    (hput : ∀ s c, (put s c).currentDeliveryAddress = c.currentDeliveryAddress)
    (hmap : (w.carts d).currentDeliveryAddress = map)
    (htext : ∀ s w', (∃ c, w'.carts d = put s c) → (w'.carts d).currentDeliveryAddress = map →
      v = .value (.text s) → Ends (fun _ => true) rest w' fun _ w' => Q w')
    (hother : (∀ s, v ≠ .value (.text s)) → Q w) :
    Ends (fun _ => true) (do
      let s ← asText v
      MyCartController.setCart d (put s)
      rest) w fun _ w' => Q w' := by
  refine ends_asText (fun s hs => .change (htext s _ ⟨_, cart_setCart _⟩ ?_ hs)) hother
  rw [cart_setCart, hput, hmap]

theorem stopped_loadsTo (h : Reached p current)
    (hmap : (w.carts d).currentDeliveryAddress = merge before current)
    (hu : ∀ email phoneNumber, ¬ Usable p current email phoneNumber) :
    LoadsTo p before (w.carts d).currentDeliveryAddress := by
  rw [hmap]
  refine .stopped current h ?_
  rintro ⟨current', email, phoneNumber, usable⟩
  obtain ⟨m, rfl, -, hm⟩ := h
  obtain ⟨m', hsome, -, hm'⟩ := usable.reached
  obtain rfl := Option.some_inj.1 hsome
  cases hm.symm.trans hm'
  exact hu email phoneNumber usable

theorem ends_extended (h : Reached (some m) current)
    (hmap : (w.carts d).currentDeliveryAddress = merge before current) :
    Ends (fun _ => true) (do
      let address ← asText (.value (current.get "address"))
      MyCartController.setCart d fun c => { c with adddress := address }
      let street ← asText (.value (current.get "street"))
      MyCartController.setCart d fun c => { c with street := street }
      let houseNumber ← asText (.value (current.get "houseNumber"))
      MyCartController.setCart d fun c => { c with houseNumber := houseNumber }
      let neighborhood ← asText (.value (current.get "neighborhood"))
      MyCartController.setCart d fun c => { c with neighborhood := neighborhood }
      let email ← asText (← MyCartController.field (some m) "email")
      MyCartController.setCart d fun c => { c with email := email }
      let phoneNumber ← asText (← MyCartController.field (some m) "phoneNumber")
      MyCartController.setCart d fun c => { c with phoneNumber := phoneNumber }
      MyCartController.setCart d fun c =>
        { c with
          currentDeliveryAddress := merge c.currentDeliveryAddress
            (contact c.email c.phoneNumber) }) w
      fun _ w' => LoadsTo (some m) before (w'.carts d).currentDeliveryAddress := by
  have unusable {k : String} (hk : k ∈ ["address", "street", "houseNumber", "neighborhood"])
      (hother : ∀ s, ProfileValue.value (current.get k) ≠ .value (.text s))
      (email phoneNumber : String) : ¬ Usable (some m) current email phoneNumber := fun usable => by
    obtain ⟨text, htext⟩ := usable.texts k hk
    exact hother text (congrArg _ htext)
  refine ends_assign (fun _ _ => rfl) hmap (fun address w₁ _ hmap haddress => ?_)
    fun hother => stopped_loadsTo h hmap (unusable (by simp) hother)
  refine ends_assign (fun _ _ => rfl) hmap (fun street w₂ _ hmap hstreet => ?_)
    fun hother => stopped_loadsTo h hmap (unusable (by simp) hother)
  refine ends_assign (fun _ _ => rfl) hmap (fun houseNumber w₃ _ hmap hhouse => ?_)
    fun hother => stopped_loadsTo h hmap (unusable (by simp) hother)
  refine ends_assign (fun _ _ => rfl) hmap (fun neighborhood w₄ _ hmap hneighborhood => ?_)
    fun hother => stopped_loadsTo h hmap (unusable (by simp) hother)
  refine .after (.pure _) (ends_assign (fun _ _ => rfl) hmap (fun email w₅ hemail hmap hm => ?_)
    fun hother => stopped_loadsTo h hmap fun email _ usable => ?_)
  · refine .after (.pure _) (ends_asText (fun phoneNumber hphone => .change ?_)
      fun hother => stopped_loadsTo h hmap fun _ phoneNumber usable => ?_)
    · have usable : Usable (some m) current email phoneNumber := by
        refine ⟨h, ?_, ⟨m, rfl, hm⟩, ⟨m, rfl, hphone⟩⟩
        simp only [List.forall_mem_cons]
        exact ⟨⟨address, ProfileValue.value.inj haddress⟩, ⟨street, ProfileValue.value.inj hstreet⟩,
          ⟨houseNumber, ProfileValue.value.inj hhouse⟩,
          ⟨neighborhood, ProfileValue.value.inj hneighborhood⟩, List.forall_mem_nil _⟩
      refine .of_yields (.change _) ?_
      obtain ⟨c, hc⟩ := hemail
      rw [cart_setCart, cart_setCart]
      dsimp only
      rw [hmap, hc]
      exact .done current email phoneNumber usable
    · obtain ⟨m', hsome, hm'⟩ := usable.phoneNumber
      exact hother phoneNumber (Option.some_inj.1 hsome ▸ hm')
  · obtain ⟨m', hsome, hm'⟩ := usable.email
    exact hother email (Option.some_inj.1 hsome ▸ hm')

theorem loadsTo (d : Device) (w : ProfileWorld) :
    LoadsTo (w.profiles d.logInType d.uid) (w.carts d).currentDeliveryAddress
      ((afterLoad d w).carts d).currentDeliveryAddress := by
  obtain ⟨p, hp⟩ : ∃ p, p = w.profiles d.logInType d.uid := ⟨_, rfl⟩
  obtain ⟨before, hbefore⟩ : ∃ before, before = (w.carts d).currentDeliveryAddress := ⟨_, rfl⟩
  have read := yields_getCurrentUserInfoById (w := w) d.uid d.logInType
  rw [← hp] at read ⊢
  rw [← hbefore]
  refine Ends.task (P := fun w' : ProfileWorld => LoadsTo p before
    (w'.carts d).currentDeliveryAddress) (.tryCatch (.after read (.after read ?_)))
  cases p with
  | none =>
    refine ends_asText (fun s hs => ?_) fun _ => ?_
    · cases hs
    · rw [← hbefore]
      exact .unread fun _ ⟨_, h, _⟩ => nomatch h
  | some m =>
    refine ends_asText (fun userName hname => .change (.after (.pure _)
      (ends_asAddress (fun current hcurrent => .change ?_) fun hcurrent => ?_))) fun hname => ?_
    · exact ends_extended ⟨m, rfl, ⟨userName, hname⟩, hcurrent⟩
        (by rw [cart_setCart, cart_setCart, ← hbefore])
    · simp only [cart_setCart, ← hbefore]
      exact .unread fun current ⟨_, h, _, h'⟩ => hcurrent current (Option.some_inj.1 h ▸ h')
    · rw [← hbefore]
      exact .unread fun _ ⟨_, h, ⟨s, hs⟩, _⟩ => hname s (Option.some_inj.1 h ▸ hs)

end Load

section Outcome

variable {p : Option Profile} {before after current : AddressMap} {email phoneNumber : String}

theorem Reached.unique {current' : AddressMap} (h : Reached p current) (h' : Reached p current') :
    current = current' := by
  obtain ⟨m, rfl, -, hm⟩ := h
  obtain ⟨m', hsome, -, hm'⟩ := h'
  obtain rfl := Option.some_inj.1 hsome
  cases hm.symm.trans hm'
  rfl

theorem Usable.contact_unique {current' : AddressMap} {email' phoneNumber' : String}
    (h : Usable p current email phoneNumber) (h' : Usable p current' email' phoneNumber') :
    contact email phoneNumber = contact email' phoneNumber' := by
  obtain ⟨m, rfl, hemail⟩ := h.email
  obtain ⟨m', hsome, hemail'⟩ := h'.email
  obtain ⟨n, hn, hphone⟩ := h.phoneNumber
  obtain ⟨n', hn', hphone'⟩ := h'.phoneNumber
  obtain rfl := Option.some_inj.1 hsome
  obtain rfl := Option.some_inj.1 hn
  obtain rfl := Option.some_inj.1 hn'
  cases hemail.symm.trans hemail'
  cases hphone.symm.trans hphone'
  rfl

/-- The map held nothing that a load leaves in it: only fields that are written over, or, if the
    load stops, the new address already. -/
structure Clean (p : Option Profile) (before : AddressMap) : Prop where
  usable : ∀ current email phoneNumber, Usable p current email phoneNumber →
    ∀ k, before k ≠ none → current k ≠ none ∨ k ∈ ["email", "phoneNumber"]
  stopped : (¬ ∃ current email phoneNumber, Usable p current email phoneNumber) →
    ∀ current, Reached p current → ∀ k v, current k = some v → before k = some v

theorem allOrNothing_of_loadsTo (h : LoadsTo p before after) :
    AllOrNothing p before after ↔ Clean p before := by
  cases h with
  | unread h =>
    have unusable current email phoneNumber : ¬ Usable p current email phoneNumber := fun usable =>
      h current usable.reached
    refine iff_of_true ⟨fun _ _ _ usable => ?_, fun _ => rfl⟩ ⟨fun _ _ _ usable => ?_, fun _ => ?_⟩
    · exact absurd usable (unusable _ _ _)
    · exact absurd usable (unusable _ _ _)
    · exact fun current hreached => absurd hreached (h current)
  | stopped current h hu =>
    constructor
    · intro all
      refine ⟨fun _ _ _ usable => absurd ⟨_, _, _, usable⟩ hu, fun _ current' h' => ?_⟩
      rw [h'.unique h]
      exact merge_eq_self_iff.1 (all.nothing hu)
    · intro clean
      refine ⟨fun _ _ _ usable => absurd ⟨_, _, _, usable⟩ hu, fun _ => ?_⟩
      exact merge_eq_self_iff.2 (clean.stopped hu current h)
  | done current email phoneNumber h =>
    have keys k : contact email phoneNumber k ≠ none ↔ k ∈ ["email", "phoneNumber"] :=
      ofList_ne_none_iff
    have same : merge (merge before current) (contact email phoneNumber) =
        merge current (contact email phoneNumber) ↔ _ := merge_merge_eq_iff
    simp only [keys] at same
    constructor
    · intro all
      refine ⟨fun current' _ _ h' => ?_, fun hu => absurd ⟨_, _, _, h⟩ hu⟩
      rw [h'.reached.unique h.reached]
      exact same.1 (all.all _ _ _ h)
    · intro clean
      refine ⟨fun current' _ _ h' => ?_, fun hu => absurd ⟨_, _, _, h⟩ hu⟩
      rw [h'.reached.unique h.reached, h'.contact_unique h]
      exact same.2 (clean.usable _ _ _ h)

end Outcome

/-- The load is all or nothing exactly if the map held nothing that it leaves there. -/
theorem allOrNothing_iff (d : Device) (w : ProfileWorld) :
    AllOrNothing (w.profiles d.logInType d.uid) (w.carts d).currentDeliveryAddress
        ((afterLoad d w).carts d).currentDeliveryAddress ↔
      Clean (w.profiles d.logInType d.uid) (w.carts d).currentDeliveryAddress :=
  allOrNothing_of_loadsTo (loadsTo d w)

/-- A customer has moved, and saved no more than the new location. -/
def movedCustomer : ProfileWorld where
  profiles := fun _ _ => some (ofList [("username", .value (.text "Layan")),
    ("email", .value (.text "layan@farm.co")), ("phoneNumber", .value (.text "0500000000")),
    ("current_address", .address (savedLocation "Medina" (24, 39)))])
  carts := fun _ =>
    { currentDeliveryAddress := ofList [("address", .text "Jeddah"),
        ("street", .text "Corniche Road"), ("lat", .number 21), ("lng", .number 40)] }

/-- The street of the old address goes with the coordinates of the new one. -/
theorem movedCustomer_mixed :
    ¬ AllOrNothing (movedCustomer.profiles shopper.logInType shopper.uid)
        (movedCustomer.carts shopper).currentDeliveryAddress
        ((afterLoad shopper movedCustomer).carts shopper).currentDeliveryAddress ∧
      ((afterLoad shopper movedCustomer).carts shopper).currentDeliveryAddress "lat" =
        some (.number 24) ∧
      ((afterLoad shopper movedCustomer).carts shopper).currentDeliveryAddress "street" =
        some (.text "Corniche Road") := by
  have lat : ((afterLoad shopper movedCustomer).carts shopper).currentDeliveryAddress "lat" =
      some (.number 24) := by rfl
  refine ⟨fun h => ?_, lat, by rfl⟩
  have unusable : ¬ ∃ current email phoneNumber, Usable (movedCustomer.profiles shopper.logInType
      shopper.uid) current email phoneNumber := by
    rintro ⟨current, email, phoneNumber, usable⟩
    have reached : Reached (movedCustomer.profiles shopper.logInType shopper.uid)
      (savedLocation "Medina" (24, 39)) := ⟨_, rfl, ⟨"Layan", rfl⟩, rfl⟩
    obtain ⟨text, htext⟩ := usable.texts "street" (by simp)
    have missing : AddressMap.get (savedLocation "Medina" (24, 39)) "street" = .null := by rfl
    rw [usable.reached.unique reached, missing] at htext
    cases htext
  have kept := congrFun (h.nothing unusable) "lat"
  rw [lat] at kept
  exact absurd kept (by decide +kernel)

end Gherass.Profiles
