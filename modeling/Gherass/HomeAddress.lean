import Gherass.EventLoopEnds
import Gherass.ProfileRules

set_option autoImplicit false

/-!
# The Home address and the address that orders go to

A Home address is stored twice, in the list and in the profile. The list takes any location, the
profile only one with neither coordinate zero, and a Home that is deleted is replaced in the profile
by whatever the form holds.
-/
namespace Gherass.Profiles

open EventLoop EventLoop.Async FieldMaps Gherass.Account DeliveryAddressController

inductive AddressEvent where
  | openPage (getVal : Option AddressMap)
  | reload
  | editAddress (addressItem : Option AddressMap)
  | chooseType (index : ℕ)
  | typeTitle (text : String)
  | typeDescription (text : String)
  | tapMap (lat lng : ℚ)
  | postAddress
  | updateAddress
  | deleteAddress (addressId addressType : String)

/-- An event on one of the customer's devices, with what the geocoder answers meanwhile. -/
structure AddressTurn where
  device : Device
  geocode : ℚ × ℚ → Option (List Placemark)
  event : AddressEvent

def clearSnackbars (d : Device) : ProfileProgram Unit :=
  change fun w => { w with snackbars := Function.update w.snackbars d [] }

def eventProgram (ids : IdSupply) (turn : AddressTurn) : ProfileProgram Unit :=
  match turn.event with
  | .openPage getVal => onInit turn.geocode turn.device getVal
  | .reload => getAddressList turn.device
  | .editAddress addressItem => updateFields turn.device addressItem
  | .chooseType index => setPage turn.device fun c => { c with selectedIndex := index }
  | .typeTitle text => setPage turn.device fun c => { c with addressTitle := text }
  | .typeDescription text => setPage turn.device fun c => { c with description := text }
  | .tapMap lat lng => updateMarkerPosition turn.geocode turn.device (lat, lng)
  | .postAddress => postAddress ids turn.geocode turn.device
  | .updateAddress => updateAddress turn.geocode turn.device
  | .deleteAddress addressId addressType => do
    spawn (deleteAddress turn.geocode turn.device addressId addressType)
    spawn (getAddressList turn.device)

def addressProgram (ids : IdSupply) (turn : AddressTurn) : ProfileProgram Unit := do
  clearSnackbars turn.device
  eventProgram ids turn

def addressHandler (ids : IdSupply) (turn : AddressTurn) : Task ProfileWorld ProfileAccess Unit :=
  (addressProgram ids turn).task

def currentAddress (uid : Uid) (w : ProfileWorld) : Option AddressMap :=
  (w.profiles .customer uid).bind fun m =>
    match m.get "current_address" with
    | .address current => some current
    | .value _ => none

def isHome (uid : Uid) (w : ProfileWorld) (id : String) (home : AddressMap) : Prop :=
  (w.addressList uid)[id]? = some home ∧ home.get "address_type" = .text "Home"

def agree (a b : AddressMap) : Prop :=
  ∀ k ∈ ["lat", "lng", "street", "neighborhood", "houseNumber"], a.get k = b.get k

/-- The profile has the list's Home, if there is one. -/
def inStep (uid : Uid) (w : ProfileWorld) : Prop :=
  ∀ id home, isHome uid w id home → ∃ current, currentAddress uid w = some current ∧
    agree current home

def oneHome (uid : Uid) (w : ProfileWorld) : Prop :=
  ∀ id id' home home', isHome uid w id home → isHome uid w id' home' → id = id'

def forgets (uid : Uid) (w : ProfileWorld) (home : AddressMap) : Prop :=
  ∀ current, currentAddress uid w = some current →
    ¬ (current.get "lat" = home.get "lat" ∧ current.get "lng" = home.get "lng")

def succeeds (d : Device) (w : ProfileWorld) : Prop :=
  w.snackbars d = [] ∨ ∃ text, ("Success", text) ∈ w.snackbars d

def afterTurn (ids : IdSupply) (turn : AddressTurn) (w : ProfileWorld) : ProfileWorld :=
  ((addressHandler ids turn).alone (fun _ => true) w).2

/-- An event that succeeds leaves both copies in step, and a Home that it deletes is forgotten. -/
def keepsStep (ids : IdSupply) (uid : Uid) (turn : AddressTurn) (w : ProfileWorld) : Prop :=
  succeeds turn.device (afterTurn ids turn w) →
    inStep uid (afterTurn ids turn w) ∧
    ∀ id addressType, turn.event = .deleteAddress id addressType → ∀ home, isHome uid w id home →
      forgets uid (afterTurn ids turn w) home

def withHomeId (c : DeliveryAddressController) : Option DeliveryAddressController :=
  if c.addressId = "" then
    match homeId c.addressList with
    | some (.text id) => some { c with addressId := id }
    | some _ => none
    | none => some c
  else some c

/-- All calls go through, on an address that is there, and there is at most one Home. -/
structure Promised (ids : IdSupply) (uid : Uid) (turn : AddressTurn) (ok : ProfileAccess → Bool)
    (w : ProfileWorld) : Prop where
  through : ∀ l, ok l = true
  user : turn.device.uid = uid ∧ turn.device.logInType = .customer
  profile : ∃ m, w.profiles .customer uid = some m
  before : oneHome uid w
  after : oneHome uid (afterTurn ids turn w)
  updated : turn.event = .updateAddress → ∀ c, withHomeId (w.addressPages turn.device) = some c →
    c.updateError = none → c.addressId ≠ "" ∧ ∃ m, (w.addressList uid)[c.addressId]? = some m
  deleted : ∀ id addressType, turn.event = .deleteAddress id addressType → id ≠ "" ∧
    ∃ m, (w.addressList uid)[id]? = some m ∧ m.get "address_type" = .text addressType

def located (c : DeliveryAddressController) : Prop := c.location.1 ≠ 0 ∧ c.location.2 ≠ 0

def holds (uid : Uid) (w : ProfileWorld) (data : AddressMap) : Prop :=
  ∃ current, currentAddress uid w = some current ∧ agree current data

/-- A Home is saved with a location that the profile takes, or as the profile has it, and deleted
    with a form that does not hold its coordinates. -/
def restores (uid : Uid) (turn : AddressTurn) (w : ProfileWorld) : Prop :=
  let c := w.addressPages turn.device
  match turn.event with
  | .postAddress => c.postError = none → c.selectedIndex = 0 →
    located c ∨ holds uid w c.postedData
  | .updateAddress => ∀ c', withHomeId c = some c' → c'.updateError = none →
    c'.selectedIndex = 0 → located c' ∨ holds uid w c'.updatedData
  | .deleteAddress id addressType => addressType = "Home" → located c → ∀ home,
    isHome uid w id home →
    ¬ (home.get "lat" = .number c.location.1 ∧ home.get "lng" = .number c.location.2)
  | _ => True

section Parts

variable {ids : IdSupply} {geocode : ℚ × ℚ → Option (List Placemark)} {d : Device} {uid : Uid}
  {w w' w'' : ProfileWorld}

structure SameStore (w w' : ProfileWorld) : Prop where
  profiles : w'.profiles = w.profiles
  addressList : w'.addressList = w.addressList

theorem SameStore.isHome_iff (h : SameStore w w') {id : String} {home : AddressMap} :
    isHome uid w' id home ↔ isHome uid w id home := by rw [isHome, isHome, h.addressList]

theorem SameStore.currentAddress (h : SameStore w w') :
    currentAddress uid w' = Profiles.currentAddress uid w := by
  rw [Profiles.currentAddress, Profiles.currentAddress, h.profiles]

theorem SameStore.inStep (h : SameStore w w') (hs : inStep uid w) : inStep uid w' := by
  intro id home hhome
  rw [h.currentAddress]
  exact hs id home (h.isHome_iff.1 hhome)

theorem SameStore.trans (h : SameStore w w') (h' : SameStore w' w'') : SameStore w w'' :=
  ⟨h'.profiles.trans h.profiles, h'.addressList.trans h.addressList⟩

theorem sameStore_showSnackbar (title text : String) : SameStore w (w.showSnackbar d title text) :=
  ⟨rfl, rfl⟩

structure SameDocs (w w' : ProfileWorld) : Prop extends SameStore w w' where
  snackbars : w'.snackbars = w.snackbars

theorem SameDocs.rfl : SameDocs w w := ⟨⟨Eq.refl _, Eq.refl _⟩, Eq.refl _⟩

theorem SameDocs.trans (h : SameDocs w w') (h' : SameDocs w' w'') : SameDocs w w'' :=
  ⟨⟨h'.profiles.trans h.profiles, h'.addressList.trans h.addressList⟩,
    h'.snackbars.trans h.snackbars⟩

theorem ends_textOr {P : ProfileWorld → Prop} (v : ProfileValue) (h : P w) :
    Ends (fun _ => true) (textOr v) w fun _ w' => P w' := by
  unfold textOr
  split
  · exact .of_yields (.pure _) h
  · exact .of_yields (.pure _) h
  · exact .of_yields (.throw _) h

theorem ends_readText {P : ProfileWorld → Prop} (v : ProfileValue) (h : P w) :
    Ends (fun _ => true) (asText v) w fun _ w' => P w' := by
  unfold asText
  split
  · exact .of_yields (.pure _) h
  · exact .of_yields (.throw _) h

theorem ends_numberOr {P : ProfileWorld → Prop} (v : Value) (h : P w) :
    Ends (fun _ => true) (numberOr v) w fun _ w' => P w' := by
  unfold numberOr
  split
  · exact .of_yields (.pure _) h
  · exact .of_yields (.pure _) h
  · exact .of_yields (.throw _) h

theorem ends_parseCoordinate {P : ProfileWorld → Prop} (v : Value) (h : P w) :
    Ends (fun _ => true) (parseCoordinate v) w fun _ w' => P w' := by
  unfold parseCoordinate
  split
  · exact .of_yields (.pure _) h
  · exact .of_yields (.throw _) h

theorem ends_setPage (f : DeliveryAddressController → DeliveryAddressController)
    (h : SameDocs w w') : Ends (fun _ => true) (setPage d f) w' fun _ w'' => SameDocs w w'' :=
  .of_yields (.change _) (h.trans ⟨⟨Eq.refl _, Eq.refl _⟩, Eq.refl _⟩)

variable (geocode) in
theorem ends_getAddressFromLatLng (position : ℚ × ℚ) (h : SameDocs w w') :
    Ends (fun _ => true) (getAddressFromLatLng geocode d position) w'
      fun _ w'' => SameDocs w w'' := by
  refine .handled (.seq (.call rfl h) fun placeMarks _ h => ?_) fun _ _ h => ends_setPage _ h
  cases placeMarks with
  | nil => exact .of_yields (.pure ()) h
  | cons place _ => exact ends_setPage _ h

theorem ends_getAddressList (h : SameDocs w w') :
    Ends (fun _ => true) (getAddressList d) w' fun _ w'' => SameDocs w w'' := by
  have fetched : Ends (fun _ => true) (FirebaseHelper.fetchAddressList d.uid) w'
      fun _ w'' => SameDocs w w'' := by
    refine .handled (.seq (.call rfl h) fun docs _ h => ?_) fun _ _ h => .of_yields (.pure _) h
    split
    · exact .of_yields (.pure _) h
    · exact .of_yields (.pure _) h
  refine .tryCatch (.seq fetched fun response _ h => ?_)
  cases response with
  | none => exact .of_yields (.pure ()) h
  | some response => exact ends_setPage _ h

theorem ends_updateMarkerPosition (position : ℚ × ℚ) (h : SameDocs w w') :
    Ends (fun _ => true) (updateMarkerPosition geocode d position) w'
      fun _ w'' => SameDocs w w'' :=
  .seq (ends_setPage _ h) fun _ _ h => .spawn (ends_getAddressFromLatLng geocode position h)

theorem ends_fillFields (addressItem : AddressMap) (h : SameDocs w w') :
    Ends (fun _ => true) (fillFields d addressItem) w' fun _ w'' => SameDocs w w'' := by
  refine .seq (ends_textOr _ h) fun _ _ h => .seq (ends_setPage _ h) fun _ _ h => ?_
  refine .seq (ends_textOr _ h) fun _ _ h => .seq (ends_setPage _ h) fun _ _ h => ?_
  refine .seq (ends_textOr _ h) fun _ _ h => .seq (ends_setPage _ h) fun _ _ h => ?_
  refine .seq (ends_textOr _ h) fun _ _ h => .seq (ends_setPage _ h) fun _ _ h => ?_
  refine .seq (ends_numberOr _ h) fun _ _ h => .seq (ends_numberOr _ h) fun _ _ h => ?_
  exact ends_setPage _ h

theorem ends_updateFields (addressItem : Option AddressMap) (h : SameDocs w w') :
    Ends (fun _ => true) (updateFields d addressItem) w' fun _ w'' => SameDocs w w'' := by
  cases addressItem with
  | none => exact .of_yields (.pure ()) h
  | some addressItem => exact ends_fillFields addressItem h

theorem ends_onInit (getVal : Option AddressMap) (h : SameDocs w w') :
    Ends (fun _ => true) (onInit geocode d getVal) w' fun _ w'' => SameDocs w w'' := by
  refine .seq (ends_setPage _ h) fun _ _ h => ?_
  cases getVal with
  | none => exact .spawn (ends_getAddressList h)
  | some getVal =>
    refine .seq (ends_readText _ h) fun _ _ h => .seq (ends_setPage _ h) fun _ _ h => ?_
    refine .seq (ends_readText _ h) fun _ _ h => .seq (ends_setPage _ h) fun _ _ h => ?_
    refine .seq (ends_readText _ h) fun _ _ h => .seq (ends_setPage _ h) fun _ _ h => ?_
    refine .seq (ends_parseCoordinate _ h) fun _ _ h => .seq (ends_parseCoordinate _ h) fun _ _ h =>
      ?_
    exact .seq (ends_updateMarkerPosition _ h) fun _ _ h => .spawn (ends_getAddressList h)

theorem ends_success (text : String) (f : DeliveryAddressController → DeliveryAddressController) :
    Ends (fun _ => true) (do
      snackbar d "Success" text
      spawn (getAddressList d)
      setPage d f) w fun _ w' => SameDocs (w.showSnackbar d "Success" text) w' :=
  .change (.seq (.spawn (ends_getAddressList .rfl)) fun _ _ h => ends_setPage f h)

structure Delivered (d : Device) (data : AddressMap) (w w' : ProfileWorld) : Prop where
  addressList : w'.addressList = w.addressList
  current : Profiles.currentAddress d.uid w' = some data
  snackbars : w'.snackbars d = w.snackbars d ++ [("Success", "changed Delivery Address")]

variable {data : AddressMap} {lat lng : ℚ}

theorem Delivered.trans (h : Delivered d data w w') (h' : SameDocs w' w'') :
    Delivered d data w w'' :=
  ⟨h'.addressList.trans h.addressList, h'.currentAddress.trans h.current,
    (congrFun h'.snackbars d).trans h.snackbars⟩

theorem isSet_iff (h : data.get "lat" = .number lat) (h' : data.get "lng" = .number lng) :
    (isSet (data.get "lat") = true ∧ isSet (data.get "lng") = true) ↔ lat ≠ 0 ∧ lng ≠ 0 := by
  simp [isSet, h, h']

theorem currentAddress_setProfile {m : Profile} :
    currentAddress uid (w.setProfile .customer uid
      (some (merge m (ofList [("current_address", .address data)])))) = some data := by
  rw [currentAddress, ProfileWorld.profiles_setProfile]
  rfl

variable (geocode) in
theorem ends_delivered (hrole : d.logInType = .customer)
    (hm : ∃ m, w.profiles .customer d.uid = some m) (hlat : data.get "lat" = .number lat)
    (hlng : data.get "lng" = .number lng) (hset : lat ≠ 0 ∧ lng ≠ 0) :
    Ends (fun _ => true) (updateDeliveryAddress geocode d data) w
      fun _ w' => Delivered d data w w' := by
  obtain ⟨m, hm⟩ := hm
  obtain ⟨stored, hstored⟩ : ∃ stored, stored = w.setProfile .customer d.uid
    (some (merge m (ofList [("current_address", .address data)]))) := ⟨_, rfl⟩
  have write : Yields (fun _ => true) (FirebaseHelper.updateUserData
      (ofList [("current_address", .address data)]) .customer d.uid) w (.ok ()) stored := by
    rw [hstored]
    exact yields_updateUserData hm rfl
  refine .tryCatch ?_
  rw [if_pos ((isSet_iff hlat hlng).2 hset), hrole, hlat, hlng]
  obtain ⟨r, w', hrun, h⟩ := ends_getAddressFromLatLng geocode (d := d) (lat, lng)
    (.rfl (w := stored))
  refine .after write (.after (.pure lat) (.after (.pure lng) (.after (.spawned hrun) ?_)))
  refine .of_yields (.change _) ⟨?_, ?_, ?_⟩
  · exact h.addressList.trans (by rw [hstored, ProfileWorld.addressList_setProfile])
  · exact h.currentAddress.trans (by rw [hstored]; exact currentAddress_setProfile)
  · have shown : w'.snackbars = w.snackbars :=
      h.snackbars.trans (by rw [hstored, ProfileWorld.snackbars_setProfile])
    exact (Function.update_self ..).trans (by rw [shown])

variable (geocode) in
theorem ends_undelivered (hlat : data.get "lat" = .number lat)
    (hlng : data.get "lng" = .number lng) (hset : ¬ (lat ≠ 0 ∧ lng ≠ 0)) :
    Ends (fun _ => true) (updateDeliveryAddress geocode d data) w
      fun _ w' => SameDocs (w.showSnackbar d "Error" "please select location On Map") w' := by
  refine .tryCatch ?_
  rw [if_neg fun h => hset ((isSet_iff hlat hlng).1 h)]
  exact .of_yields (.change _) .rfl

structure Saved (d : Device) (data : AddressMap) (set : Prop) (w w' : ProfileWorld) : Prop where
  addressList : w'.addressList = w.addressList
  taken : set → Profiles.currentAddress d.uid w' = some data
  kept : ¬ set → Profiles.currentAddress d.uid w' = Profiles.currentAddress d.uid w
  shown : ∃ text, ("Success", text) ∈ w'.snackbars d

theorem shown_success {text : String} (h : SameDocs (w.showSnackbar d "Success" text) w') :
    ∃ text, ("Success", text) ∈ w'.snackbars d := by
  refine ⟨text, ?_⟩
  rw [h.snackbars]
  simp [ProfileWorld.showSnackbar]

theorem shown_more {title text text' : String} (h : ("Success", text) ∈ w.snackbars d) :
    ("Success", text) ∈ (w.showSnackbar d title text').snackbars d := by
  simp [ProfileWorld.showSnackbar, h]

theorem Saved.show {set : Prop} (h : Saved d data set w w') (title text : String) :
    Saved d data set w (w'.showSnackbar d title text) := by
  obtain ⟨shown, hshown⟩ := h.shown
  exact ⟨h.addressList, h.taken, h.kept, shown, shown_more hshown⟩

theorem ends_saved (hrole : d.logInType = .customer)
    (hm : ∃ m, w.profiles .customer d.uid = some m) (hlat : data.get "lat" = .number lat)
    (hlng : data.get "lng" = .number lng) (text : String)
    (f : DeliveryAddressController → DeliveryAddressController) :
    Ends (fun _ => true) (do
      spawn (updateDeliveryAddress geocode d data)
      snackbar d "Success" text
      spawn (getAddressList d)
      setPage d f) w fun _ w' => Saved d data (lat ≠ 0 ∧ lng ≠ 0) w w' := by
  by_cases hset : lat ≠ 0 ∧ lng ≠ 0
  · obtain ⟨r, w₁, hrun, delivered⟩ := ends_delivered geocode hrole hm hlat hlng hset
    refine .after (.spawned hrun) ((ends_success text f).mono fun _ w' h => ?_)
    refine ⟨h.addressList.trans delivered.addressList, fun _ => ?_, fun hno => absurd hset hno,
      shown_success h⟩
    exact h.currentAddress.trans delivered.current
  · obtain ⟨r, w₁, hrun, same⟩ := ends_undelivered geocode hlat hlng hset
    refine .after (.spawned hrun) ((ends_success text f).mono fun _ w' h => ?_)
    refine ⟨h.addressList.trans same.addressList, fun hyes => absurd hyes hset, fun _ => ?_,
      shown_success h⟩
    exact h.currentAddress.trans same.currentAddress

theorem saved_inStep_iff {set : Prop} {id : String} {home : AddressMap}
    (h : Saved d data set w w') (hhome : isHome d.uid w id home) (hagree : agree data home)
    (hone : oneHome d.uid w') : inStep d.uid w' ↔ set ∨ holds d.uid w data := by
  have same (id : String) (home : AddressMap) : isHome d.uid w' id home ↔
    isHome d.uid w id home := by rw [isHome, isHome, h.addressList]
  constructor
  · intro hstep
    by_cases hset : set
    · exact .inl hset
    · obtain ⟨current, hcurrent, hcopy⟩ := hstep id home ((same id home).2 hhome)
      rw [h.kept hset] at hcurrent
      exact .inr ⟨current, hcurrent, fun k hk => (hcopy k hk).trans (hagree k hk).symm⟩
  · intro hor id' home' hhome'
    obtain rfl : id' = id := hone _ _ _ _ hhome' ((same id home).2 hhome)
    obtain rfl : home' = home :=
      Option.some_inj.1 (((same _ _).1 hhome').1.symm.trans hhome.1)
    by_cases hset : set
    · exact ⟨data, h.taken hset, hagree⟩
    · obtain ⟨current, hcurrent, hcopy⟩ := hor.resolve_left hset
      rw [← h.kept hset] at hcurrent
      exact ⟨current, hcurrent, fun k hk => (hcopy k hk).trans (hagree k hk)⟩

end Parts

section Events

variable {ids : IdSupply} {uid : Uid} {turn : AddressTurn} {ok : ProfileAccess → Bool}
  {w t : ProfileWorld}

def Steps (ids : IdSupply) (uid : Uid) (turn : AddressTurn) (w : ProfileWorld) : Prop :=
  (keepsStep ids uid turn w ↔ restores uid turn w) ∧
    (restores uid turn w → inStep uid (afterTurn ids turn w))

def cleared (d : Device) (w : ProfileWorld) : ProfileWorld :=
  { w with snackbars := Function.update w.snackbars d [] }

theorem cleared_store (d : Device) (w : ProfileWorld) : SameStore w (cleared d w) := ⟨rfl, rfl⟩

theorem afterTurn_of_ends {P : ProfileWorld → Prop}
    (h : Ends (fun _ => true) (eventProgram ids turn) (cleared turn.device w) fun _ t => P t) :
    P (afterTurn ids turn w) := by
  have run : Ends (fun _ => true) (addressProgram ids turn) w fun _ t => P t := .change h
  exact run.task

theorem steps_quiet (hsame : SameStore w (afterTurn ids turn w)) (hin : inStep uid w)
    (hr : restores uid turn w)
    (hkept : ∀ id addressType, turn.event ≠ .deleteAddress id addressType) :
    Steps ids uid turn w := by
  refine ⟨iff_of_true (fun _ => ⟨hsame.inStep hin, fun id addressType h => ?_⟩) hr,
    fun _ => hsame.inStep hin⟩
  exact absurd h (hkept id addressType)

theorem keepsStep_iff (hkept : ∀ id addressType, turn.event ≠ .deleteAddress id addressType)
    (hshown : ∃ text, ("Success", text) ∈ (afterTurn ids turn w).snackbars turn.device) :
    keepsStep ids uid turn w ↔ inStep uid (afterTurn ids turn w) := by
  constructor
  · exact fun h => (h (.inr hshown)).1
  · exact fun h _ => ⟨h, fun id addressType he => absurd he (hkept id addressType)⟩

theorem steps_saved {set : Prop} {data home : AddressMap} {id : String}
    (hkept : ∀ id addressType, turn.event ≠ .deleteAddress id addressType)
    (hone : oneHome turn.device.uid (afterTurn ids turn w))
    (hsaved : Saved turn.device data set t (afterTurn ids turn w))
    (hhome : isHome turn.device.uid t id home) (hagree : agree data home)
    (hr : restores turn.device.uid turn w ↔ set ∨ holds turn.device.uid t data) :
    Steps ids turn.device.uid turn w := by
  have step := saved_inStep_iff hsaved hhome hagree hone
  exact ⟨(keepsStep_iff hkept hsaved.shown).trans (step.trans hr.symm), fun h => step.2 (hr.1 h)⟩

theorem steps_away {id : String} {m : AddressMap}
    (hkept : ∀ id addressType, turn.event ≠ .deleteAddress id addressType) (hin : inStep uid w)
    (hsame : SameStore t (afterTurn ids turn w))
    (hcurrent : currentAddress uid t = currentAddress uid w)
    (hother : ∀ id', id' ≠ id → (t.addressList uid)[id']? = (w.addressList uid)[id']?)
    (hstored : (t.addressList uid)[id]? = some m) (haway : m.get "address_type" ≠ .text "Home")
    (hr : restores uid turn w) : Steps ids uid turn w := by
  have step : inStep uid (afterTurn ids turn w) := by
    refine hsame.inStep fun id' home hhome => ?_
    rw [hcurrent]
    by_cases hsaved : id' = id
    · rw [hsaved] at hhome
      have same : home = m := Option.some_inj.1 (hhome.1.symm.trans hstored)
      exact absurd (same ▸ hhome.2) haway
    · exact hin id' home ⟨(hother id' hsaved).symm.trans hhome.1, hhome.2⟩
  refine ⟨iff_of_true (fun _ => ⟨step, fun id addressType h => ?_⟩) hr, fun _ => step⟩
  exact absurd h (hkept id addressType)

theorem addressType_home_iff {c : DeliveryAddressController} {other : String}
    (hother : other ≠ "Home") : c.addressType other = "Home" ↔ c.selectedIndex = 0 := by
  unfold addressType
  split
  case isTrue h => exact iff_of_true rfl h
  case isFalse h =>
    refine iff_of_false ?_ h
    split
    · decide
    · exact hother

def postedAddress (c : DeliveryAddressController) (id : String) : AddressMap :=
  merge c.postedData (ofList [("id", .text id)])

theorem postedAddress_type (c : DeliveryAddressController) (id : String) :
    (postedAddress c id).get "address_type" = .text (c.addressType "other") := rfl

theorem postedAddress_home_iff (c : DeliveryAddressController) (id : String) :
    (postedAddress c id).get "address_type" = .text "Home" ↔ c.selectedIndex = 0 := by
  rw [postedAddress_type, Value.text.injEq]
  exact addressType_home_iff (by decide)

theorem agree_postedAddress (c : DeliveryAddressController) (id : String) (m : AddressMap) :
    agree m (postedAddress c id) ↔ agree m c.postedData := by
  refine forall₂_congr fun k hk => ?_
  have other : postedAddress c id k = c.postedData k := by
    refine merge_of_none (ofList_eq_none ?_)
    simp only [List.map_cons, List.map_nil, List.mem_singleton]
    rintro rfl
    exact absurd hk (by decide)
  rw [AddressMap.get, AddressMap.get, AddressMap.get, other]

theorem steps_post {d : Device} {geocode : ℚ × ℚ → Option (List Placemark)}
    (h : Promised ids uid ⟨d, geocode, .postAddress⟩ ok w) (hin : inStep uid w) :
    Steps ids uid ⟨d, geocode, .postAddress⟩ w := by
  obtain ⟨c, hc⟩ : ∃ c, c = w.addressPages d := ⟨_, rfl⟩
  have page : Yields (fun _ => true) (page d) (cleared d w) (.ok c) (cleared d w) := hc ▸ .look _
  obtain ⟨rfl, hrole⟩ := h.user
  cases herror : c.postError with
  | some error =>
    have same : SameStore w (afterTurn ids ⟨d, geocode, .postAddress⟩ w) := by
      refine afterTurn_of_ends (.after page ?_)
      rw [herror]
      exact .of_yields (.change _) ⟨rfl, rfl⟩
    refine steps_quiet same hin ?_ nofun
    intro hvalid
    rw [← hc, herror] at hvalid
    cases hvalid
  | none =>
    obtain ⟨id, hid⟩ : ∃ id, id = (cleared d w).newAddress ids d.uid := ⟨_, rfl⟩
    obtain ⟨added, hadded⟩ : ∃ added, added = addedAddress ids d.uid c.postedData (cleared d w) :=
      ⟨_, rfl⟩
    have add := yields_addAddressForCustomer (w := cleared d w) ids d.uid c.postedData
    rw [← hid, ← hadded] at add
    have store : added.profiles = w.profiles := by rw [hadded]; rfl
    have current : currentAddress d.uid added = currentAddress d.uid w := by
      rw [currentAddress, currentAddress, store]
    have stored : (added.addressList d.uid)[id]? = some (postedAddress c id) := by
      rw [hadded, hid]
      exact addedAddress_self ids d.uid c.postedData
    have kept (id addressType : String) : AddressEvent.postAddress ≠
      .deleteAddress id addressType := nofun
    by_cases hindex : c.selectedIndex = 0
    · have home := (postedAddress_home_iff c id).2 hindex
      have saved : Saved d (postedAddress c id) (located c) added
          (afterTurn ids ⟨d, geocode, .postAddress⟩ w) := by
        refine afterTurn_of_ends (.after page ?_)
        rw [herror]
        refine .handled (.after add ?_) fun _ t h => .of_yields (.change _) (h.show ..)
        rw [← postedAddress, if_pos home]
        exact ends_saved hrole (by rw [store]; exact h.profile) rfl rfl _ _
      refine steps_saved kept h.after saved ⟨stored, home⟩ (fun _ _ => rfl) ?_
      simp only [restores, ← hc, herror, hindex, true_implies, holds, current,
        agree_postedAddress]
    · have away : (postedAddress c id).get "address_type" ≠ .text "Home" := fun h =>
        hindex ((postedAddress_home_iff c id).1 h)
      have same : SameStore added (afterTurn ids ⟨d, geocode, .postAddress⟩ w) := by
        refine afterTurn_of_ends (.after page ?_)
        rw [herror]
        refine .handled (.after add ?_) fun _ t h =>
          .of_yields (.change _) (h.trans (sameStore_showSnackbar ..))
        rw [← postedAddress, if_neg away]
        exact (ends_success _ _).mono fun _ _ h => (sameStore_showSnackbar ..).trans h.toSameStore
      refine steps_away kept hin same current (fun id' hne => ?_) stored away ?_
      · rw [hadded, addedAddress_of_ne (hid ▸ hne)]
        rfl
      · intro _ hzero
        rw [← hc] at hzero
        exact absurd hzero hindex

theorem yields_deleteAddress {id : String} (hid : id ≠ "") :
    Yields (fun _ => true) (FirebaseHelper.deleteAddress uid id) w (.ok ())
      (FirebaseHelper.deleteAddressDoc uid id w) := by
  have named : Yields (fun _ => true) (FirebaseHelper.checkDoc id) w (.ok ()) w := by
    rw [FirebaseHelper.checkDoc, if_neg hid]
    exact .pure ()
  exact .tryCatch (named.bind (.call_answer rfl rfl))

theorem deleteAddressDoc_isHome {id id' : String} {home : AddressMap} :
    isHome uid (FirebaseHelper.deleteAddressDoc uid id w) id' home ↔
      id' ≠ id ∧ isHome uid w id' home := by
  have list : (FirebaseHelper.deleteAddressDoc uid id w).addressList uid =
      (w.addressList uid).erase id := ProfileWorld.addressList_setAddresses w (·.erase id)
  have other : compare id id' = .eq ↔ id = id' := Std.compare_eq_iff_eq
  rw [isHome, list, Std.TreeMap.getElem?_erase]
  by_cases h : id = id'
  · rw [if_pos (other.2 h)]
    exact iff_of_false (fun h => nomatch h.1) fun hne => hne.1 h.symm
  · rw [if_neg fun heq => h (other.1 heq), and_iff_right (Ne.symm h), isHome]

theorem deletedData_lat (c : DeliveryAddressController) :
    c.deletedData.get "lat" = .number c.location.1 := rfl

theorem deletedData_lng (c : DeliveryAddressController) :
    c.deletedData.get "lng" = .number c.location.2 := rfl

/-- The addresses once the document is deleted. -/
def erased (d : Device) (id : String) (w : ProfileWorld) : ProfileWorld :=
  FirebaseHelper.deleteAddressDoc d.uid id (cleared d w)

theorem erased_isHome {d : Device} {id id' : String} {home : AddressMap} :
    isHome d.uid (erased d id w) id' home ↔ id' ≠ id ∧ isHome d.uid w id' home :=
  deleteAddressDoc_isHome

section Deletion

variable {d : Device} {geocode : ℚ × ℚ → Option (List Placemark)} {id addressType : String}

/-- What holds once the profile is dealt with holds at the end. -/
theorem afterTurn_of_delete {P : ProfileWorld → Prop} (hid : id ≠ "")
    (hP : ∀ t t', SameDocs t t' → P t → P t')
    (hprofile : Ends (fun _ => true) (do
      if addressType = "Home" then
        updateDeliveryAddress geocode d (w.addressPages d).deletedData
      setPage d fun c =>
        { c with addressList := c.addressList.filter fun m => m.get "id" ≠ .text id })
      (erased d id w) fun _ t => P t) :
    P (afterTurn ids ⟨d, geocode, .deleteAddress id addressType⟩ w) := by
  have read : Yields (fun _ => true) (look fun w => (w.addressPages d).deletedData :
      ProfileProgram AddressMap) (cleared d w) (.ok (w.addressPages d).deletedData)
      (cleared d w) := .look _
  have erase : Yields (fun _ => true) (FirebaseHelper.deleteAddress d.uid id) (cleared d w)
      (.ok ()) (erased d id w) := yields_deleteAddress hid
  refine afterTurn_of_ends (.seq (.spawn (.after read (.tryCatch (.after erase hprofile))))
    fun _ t ht => .spawn ?_)
  exact (ends_getAddressList .rfl).mono fun _ t' same => hP t t' same ht

theorem delete_delivered (hid : id ≠ "") (hrole : d.logInType = .customer)
    (hm : ∃ m, w.profiles .customer d.uid = some m) (hset : located (w.addressPages d)) :
    Delivered d (w.addressPages d).deletedData (erased d id w)
      (afterTurn ids ⟨d, geocode, .deleteAddress id "Home"⟩ w) := by
  refine afterTurn_of_delete hid (fun t t' same ht => ht.trans same) ?_
  rw [if_pos rfl]
  exact .seq (ends_delivered geocode hrole hm (deletedData_lat _) (deletedData_lng _) hset)
    fun _ t ht => (ends_setPage _ .rfl).mono fun _ t' same => ht.trans same

theorem delete_undelivered (hid : id ≠ "") (hset : ¬ located (w.addressPages d)) :
    SameDocs ((erased d id w).showSnackbar d "Error" "please select location On Map")
      (afterTurn ids ⟨d, geocode, .deleteAddress id "Home"⟩ w) := by
  refine afterTurn_of_delete hid (fun t t' same ht => ht.trans same) ?_
  rw [if_pos rfl]
  exact .seq (ends_undelivered geocode (deletedData_lat _) (deletedData_lng _) hset)
    fun _ t ht => ends_setPage _ ht

theorem delete_aside (hid : id ≠ "") (hother : addressType ≠ "Home") :
    SameStore (erased d id w) (afterTurn ids ⟨d, geocode, .deleteAddress id addressType⟩ w) := by
  refine afterTurn_of_delete hid (fun t t' same ht => ht.trans same.toSameStore) ?_
  rw [if_neg hother]
  exact (ends_setPage _ .rfl).mono fun _ t same => same.toSameStore

theorem Delivered.forgets_iff {c : DeliveryAddressController} {t t' : ProfileWorld}
    (h : Delivered d c.deletedData t t') (home : AddressMap) : forgets d.uid t' home ↔
      ¬ (home.get "lat" = .number c.location.1 ∧ home.get "lng" = .number c.location.2) := by
  rw [forgets, h.current]
  constructor
  · intro hforgets hsame
    exact hforgets _ rfl ⟨hsame.1.symm, hsame.2.symm⟩
  · rintro hother _ ⟨⟩ hsame
    exact hother ⟨hsame.1.symm, hsame.2.symm⟩

theorem steps_delete_located (hid : id ≠ "") (hrole : d.logInType = .customer)
    (hm : ∃ m, w.profiles .customer d.uid = some m) (hset : located (w.addressPages d))
    (alone : ∀ id' home, ¬ isHome d.uid (erased d id w) id' home) :
    Steps ids d.uid ⟨d, geocode, .deleteAddress id "Home"⟩ w := by
  have outcome : Delivered d (w.addressPages d).deletedData (erased d id w)
      (afterTurn ids ⟨d, geocode, .deleteAddress id "Home"⟩ w) :=
    delete_delivered hid hrole hm hset
  have step : inStep d.uid (afterTurn ids ⟨d, geocode, .deleteAddress id "Home"⟩ w) := by
    intro id' home h
    rw [isHome, outcome.addressList] at h
    exact absurd h (alone id' home)
  have shown : succeeds d (afterTurn ids ⟨d, geocode, .deleteAddress id "Home"⟩ w) := by
    refine .inr ⟨"changed Delivery Address", ?_⟩
    rw [outcome.snackbars]
    exact List.mem_append_right _ (List.mem_singleton.2 rfl)
  refine ⟨⟨fun hkeeps _ _ home hdeleted => ?_, fun hr _ => ⟨step, ?_⟩⟩, fun _ => step⟩
  · exact (outcome.forgets_iff home).1 ((hkeeps shown).2 id "Home" rfl home hdeleted)
  · rintro _ _ ⟨⟩ home hdeleted
    exact (outcome.forgets_iff home).2 (hr rfl hset home hdeleted)

theorem steps_delete_unlocated (hid : id ≠ "") (hset : ¬ located (w.addressPages d))
    (alone : ∀ id' home, ¬ isHome d.uid (erased d id w) id' home) :
    Steps ids d.uid ⟨d, geocode, .deleteAddress id "Home"⟩ w := by
  have outcome : SameDocs
      ((erased d id w).showSnackbar d "Error" "please select location On Map")
      (afterTurn ids ⟨d, geocode, .deleteAddress id "Home"⟩ w) := delete_undelivered hid hset
  have none : (erased d id w).snackbars d = [] := Function.update_self ..
  have snackbars : (afterTurn ids ⟨d, geocode, .deleteAddress id "Home"⟩ w).snackbars d =
      [("Error", "please select location On Map")] := by
    rw [outcome.snackbars]
    exact (Function.update_self ..).trans (by rw [none]; rfl)
  have failed : ¬ succeeds d (afterTurn ids ⟨d, geocode, .deleteAddress id "Home"⟩ w) := by
    rw [succeeds, snackbars]
    simp
  have step : inStep d.uid (afterTurn ids ⟨d, geocode, .deleteAddress id "Home"⟩ w) := by
    intro id' home h
    rw [isHome, outcome.addressList] at h
    exact absurd h (alone id' home)
  exact ⟨iff_of_true (fun hs => absurd hs failed) fun _ h => absurd h hset, fun _ => step⟩

theorem steps_delete_aside {m : AddressMap} (hid : id ≠ "") (hother : addressType ≠ "Home")
    (hm : (w.addressList d.uid)[id]? = some m) (htype : m.get "address_type" = .text addressType)
    (hin : inStep d.uid w) :
    Steps ids d.uid ⟨d, geocode, .deleteAddress id addressType⟩ w := by
  have same : SameStore (erased d id w)
      (afterTurn ids ⟨d, geocode, .deleteAddress id addressType⟩ w) := delete_aside hid hother
  have step : inStep d.uid (afterTurn ids ⟨d, geocode, .deleteAddress id addressType⟩ w) :=
    same.inStep fun id' home h => hin id' home (erased_isHome.1 h).2
  refine ⟨iff_of_true (fun _ => ⟨step, ?_⟩) fun h => absurd h hother, fun _ => step⟩
  rintro _ _ ⟨⟩ home hdeleted
  have type := congrArg (·.get "address_type") (Option.some_inj.1 (hm.symm.trans hdeleted.1))
  exact absurd (Value.text.inj (htype.symm.trans (type.trans hdeleted.2))) hother

theorem steps_delete
    (h : Promised ids uid ⟨d, geocode, .deleteAddress id addressType⟩ ok w) (hin : inStep uid w) :
    Steps ids uid ⟨d, geocode, .deleteAddress id addressType⟩ w := by
  obtain ⟨rfl, hrole⟩ := h.user
  obtain ⟨hid, m, hm, htype⟩ := h.deleted id addressType rfl
  by_cases hhome : addressType = "Home"
  · subst hhome
    have alone : ∀ id' home, ¬ isHome d.uid (erased d id w) id' home := by
      intro id' home h'
      obtain ⟨hne, hother⟩ := erased_isHome.1 h'
      exact hne (h.before _ _ _ _ hother ⟨hm, htype⟩)
    by_cases hset : located (w.addressPages d)
    · exact steps_delete_located hid hrole h.profile hset alone
    · exact steps_delete_unlocated hid hset alone
  · exact steps_delete_aside hid hhome hm htype hin

end Deletion

theorem yields_updateAddress {id : String} {m data : AddressMap} (hid : id ≠ "")
    (hm : (w.addressList uid)[id]? = some m) :
    Yields (fun _ => true) (FirebaseHelper.updateAddress uid id data) w (.ok ())
      (w.setAddresses uid (·.insert id (merge m data))) := by
  have named : Yields (fun _ => true) (FirebaseHelper.checkDoc id) w (.ok ()) w := by
    rw [FirebaseHelper.checkDoc, if_neg hid]
    exact .pure ()
  exact .tryCatch (named.bind (.call_eq rfl (updateAddressDoc_found hm)))

theorem setHomeId_run {d : Device} {c : DeliveryAddressController} (hc : w.addressPages d = c) :
    match withHomeId c with
    | none => Yields (fun _ => true) (setHomeId d) w (.error (.dart .type)) w
    | some c' => ∃ w', Yields (fun _ => true) (setHomeId d) w (.ok ()) w' ∧ SameDocs w w' ∧
      w'.addressPages d = c' := by
  have page : Yields (fun _ => true) (page d) w (.ok c) w := hc ▸ .look _
  unfold withHomeId
  by_cases hid : c.addressId = ""
  · rw [if_pos hid]
    cases hhome : homeId c.addressList with
    | none =>
      refine ⟨w, page.bind ?_, .rfl, hc⟩
      rw [if_pos hid, hhome]
      exact .pure ()
    | some v =>
      cases v with
      | text id =>
        refine ⟨w.setAddressPage d fun c => { c with addressId := id }, page.bind ?_,
          ⟨⟨Eq.refl _, Eq.refl _⟩, Eq.refl _⟩, (Function.update_self ..).trans (by rw [hc])⟩
        rw [if_pos hid, hhome]
        exact .change _
      | _ =>
        refine page.bind ?_
        rw [if_pos hid, hhome]
        exact .throw _
  · rw [if_neg hid]
    refine ⟨w, page.bind ?_, .rfl, hc⟩
    rw [if_neg hid]
    exact .pure ()

def updatedAddress (c : DeliveryAddressController) (m : AddressMap) : AddressMap :=
  merge m c.updatedData

theorem updatedAddress_type (c : DeliveryAddressController) (m : AddressMap) :
    (updatedAddress c m).get "address_type" = .text (c.addressType "Other") := rfl

theorem agree_updatedAddress (c : DeliveryAddressController) (m : AddressMap) :
    agree c.updatedData (updatedAddress c m) := by
  intro k hk
  have written : ∃ v, c.updatedData k = some v := by
    simp only [List.mem_cons, List.not_mem_nil, or_false] at hk
    rcases hk with rfl | rfl | rfl | rfl | rfl
    · exact ⟨.number c.location.1, rfl⟩
    · exact ⟨.number c.location.2, rfl⟩
    · exact ⟨.text (trim c.street), rfl⟩
    · exact ⟨.text (trim c.neighborhood), rfl⟩
    · exact ⟨.text (trim c.houseNumber), rfl⟩
  obtain ⟨v, hv⟩ := written
  rw [AddressMap.get, AddressMap.get, updatedAddress, merge_of_some hv, hv]

theorem updatedAddress_home_iff (c : DeliveryAddressController) (m : AddressMap) :
    (updatedAddress c m).get "address_type" = .text "Home" ↔ c.selectedIndex = 0 := by
  rw [updatedAddress_type, Value.text.injEq]
  exact addressType_home_iff (by decide)

/-- The document is written, and the profiles are as they were. -/
structure Updated (uid : Uid) (c : DeliveryAddressController) (m : AddressMap)
    (w t : ProfileWorld) : Prop where
  profiles : t.profiles = w.profiles
  addressList : t.addressList uid = (w.addressList uid).insert c.addressId (updatedAddress c m)

section Update

variable {d : Device} {geocode : ℚ × ℚ → Option (List Placemark)}
  {c : DeliveryAddressController} {m : AddressMap}

theorem Updated.stored (h : Updated uid c m w t) :
    (t.addressList uid)[c.addressId]? = some (updatedAddress c m) := by
  rw [h.addressList, Std.TreeMap.getElem?_insert_self]

theorem Updated.other (h : Updated uid c m w t) {id : String} (hne : id ≠ c.addressId) :
    (t.addressList uid)[id]? = (w.addressList uid)[id]? := by
  rw [h.addressList, Std.TreeMap.getElem?_insert,
    if_neg fun heq => hne (Std.compare_eq_iff_eq.1 heq).symm]

theorem Updated.currentAddress (h : Updated uid c m w t) :
    currentAddress uid t = Profiles.currentAddress uid w := by
  rw [Profiles.currentAddress, Profiles.currentAddress, h.profiles]

theorem setHomeId_opens (hc : withHomeId (w.addressPages d) = some c) :
    ∃ t, Yields (fun _ => true) (setHomeId d) (cleared d w) (.ok ()) t ∧
      SameDocs (cleared d w) t ∧ t.addressPages d = c := by
  have opened := setHomeId_run (d := d) (w := cleared d w) (c := w.addressPages d) rfl
  rw [hc] at opened
  exact opened

variable (ids geocode) in
/-- What holds once the address is written and the profile is dealt with holds at the end. -/
theorem afterTurn_of_update {P : ProfileWorld → ProfileWorld → Prop}
    (hc : withHomeId (w.addressPages d) = some c) (herror : c.updateError = none)
    (hid : c.addressId ≠ "") (hm : (w.addressList d.uid)[c.addressId]? = some m)
    (hP : ∀ t t', P t t' → P t (t'.showSnackbar d "Error" "Failed to update address"))
    (hrest : ∀ t, Updated d.uid c m w t → Ends (fun _ => true) (do
      if c.addressType "Other" = "Home" then
        spawn (updateDeliveryAddress geocode d c.updatedData)
      snackbar d "Success" "Address updated successfully"
      spawn (getAddressList d)
      setPage d clearFields) t fun _ t' => P t t') :
    ∃ t, Updated d.uid c m w t ∧ P t (afterTurn ids ⟨d, geocode, .updateAddress⟩ w) := by
  obtain ⟨opened, hopened, same, hpage⟩ := setHomeId_opens hc
  obtain ⟨t, ht⟩ : ∃ t, t =
    opened.setAddresses d.uid (·.insert c.addressId (updatedAddress c m)) := ⟨_, rfl⟩
  have page : Yields (fun _ => true) (page d) opened (.ok c) opened := hpage ▸ .look _
  have update : Yields (fun _ => true)
      (FirebaseHelper.updateAddress d.uid c.addressId c.updatedData) opened (.ok ()) t := by
    rw [ht]
    exact yields_updateAddress hid (by rw [same.addressList]; exact hm)
  have written : Updated d.uid c m w t := by
    refine ⟨?_, ?_⟩
    · rw [ht, ProfileWorld.profiles_setAddresses]
      exact same.profiles
    · rw [ht, ProfileWorld.addressList_setAddresses, same.addressList]
      rfl
  refine ⟨t, written, afterTurn_of_ends (.handled (.after hopened (.after page ?_)) fun _ t' h =>
    .of_yields (.change _) (hP t t' h))⟩
  rw [herror]
  exact .after update (hrest t written)

theorem update_not_delete (id addressType : String) :
    AddressEvent.updateAddress ≠ .deleteAddress id addressType := nofun

theorem steps_update_failed (hc : withHomeId (w.addressPages d) = none) (hin : inStep d.uid w) :
    Steps ids d.uid ⟨d, geocode, .updateAddress⟩ w := by
  have opened := setHomeId_run (d := d) (w := cleared d w) (c := w.addressPages d) rfl
  rw [hc] at opened
  have same : SameStore w (afterTurn ids ⟨d, geocode, .updateAddress⟩ w) :=
    afterTurn_of_ends (.of_yields (.caught opened.bind_error (.change _)) ⟨rfl, rfl⟩)
  refine steps_quiet same hin (fun c' h => ?_) update_not_delete
  rw [hc] at h
  cases h

theorem steps_update_refused {error : String × String}
    (hc : withHomeId (w.addressPages d) = some c) (herror : c.updateError = some error)
    (hin : inStep d.uid w) : Steps ids d.uid ⟨d, geocode, .updateAddress⟩ w := by
  obtain ⟨opened, hopened, htsame, hpage⟩ := setHomeId_opens hc
  have page : Yields (fun _ => true) (page d) opened (.ok c) opened := hpage ▸ .look _
  have same : SameStore w (afterTurn ids ⟨d, geocode, .updateAddress⟩ w) := by
    refine afterTurn_of_ends (.handled (.after hopened (.after page ?_)) fun _ u h =>
      .of_yields (.change _) (h.trans (sameStore_showSnackbar ..)))
    rw [herror]
    exact .of_yields (.change _) ⟨htsame.profiles, htsame.addressList⟩
  refine steps_quiet same hin (fun c' h hvalid => ?_) update_not_delete
  rw [hc] at h
  cases h
  rw [herror] at hvalid
  cases hvalid

theorem steps_update_home (hc : withHomeId (w.addressPages d) = some c)
    (herror : c.updateError = none) (hid : c.addressId ≠ "")
    (hm : (w.addressList d.uid)[c.addressId]? = some m) (hindex : c.selectedIndex = 0)
    (hrole : d.logInType = .customer) (hprofile : ∃ m, w.profiles .customer d.uid = some m)
    (hone : oneHome d.uid (afterTurn ids ⟨d, geocode, .updateAddress⟩ w)) :
    Steps ids d.uid ⟨d, geocode, .updateAddress⟩ w := by
  have home := (updatedAddress_home_iff c m).2 hindex
  have type : c.addressType "Other" = "Home" := (addressType_home_iff (by decide)).2 hindex
  obtain ⟨t, written, saved⟩ := afterTurn_of_update ids geocode
    (P := fun t t' => Saved d c.updatedData (located c) t t') hc herror hid hm
    (fun _ _ h => h.show ..) fun t written => by
      rw [if_pos type]
      exact ends_saved hrole (by rw [written.profiles]; exact hprofile) rfl rfl _ _
  refine steps_saved update_not_delete hone saved ⟨written.stored, home⟩
    (agree_updatedAddress c m) ?_
  simp only [restores, hc, Option.some.injEq, forall_eq', herror, hindex, true_implies, holds,
    written.currentAddress]

theorem steps_update_away (hc : withHomeId (w.addressPages d) = some c)
    (herror : c.updateError = none) (hid : c.addressId ≠ "")
    (hm : (w.addressList d.uid)[c.addressId]? = some m) (hindex : c.selectedIndex ≠ 0)
    (hin : inStep d.uid w) : Steps ids d.uid ⟨d, geocode, .updateAddress⟩ w := by
  have away : (updatedAddress c m).get "address_type" ≠ .text "Home" := fun h =>
    hindex ((updatedAddress_home_iff c m).1 h)
  have type : c.addressType "Other" ≠ "Home" := fun h =>
    hindex ((addressType_home_iff (by decide)).1 h)
  obtain ⟨t, written, same⟩ := afterTurn_of_update ids geocode
    (P := SameStore) hc herror hid hm (fun _ _ h => h.trans (sameStore_showSnackbar ..))
    fun t _ => by
      rw [if_neg type]
      exact (ends_success _ _).mono fun _ _ h => (sameStore_showSnackbar ..).trans h.toSameStore
  refine steps_away update_not_delete hin same written.currentAddress (fun _ => written.other)
    written.stored away fun c' h _ hzero => ?_
  rw [hc] at h
  cases h
  exact absurd hzero hindex

theorem steps_update (h : Promised ids uid ⟨d, geocode, .updateAddress⟩ ok w)
    (hin : inStep uid w) : Steps ids uid ⟨d, geocode, .updateAddress⟩ w := by
  obtain ⟨rfl, hrole⟩ := h.user
  cases hc : withHomeId (w.addressPages d) with
  | none => exact steps_update_failed hc hin
  | some c =>
    cases herror : c.updateError with
    | some error => exact steps_update_refused hc herror hin
    | none =>
      obtain ⟨hid, m, hm⟩ := h.updated rfl c hc herror
      by_cases hindex : c.selectedIndex = 0
      · exact steps_update_home hc herror hid hm hindex hrole h.profile h.after
      · exact steps_update_away hc herror hid hm hindex hin

end Update

theorem steps (h : Promised ids uid turn ok w) (hin : inStep uid w) : Steps ids uid turn w := by
  obtain ⟨d, geocode, event⟩ := turn
  have quiet (hends : Ends (fun _ => true) (eventProgram ids ⟨d, geocode, event⟩) (cleared d w)
      fun _ t => SameDocs (cleared d w) t) (hr : restores uid ⟨d, geocode, event⟩ w)
      (hkept : ∀ id addressType, event ≠ .deleteAddress id addressType) :
      Steps ids uid ⟨d, geocode, event⟩ w := by
    have same := afterTurn_of_ends hends
    exact steps_quiet ((cleared_store d w).trans same.toSameStore) hin hr hkept
  cases event with
  | postAddress => exact steps_post h hin
  | updateAddress => exact steps_update h hin
  | deleteAddress id addressType => exact steps_delete h hin
  | openPage getVal => exact quiet (ends_onInit getVal .rfl) trivial nofun
  | reload => exact quiet (ends_getAddressList .rfl) trivial nofun
  | editAddress addressItem => exact quiet (ends_updateFields addressItem .rfl) trivial nofun
  | chooseType index => exact quiet (ends_setPage _ .rfl) trivial nofun
  | typeTitle text => exact quiet (ends_setPage _ .rfl) trivial nofun
  | typeDescription text => exact quiet (ends_setPage _ .rfl) trivial nofun
  | tapMap lat lng => exact quiet (ends_updateMarkerPosition (lat, lng) .rfl) trivial nofun

end Events

/-- In every run that starts in step, every event keeps the law exactly if every Home is saved with
    a location, or as the profile has it, and deleted with another form. -/
theorem homeAddress_iff (ids : IdSupply) {uid : Uid} {w : ProfileWorld} (hin : inStep uid w)
    {turns : List (AddressTurn × (ProfileAccess → Bool))}
    (hmeets : EachMeets (addressHandler ids) (Promised ids uid) w turns) :
    EachMeets (addressHandler ids) (fun turn _ w => keepsStep ids uid turn w) w turns ↔
      EachMeets (addressHandler ids) (fun turn _ w => restores uid turn w) w turns := by
  induction turns generalizing w with
  | nil => exact Iff.rfl
  | cons event turns ih =>
    obtain ⟨turn, ok⟩ := event
    obtain ⟨hpromised, hrest⟩ := hmeets
    obtain rfl : ok = fun _ => true := funext hpromised.through
    obtain ⟨law, kept⟩ := steps hpromised hin
    constructor
    · rintro ⟨hkeeps, hlater⟩
      have restored := law.1 hkeeps
      exact ⟨restored, (ih (kept restored) hrest).1 hlater⟩
    · rintro ⟨restored, hlater⟩
      exact ⟨law.2 restored, (ih (kept restored) hrest).2 hlater⟩

def homeForm (lat lng : ℚ) : ProfileWorld where
  profiles := fun _ _ => some (ofList [("username", .value (.text "Layan"))])
  addressPages := fun _ => { addressTitle := "Home", currentLocation := some (lat, lng) }

def postHome : AddressTurn := ⟨shopper, fun _ => none, .postAddress⟩

theorem oneHome_of_keys {uid : Uid} {w : ProfileWorld} {k : String}
    (h : (w.addressList uid).keys = [k]) : oneHome uid w := by
  have only (id : String) (home : AddressMap) (hhome : isHome uid w id home) : id = k := by
    have there : id ∈ w.addressList uid := by
      rw [Std.TreeMap.mem_iff_isSome_getElem?, hhome.1]
      rfl
    exact List.mem_singleton.1 (h ▸ Std.TreeMap.mem_keys.2 there)
  intro id id' home home' hhome hhome'
  exact (only id home hhome).trans (only id' home' hhome').symm

theorem noHome_homeForm (lat lng : ℚ) (uid : Uid) (id : String) (home : AddressMap) :
    ¬ isHome uid (homeForm lat lng) id home := by
  rintro ⟨hnone, -⟩
  rw [homeForm, Std.TreeMap.getElem?_emptyc] at hnone
  cases hnone

theorem promised_postHome (lat lng : ℚ) {k : String}
    (h : ((afterTurn .longer postHome (homeForm lat lng)).addressList shopper.uid).keys = [k]) :
    Promised .longer shopper.uid postHome (fun _ => true) (homeForm lat lng) where
  through := fun _ => rfl
  user := ⟨rfl, rfl⟩
  profile := ⟨_, rfl⟩
  before := fun id _ home _ hhome => absurd hhome (noHome_homeForm lat lng _ id home)
  after := oneHome_of_keys h
  updated := nofun
  deleted := nofun

theorem postHome_kept :
    EachMeets (addressHandler .longer)
      (fun turn _ w => keepsStep .longer shopper.uid turn w) (homeForm 24 39)
      [(postHome, fun _ => true)] := by
  have promised := promised_postHome 24 39 (k := "x") (by decide +kernel)
  have start : inStep shopper.uid (homeForm 24 39) := fun id home hhome =>
    absurd hhome (noHome_homeForm _ _ _ id home)
  have meets : EachMeets (addressHandler .longer) (Promised .longer shopper.uid) (homeForm 24 39)
    [(postHome, fun _ => true)] := ⟨promised, trivial⟩
  have restored : restores shopper.uid postHome (homeForm 24 39) := fun _ _ =>
    .inl ⟨by decide, by decide⟩
  exact (homeAddress_iff .longer start meets).2 ⟨restored, trivial⟩

/-- A Home on the equator goes into the list alone. -/
theorem equator_lost : ¬ ∀ (ids : IdSupply) (uid : Uid) (w : ProfileWorld)
    (turns : List (AddressTurn × (ProfileAccess → Bool))), inStep uid w →
    EachMeets (addressHandler ids) (Promised ids uid) w turns →
    EachMeets (addressHandler ids) (fun turn _ w => keepsStep ids uid turn w) w turns := by
  intro h
  have promised := promised_postHome 0 39 (k := "x") (by decide +kernel)
  have kept := h .longer shopper.uid (homeForm 0 39) [(postHome, fun _ => true)]
    (fun id home hhome => absurd hhome (noHome_homeForm _ _ _ id home)) ⟨promised, trivial⟩
  have shown : ("Success", "Address added successfully") ∈
    (afterTurn .longer postHome (homeForm 0 39)).snackbars shopper := by decide +kernel
  have missing :
      currentAddress shopper.uid (afterTurn .longer postHome (homeForm 0 39)) = none := by rfl
  have stored : isHome shopper.uid (afterTurn .longer postHome (homeForm 0 39)) "x"
    (postedAddress ((homeForm 0 39).addressPages shopper) "x") := ⟨by rfl, by rfl⟩
  obtain ⟨current, hcurrent, -⟩ := (kept.1 (.inr ⟨_, shown⟩)).1 _ _ stored
  rw [missing] at hcurrent
  cases hcurrent

end Gherass.Profiles
