import Gherass.EventLoopEnds
import Gherass.ProfileRules

set_option autoImplicit false

/-!
# Editing a profile

What is saved is built from the form, with fixed values and what the form was never given, and an
address is added to the customer's list each time.
-/
namespace Gherass.Profiles

open EventLoop EventLoop.Async FieldMaps Gherass.Account

/-- What the user does in the form. `place` is what the geocoder finds, if anything. -/
inductive FormEdit where
  | userName (text : String)
  | email (text : String)
  | phoneNumber (text : String)
  | location (text : String)
  | farmName (text : String)
  | farmLocation (text : String)
  | farmDescription (text : String)
  | workingHours (text : String)
  | pickImage (base64Image : String)
  | pickLocation (lat lng : ℚ) (place : Option String)

def FormEdit.apply (c : EditProfileController) : FormEdit → EditProfileController
  | .userName text => { c with nameTextfield := text }
  | .email text => { c with emailTextfield := text }
  | .phoneNumber text => { c with phoneNumberTextfield := text }
  | .location text => { c with locationTextfield := text }
  | .farmName text => { c with farmNameTextfield := text }
  | .farmLocation text => { c with farmLocationTextfield := text }
  | .farmDescription text => { c with farmDescriptionTextfield := text }
  | .workingHours text => { c with workingHoursTextfield := text }
  | .pickImage base64Image => { c with base64Image := base64Image }
  | .pickLocation lat lng place =>
    { c with
      selectedLatLng := some (lat, lng)
      farmLocationTextfield := place.getD c.farmLocationTextfield }

def FormEdit.fields : FormEdit → List (String × ProfileValue)
  | .userName text => [("username", .value (.text text))]
  | .email text => [("email", .value (.text text))]
  | .phoneNumber text => [("phoneNumber", .value (.text text))]
  | .location text => [("location", .value (.text text))]
  | .farmName text => [("farmName", .value (.text text))]
  | .farmLocation text => [("farmLocation", .value (.text text))]
  | .farmDescription text => [("farmDescription", .value (.text text))]
  | .workingHours text => [("workingHour", .value (.text text))]
  | .pickImage base64Image => [("farm_logo", .value (.text base64Image))]
  | .pickLocation lat lng place =>
    [("lat", .value (.number lat)), ("lng", .value (.number lng))] ++
      (place.map fun text => ("farmLocation", ProfileValue.value (.text text))).toList

def editedFields (edits : List FormEdit) : Profile :=
  ofList (edits.reverse.flatMap fun e => e.fields.reverse)

/-- The user opens the form, edits it once it is loaded, and saves it. -/
def editProfile (ids : IdSupply) (d : Device) (edits : List FormEdit) (w : ProfileWorld) :
    ProfileWorld :=
  let loaded := ((EditProfileController.getData d).task.alone (fun _ => true) w).2
  let edited := loaded.setEditPage d fun c => edits.foldl FormEdit.apply c
  ((EditProfileController.updateProfile ids d).task.alone (fun _ => true) edited).2

/-- The profile has the edited fields and its other ones, and the list of addresses is the same. -/
structure ChangesOnlyEdits (d : Device) (edits : List FormEdit) (w w' : ProfileWorld) : Prop where
  profile : w'.profiles d.logInType d.uid =
    (w.profiles d.logInType d.uid).map (merge · (editedFields edits))
  addresses : ∀ id : String, (w'.addressList d.uid)[id]? = (w.addressList d.uid)[id]?

section Saving

variable {ids : IdSupply} {d : Device} {w : ProfileWorld} {m : Profile}

def afterUpdate (ids : IdSupply) (d : Device) (w : ProfileWorld) : ProfileWorld :=
  ((EditProfileController.updateProfile ids d).task.alone (fun _ => true) w).2

theorem email_sent (role : LogInType) (c : EditProfileController) :
    ofList (EditProfileController.profileData role c) "email" =
      some (.value (.text c.emailTextfield)) := by
  cases role with
  | farmer => rfl
  | driver => rfl
  | customer => rfl

def savedProfile (role : LogInType) (c : EditProfileController) (m : Profile) : Profile :=
  if isEmail c.emailTextfield then merge m (ofList (EditProfileController.profileData role c))
  else m

theorem afterUpdate_profile (ids : IdSupply) (hm : w.profiles d.logInType d.uid = some m) :
    (afterUpdate ids d w).profiles d.logInType d.uid =
      some (savedProfile d.logInType (w.editPages d) m) := by
  have saved := yields_updateUserData_email hm (email_sent d.logInType (w.editPages d))
  have added := yields_addAddressForCustomer (w := w.setProfile d.logInType d.uid
    (some (savedProfile d.logInType (w.editPages d) m))) ids d.uid
    EditProfileController.addressData
  have run : Yields (fun _ => true) (EditProfileController.updateProfile ids d) w (.ok ()) _ :=
    .bind (.look _) (.bind (.spawned saved) (.spawned (added.bind (.pure ()))))
  rw [afterUpdate, run.task]
  exact ProfileWorld.profiles_setProfile ..

theorem afterUpdate_addresses (ids : IdSupply) (d : Device) (w : ProfileWorld) :
    ∃ id : String, (w.addressList d.uid)[id]? = none ∧
      ((afterUpdate ids d w).addressList d.uid)[id]? ≠ none := by
  obtain ⟨saved, hsaved, same⟩ := ends_updateUserData (w := w)
    (ofList (EditProfileController.profileData d.logInType (w.editPages d))) d.logInType d.uid
  have added := yields_addAddressForCustomer (w := saved) ids d.uid
    EditProfileController.addressData
  have run : Yields (fun _ => true) (EditProfileController.updateProfile ids d) w (.ok ()) _ :=
    .bind (.look _) (.bind (.spawned hsaved) (.spawned (added.bind (.pure ()))))
  refine ⟨saved.newAddress ids d.uid, ?_, ?_⟩
  · rw [← same]
    exact newAddress_fresh ids d.uid saved
  · rw [afterUpdate, run.task, addedAddress_self]
    exact Option.some_ne_none _

end Saving

section Loading

variable {d : Device} {w : ProfileWorld}

structure Loaded (d : Device) (w w' : ProfileWorld) : Prop where
  profiles : w'.profiles = w.profiles
  addressList : w'.addressList = w.addressList
  base64Image : (w'.editPages d).base64Image = (w.editPages d).base64Image
  selectedLatLng : (w'.editPages d).selectedLatLng = (w.editPages d).selectedLatLng

theorem Loaded.trans {w' w'' : ProfileWorld} (h : Loaded d w w') (h' : Loaded d w' w'') :
    Loaded d w w'' :=
  ⟨h'.profiles.trans h.profiles, h'.addressList.trans h.addressList,
    h'.base64Image.trans h.base64Image, h'.selectedLatLng.trans h.selectedLatLng⟩

theorem ends_load {w₀ : ProfileWorld} {results : Option Profile} {k : String}
    {put : String → EditProfileController → EditProfileController} (h : Loaded d w₀ w)
    (hput : ∀ s c, (put s c).base64Image = c.base64Image ∧
      (put s c).selectedLatLng = c.selectedLatLng := by exact fun _ _ => ⟨rfl, rfl⟩) :
    Ends (fun _ => true) (EditProfileController.load d results k put) w
      fun _ w' => Loaded d w₀ w' := by
  have stored (s : String) : Loaded d w (w.setEditPage d (put s)) := by
    refine ⟨rfl, rfl, ?_, ?_⟩
    · simp [ProfileWorld.setEditPage, hput]
    · simp [ProfileWorld.setEditPage, hput]
  have loads (s : String) : Ends (fun _ => true) (EditProfileController.setPage d (put s)) w
      fun _ w' => Loaded d w₀ w' := .of_yields (.change _) (h.trans (stored s))
  unfold EditProfileController.load textOr
  split
  case h_1 => exact .after (.pure "") (loads "")
  case h_2 s _ => exact .after (.pure s) (loads s)
  case h_3 => exact .thrown (.throw _) h

theorem loaded_getData (d : Device) (w : ProfileWorld) :
    Loaded d w ((EditProfileController.getData d).task.alone (fun _ => true) w).2 := by
  refine Ends.task (P := Loaded d w) (.after (yields_getCurrentUserInfoById _ _) ?_)
  refine .seq (ends_load ⟨rfl, rfl, rfl, rfl⟩) fun _ _ h => ?_
  refine .seq (ends_load h) fun _ _ h => .seq (ends_load h) fun _ _ h => ?_
  refine .seq (ends_load h) fun _ _ h => .seq (ends_load h) fun _ _ h => ?_
  refine .seq (ends_load h) fun _ _ h => .seq (ends_load h) fun _ _ h => ?_
  refine .seq (ends_load h) fun _ _ h => .seq (ends_load h) fun _ _ h => ?_
  exact ends_load h

end Loading

section Edited

variable {ids : IdSupply} {d : Device} {edits : List FormEdit} {w : ProfileWorld} {m : Profile}

def editedForm (d : Device) (edits : List FormEdit) (w : ProfileWorld) : EditProfileController :=
  edits.foldl FormEdit.apply
    ((((EditProfileController.getData d).task.alone (fun _ => true) w).2).editPages d)

theorem editProfile_profile (ids : IdSupply) (edits : List FormEdit)
    (hm : w.profiles d.logInType d.uid = some m) :
    (editProfile ids d edits w).profiles d.logInType d.uid =
      some (savedProfile d.logInType (editedForm d edits w) m) := by
  have form (w' : ProfileWorld) : (w'.setEditPage d fun c => edits.foldl FormEdit.apply c).editPages
    d = edits.foldl FormEdit.apply (w'.editPages d) := Function.update_self ..
  refine (afterUpdate_profile ids ?_).trans (by rw [form]; rfl)
  exact (congrFun (congrFun (loaded_getData d w).profiles _) _).trans hm

theorem customer_saved (ids : IdSupply) (edits : List FormEdit) (hrole : d.logInType = .customer)
    (hm : w.profiles d.logInType d.uid = some m) :
    ∃ m', (editProfile ids d edits w).profiles d.logInType d.uid = some m' ∧
      (isEmail (editedForm d edits w).emailTextfield = true →
        m' "current_address" = some (.address EditProfileController.addressData) ∧
        m' "accountType" = some (.value (.text "customer"))) := by
  refine ⟨_, editProfile_profile ids edits hm, fun hemail => ?_⟩
  rw [savedProfile, if_pos hemail, hrole]
  exact ⟨merge_of_some rfl, merge_of_some rfl⟩

theorem farmer_saved (ids : IdSupply) (edits : List FormEdit) (hrole : d.logInType = .farmer)
    (hm : w.profiles d.logInType d.uid = some m) :
    ∃ m', (editProfile ids d edits w).profiles d.logInType d.uid = some m' ∧
      (isEmail (editedForm d edits w).emailTextfield = true →
        m' "farm_logo" = some (.value (.text (editedForm d edits w).base64Image)) ∧
        m' "lat" = some (EditProfileController.coordinate
          ((editedForm d edits w).selectedLatLng.map (·.1))) ∧
        m' "lng" = some (EditProfileController.coordinate
          ((editedForm d edits w).selectedLatLng.map (·.2)))) := by
  refine ⟨_, editProfile_profile ids edits hm, fun hemail => ?_⟩
  rw [savedProfile, if_pos hemail, hrole]
  exact ⟨merge_of_some rfl, merge_of_some rfl, merge_of_some rfl⟩

theorem foldl_unpicked (himage : ∀ base64Image, .pickImage base64Image ∉ edits)
    (hplace : ∀ lat lng place, .pickLocation lat lng place ∉ edits) (c : EditProfileController) :
    (edits.foldl FormEdit.apply c).base64Image = c.base64Image ∧
      (edits.foldl FormEdit.apply c).selectedLatLng = c.selectedLatLng := by
  induction edits generalizing c with
  | nil => exact ⟨rfl, rfl⟩
  | cons e edits ih =>
    have rest := ih (fun b h => himage b (List.mem_cons_of_mem _ h))
      (fun lat lng place h => hplace lat lng place (List.mem_cons_of_mem _ h)) (e.apply c)
    cases e with
    | pickImage base64Image => exact absurd List.mem_cons_self (himage base64Image)
    | pickLocation lat lng place => exact absurd List.mem_cons_self (hplace lat lng place)
    | _ => exact rest

theorem editedForm_unpicked (himage : ∀ base64Image, .pickImage base64Image ∉ edits)
    (hplace : ∀ lat lng place, .pickLocation lat lng place ∉ edits) :
    (editedForm d edits w).base64Image = (w.editPages d).base64Image ∧
      (editedForm d edits w).selectedLatLng = (w.editPages d).selectedLatLng := by
  obtain ⟨sameImage, samePlace⟩ := foldl_unpicked himage hplace
    ((((EditProfileController.getData d).task.alone (fun _ => true) w).2).editPages d)
  have loaded := loaded_getData d w
  exact ⟨sameImage.trans loaded.base64Image, samePlace.trans loaded.selectedLatLng⟩

end Edited

/-- Whatever is stored and whatever is edited, the list of addresses has got one more. -/
theorem not_changesOnlyEdits (ids : IdSupply) (d : Device) (edits : List FormEdit)
    (w : ProfileWorld) : ¬ ChangesOnlyEdits d edits w (editProfile ids d edits w) := by
  intro h
  obtain ⟨edited, hedited⟩ : ∃ edited, edited =
    (((EditProfileController.getData d).task.alone (fun _ => true) w).2.setEditPage d fun c =>
      edits.foldl FormEdit.apply c) := ⟨_, rfl⟩
  obtain ⟨id, hnone, hsome⟩ := afterUpdate_addresses ids d edited
  have same : edited.addressList = w.addressList := by
    rw [hedited]
    exact (loaded_getData d w).addressList
  have kept := h.addresses id
  rw [editProfile, ← hedited, ← same, hnone] at kept
  exact hsome kept

def layan : Device := ⟨⟨"customer", Shop.customer_ne_empty⟩, .customer, 0⟩

def layanProfile : Profile :=
  ofList [("username", .value (.text "Layan")), ("email", .value (.text "layan@farm.co")),
    ("phoneNumber", .value (.text "0500000000")), ("accountType", .value (.text "Individuals")),
    ("userType", .value (.text "customer")),
    ("current_address", .address (savedLocation "Medina" (24, 39)))]

def layanWorld : ProfileWorld where
  profiles := fun _ _ => some layanProfile

/-- A new phone number takes the account type with it. -/
theorem layan_accountType :
    ¬ ChangesOnlyEdits layan [.phoneNumber "0511111111"] layanWorld
      (editProfile .longer layan [.phoneNumber "0511111111"] layanWorld) := by
  intro h
  have stored : ((editProfile .longer layan [.phoneNumber "0511111111"] layanWorld).profiles
      .customer layan.uid).map (·.get "accountType") = some (.value (.text "customer")) := by rfl
  have kept := congrArg (Option.map (·.get "accountType")) h.profile
  have expected : some (ProfileValue.value (.text "customer")) =
    some (.value (.text "Individuals")) := stored.symm.trans kept
  simp at expected

end Gherass.Profiles
