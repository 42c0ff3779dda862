import Gherass.ProfileControllers

set_option autoImplicit false

/-!
# What the database helper does to profiles and addresses

Each function of the helper, where its calls go through.
-/
namespace Gherass.Profiles

open EventLoop EventLoop.Async FieldMaps Gherass.Account

variable {ids : IdSupply} {d : Device} {w : ProfileWorld} {uid : Uid} {role : LogInType}
  {m data : Profile}

namespace ProfileWorld

variable (w)

@[simp] theorem profiles_setProfile (p : Option Profile) :
    (w.setProfile role uid p).profiles role uid = p := by simp [setProfile]

@[simp] theorem addressList_setProfile (p : Option Profile) :
    (w.setProfile role uid p).addressList = w.addressList := rfl

@[simp] theorem snackbars_setProfile (p : Option Profile) :
    (w.setProfile role uid p).snackbars = w.snackbars := rfl

variable (f : Std.TreeMap String AddressMap → Std.TreeMap String AddressMap)

@[simp] theorem addressList_setAddresses :
    (w.setAddresses uid f).addressList uid = f (w.addressList uid) := Function.update_self ..

@[simp] theorem profiles_setAddresses : (w.setAddresses uid f).profiles = w.profiles := rfl

end ProfileWorld

theorem yields_getCurrentUserInfoById (uid : Uid) (role : LogInType) :
    Yields (fun _ => true) (FirebaseHelper.getCurrentUserInfoById uid role) w
      (.ok (w.profiles role uid)) w := .tryCatch (.call_answer rfl rfl)

theorem updateProfileDoc_found (hm : w.profiles role uid = some m) :
    FirebaseHelper.updateProfileDoc role uid data w =
      (w.setProfile role uid (some (merge m data)), .ok ()) := by
  rw [FirebaseHelper.updateProfileDoc, hm]

theorem yields_updateUserData (hm : w.profiles role uid = some m) (hemail : data "email" = none) :
    Yields (fun _ => true) (FirebaseHelper.updateUserData data role uid) w (.ok ())
      (w.setProfile role uid (some (merge m data))) := by
  have checked : Yields (fun _ => true) (FirebaseHelper.checkEmail data) w (.ok ()) w := by
    rw [FirebaseHelper.checkEmail, hemail]
    exact .pure ()
  exact .tryCatch (checked.bind (.call_eq rfl (updateProfileDoc_found hm)))

theorem yields_updateUserData_email {email : String} (hm : w.profiles role uid = some m)
    (hemail : data "email" = some (.value (.text email))) :
    Yields (fun _ => true) (FirebaseHelper.updateUserData data role uid) w (.ok ())
      (w.setProfile role uid (some (if isEmail email then merge m data else m))) := by
  by_cases hgood : isEmail email = true
  · have checked : Yields (fun _ => true) (FirebaseHelper.checkEmail data) w (.ok ()) w := by
      rw [FirebaseHelper.checkEmail, hemail]
      dsimp only
      rw [if_pos hgood]
      exact .pure ()
    rw [if_pos hgood]
    exact .tryCatch (checked.bind (.call_eq rfl (updateProfileDoc_found hm)))
  · have refused : Yields (fun _ => true) (FirebaseHelper.checkEmail data) w
        (.error (.text "Please enter a valid email address.")) w := by
      rw [FirebaseHelper.checkEmail, hemail]
      dsimp only
      rw [if_neg hgood]
      exact .throw _
    have same : w.setProfile role uid (some m) = w := by
      rw [ProfileWorld.setProfile, ← hm, Function.update_eq_self, Function.update_eq_self]
    rw [if_neg hgood, same]
    exact .caught refused.bind_error (.pure ())

theorem ends_updateUserData (data : Profile) (role : LogInType) (uid : Uid) :
    ∃ w', Yields (fun _ => true) (FirebaseHelper.updateUserData data role uid) w (.ok ()) w' ∧
      w'.addressList = w.addressList := by
  have checked : (Yields (fun _ => true) (FirebaseHelper.checkEmail data) w (.ok ()) w) ∨
      ∃ e, Yields (fun _ => true) (FirebaseHelper.checkEmail data) w (.error e) w := by
    unfold FirebaseHelper.checkEmail
    split
    case h_1 => exact .inl (.pure ())
    case h_2 email _ =>
      split
      · exact .inl (.pure ())
      · exact .inr ⟨_, .throw _⟩
    case h_3 => exact .inr ⟨_, .throw _⟩
  rcases checked with checked | ⟨e, refused⟩
  · cases hm : w.profiles role uid with
    | some m =>
      exact ⟨_, .tryCatch (checked.bind (.call_eq rfl (updateProfileDoc_found hm))), rfl⟩
    | none =>
      have missing : FirebaseHelper.updateProfileDoc role uid data w =
          (w, .error (.dart .firestore)) := by rw [FirebaseHelper.updateProfileDoc, hm]
      exact ⟨w, .caught (checked.bind (.call_eq rfl missing)) (.pure ()), rfl⟩
  · exact ⟨w, .caught refused.bind_error (.pure ()), rfl⟩

theorem newAddress_fresh (ids : IdSupply) (uid : Uid) (w : ProfileWorld) :
    (w.addressList uid)[w.newAddress ids uid]? = none := by
  refine Std.TreeMap.getElem?_eq_none fun h => ?_
  exact ids.fresh _ (w.usedAddresses uid) (List.mem_append_left _ (Std.TreeMap.mem_keys.2 h))

def addedAddress (ids : IdSupply) (uid : Uid) (data : AddressMap) (w : ProfileWorld) :
    ProfileWorld :=
  (w.setAddresses uid (·.insert (w.newAddress ids uid) data)).setAddresses uid
    (·.insert (w.newAddress ids uid)
      (merge data (ofList [("id", .text (w.newAddress ids uid))])))

theorem updateAddressDoc_found {id : String} {address change : AddressMap}
    (h : (w.addressList uid)[id]? = some address) :
    FirebaseHelper.updateAddressDoc uid id change w =
      (w.setAddresses uid (·.insert id (merge address change)), .ok ()) := by
  rw [FirebaseHelper.updateAddressDoc, h]

theorem yields_addAddressForCustomer (ids : IdSupply) (uid : Uid) (data : AddressMap) :
    Yields (fun _ => true) (FirebaseHelper.addAddressForCustomer ids uid data) w
      (.ok (merge data (ofList [("id", .text (w.newAddress ids uid))])))
      (addedAddress ids uid data w) := by
  let stored := w.setAddresses uid (·.insert (w.newAddress ids uid) data)
  have found : (stored.addressList uid)[w.newAddress ids uid]? = some data := by
    rw [ProfileWorld.addressList_setAddresses, Std.TreeMap.getElem?_insert_self]
  have first : Yields (fun _ => true) (call .addAddress (FirebaseHelper.addAddressDoc ids uid data)
      (.dart .firestore) : ProfileProgram String) w (.ok (w.newAddress ids uid)) stored :=
    .call_answer rfl rfl
  have second : Yields (fun _ => true) (call .setAddressId (FirebaseHelper.updateAddressDoc uid
      (w.newAddress ids uid) (ofList [("id", .text (w.newAddress ids uid))])) (.dart .firestore) :
      ProfileProgram Unit) stored (.ok ()) (addedAddress ids uid data w) :=
    .call_eq rfl (updateAddressDoc_found found)
  exact .tryCatch (first.bind (second.tryCatch.bind (.pure _)))

theorem addedAddress_self (ids : IdSupply) (uid : Uid) (data : AddressMap) :
    ((addedAddress ids uid data w).addressList uid)[w.newAddress ids uid]? =
      some (merge data (ofList [("id", .text (w.newAddress ids uid))])) := by
  rw [addedAddress, ProfileWorld.addressList_setAddresses, Std.TreeMap.getElem?_insert_self]

theorem addedAddress_of_ne {id : String} (h : id ≠ w.newAddress ids uid) (data : AddressMap) :
    ((addedAddress ids uid data w).addressList uid)[id]? = (w.addressList uid)[id]? := by
  have other : ¬ compare (w.newAddress ids uid) id = .eq := fun heq =>
    h (Std.compare_eq_iff_eq.1 heq).symm
  simp only [addedAddress, ProfileWorld.addressList_setAddresses, Std.TreeMap.getElem?_insert,
    if_neg other]

def shopper : Device := ⟨⟨"customer", Shop.customer_ne_empty⟩, .customer, 0⟩

end Gherass.Profiles
