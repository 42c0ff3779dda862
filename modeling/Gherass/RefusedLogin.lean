import Gherass.Accounts
import Gherass.EventLoopOutcomes

set_option autoImplicit false

/-!
# A login that is refused

The button signs the user in before the role is looked at, and writes a token for whoever is
signed in when it is done.
-/
namespace Gherass.Account

open EventLoop EventLoop.Async Gherass.Shop

namespace FirebaseHelper

def updateProfile (collection : String) (uid : Uid) (data : Fields) (s : Session) :
    Session × Except Thrown Unit :=
  match s.profiles collection uid with
  | some m => (s.setProfile collection uid (some (m.merge data)), .ok ())
  | none => (s, .error (.dart .firestore))

def loginFcmUpdate (collection : String) (authId : Uid) (fcmToken : String) :
    AuthProgram Unit := do
  try
    checkCollection collection
    call (.setProfile collection authId)
      (updateProfile collection authId (.ofList [("fcmToken", .text fcmToken)])) (.dart .firestore)
  catch _ => pure ()

end FirebaseHelper

open Gherass.Account.FirebaseHelper

structure LoginController where
  userNameTextfield : String := ""
  passwordTextfield : String := ""

namespace LoginController

variable (c : LoginController)

def email : String := trim c.userNameTextfield

def password : String := trim c.passwordTextfield

def loginAuthentication : AuthProgram Unit := do
  try
    if c.email = "" ∨ c.password = "" then pure ()
    else login c.email c.password
  catch _ => pure ()

def updateLoginFcmToken (fcmToken : String) : AuthProgram Unit := do
  try
    let collection ← look (·.logInType)
    let authId ← getUid
    loginFcmUpdate collection authId fcmToken
  catch _ => pure ()

/-- The button `Log in`. -/
def pressLogIn (fcmToken : String) : AuthProgram Unit := do
  loginAuthentication c
  updateLoginFcmToken fcmToken

end LoginController

open LoginController

section Claim

variable (c : LoginController) (fcmToken : String) (o : List Bool) (s : Session) (uid : Uid)

/-- `login` sets `isLogin`, whatever it was before. -/
def setsLogin : Prop :=
  ((loginAuthentication c).task.told o { s with isLogin := false }).1.isLogin = true

def afterLogIn : Session := ((pressLogIn c fcmToken).task.told o s).1

def leavesNoTrace : Prop :=
  ¬ setsLogin c o s →
    (afterLogIn c fcmToken o s).currentUser = none ∧
      (afterLogIn c fcmToken o s).profiles = s.profiles

/-- What is entered signs an account in. -/
structure ValidCredentials : Prop where
  email : c.email ≠ ""
  password : c.password ≠ ""
  account : s.account? c.email c.password = .ok uid

/-- What `getUserType` answers, if its call goes through or not. -/
def typeRead (through : Bool) : Option String :=
  match through, (s.profiles s.logInType uid).map fun (data : Fields) => data.get "userType" with
  | true, some (.text userType) => some userType
  | _, _ => none

/-- Both reads are asked for, the profile is there, and its type is the one that is stored. -/
def accepted : Prop :=
  s.logInType ≠ "" ∧ s.logInType = (typeRead s uid (o.headD true)).getD "null" ∧
    o.tail.headD true = true ∧ (s.profiles s.logInType uid).isSome

instance : Decidable (accepted o s uid) := inferInstanceAs (Decidable (_ ∧ _ ∧ _ ∧ _))

end Claim

section Login

variable {c : LoginController} {fcmToken : String} {o : List Bool} {s : Session} {uid : Uid}

theorem leads_checkCollection {collection : String} (h : collection ≠ "") :
    Leads (checkCollection collection) o s (.ok ()) o s := by
  rw [checkCollection, if_neg h]
  exact .pure ()

theorem leads_checkCollection_empty :
    Leads (checkCollection "") o s (.error (.dart .argument)) o s := by
  rw [checkCollection, if_pos rfl]
  exact .throw _

theorem leads_readProfile_empty (h : s.logInType = "") :
    Leads (readProfile uid) o s (.error (.dart .argument)) o s := by
  refine .bind (.look _) ?_
  rw [h]
  exact .bind_error leads_checkCollection_empty

theorem leads_readProfile_lost (h : s.logInType ≠ "") (ho : o.headD true = false) :
    Leads (readProfile uid) o s (.error (.dart .firestore)) o.tail s :=
  .bind (.look _) (.bind (leads_checkCollection h) (.call_lost _ _ _ ho))

theorem leads_readProfile (h : s.logInType ≠ "") (ho : o.headD true = true) :
    Leads (readProfile uid) o s (.ok (s.profiles s.logInType uid)) o.tail s :=
  .bind (.look _) (.bind (leads_checkCollection h) (.call _ _ _ ho))

theorem leads_getUserType (h : s.logInType ≠ "") :
    Leads (getUserType uid) o s (.ok (typeRead s uid (o.headD true))) o.tail s := by
  cases ho : o.headD true with
  | false => exact .caught (.bind_error (leads_readProfile_lost h ho)) (.pure none)
  | true =>
    refine .tryCatch (.bind (leads_readProfile h ho) ?_)
    unfold typeRead
    cases (s.profiles s.logInType uid).map fun (data : Fields) => data.get "userType" with
    | none => exact .pure none
    | some v =>
      cases v with
      | text userType => exact .pure (some userType)
      | null | bool | int => exact .pure none

theorem leads_isUidPresent (h : s.logInType ≠ "") : Leads (isUidPresent uid) o s
    (.ok (o.headD true && (s.profiles s.logInType uid).isSome)) o.tail s := by
  cases ho : o.headD true with
  | false => exact .caught (leads_readProfile_lost h ho |>.bind_error) (.pure false)
  | true => exact .tryCatch (.bind (leads_readProfile h ho) (.pure _))

variable (o uid) in
theorem leads_reads_empty (h : s.logInType = "") :
    Leads (getUserType uid) o s (.ok none) o s ∧ Leads (isUidPresent uid) o s (.ok false) o s :=
  ⟨.caught (.bind_error (leads_readProfile_empty h)) (.pure none),
    .caught (.bind_error (leads_readProfile_empty h)) (.pure false)⟩

theorem leads_enter (loginType : Option String) (isUid : Bool) (mark : ℕ) :
    Leads (do
      let logInType ← look (·.logInType)
      if logInType = loginType.getD "null" ∧ isUid then
        note (.entered mark)
        change fun s => { s with isLogin := true } : AuthProgram Unit) o s (.ok ()) o
      (if s.logInType = loginType.getD "null" ∧ isUid then { s with isLogin := true } else s) := by
  refine .bind (.look _) ?_
  split
  · exact .bind (.note _) (.change _)
  · exact .pure ()

variable (o s uid) in
theorem leads_reads (mark : ℕ) : ∃ o', Leads (do
      let loginType ← getUserType uid
      let isUid ← isUidPresent uid
      let logInType ← look (·.logInType)
      if logInType = loginType.getD "null" ∧ isUid then
        note (.entered mark)
        change fun s => { s with isLogin := true } : AuthProgram Unit) o s (.ok ()) o'
      (if accepted o s uid then { s with isLogin := true } else s) := by
  by_cases hempty : s.logInType = ""
  · obtain ⟨hno, hnone⟩ := leads_reads_empty o uid hempty
    have refused : ¬ accepted o s uid := fun h => h.1 hempty
    refine ⟨o, .bind hno (.bind hnone ?_)⟩
    have enter := leads_enter (o := o) (s := s) none false mark
    rw [if_neg refused]
    rwa [if_neg fun h => Bool.false_ne_true h.2] at enter
  · refine ⟨o.tail.tail,
      .bind (leads_getUserType hempty) (.bind (leads_isUidPresent hempty) ?_)⟩
    have same : accepted o s uid ↔
        s.logInType = (typeRead s uid (o.headD true)).getD "null" ∧
          (o.tail.headD true && (s.profiles s.logInType uid).isSome) = true := by
      rw [accepted, Bool.and_eq_true]
      exact and_iff_right hempty
    simp only [same]
    exact leads_enter _ _ mark

theorem leads_login {email password : String} (h : s.account? email password = .ok uid)
    (ho : o.headD true = true) : ∃ o', Leads (login email password) o s (.ok ()) o'
      (if accepted o.tail s uid then { s.setUser (some uid) with isLogin := true }
        else s.setUser (some uid)) := by
  have signIn : Leads (call (.signIn email password) (fun s =>
      let signedIn := signInWithEmailAndPassword email password s
      (signedIn.1, signedIn.2.map fun uid => (uid, signedIn.1.changes)))
      (.firebaseAuth "network-request-failed") : AuthProgram (Uid × ℕ)) o s
      (.ok (uid, (s.setUser (some uid)).changes)) o.tail (s.setUser (some uid)) := by
    have answered := Leads.call (ρ := Unit) (s := s) (o := o) (AuthAccess.signIn email password)
      (fun s => let signedIn := signInWithEmailAndPassword email password s
        (signedIn.1, signedIn.2.map fun uid => (uid, signedIn.1.changes)))
      (.firebaseAuth "network-request-failed") ho
    simpa only [signInWithEmailAndPassword, h, Except.map] using answered
  obtain ⟨o', hreads⟩ := leads_reads o.tail (s.setUser (some uid)) uid
    (s.setUser (some uid)).changes
  exact ⟨o', .tryCatch (signIn.bind hreads)⟩

theorem leads_login_lost {email password : String} (ho : o.headD true = false) :
    Leads (login email password) o s (.error (.text "An unknown error occurred during login."))
      o.tail s := by
  refine .caught (.bind_error (.call_lost _ _ _ ho)) ?_
  exact .throw _

theorem leads_loginAuthentication (h : ValidCredentials c s uid) :
    ∃ o', Leads (loginAuthentication c) o s (.ok ()) o'
      (if o.headD true = true then
        if accepted o.tail s uid then { s.setUser (some uid) with isLogin := true }
        else s.setUser (some uid)
      else s) := by
  have entered : ¬ (c.email = "" ∨ c.password = "") :=
    not_or.2 ⟨h.email, h.password⟩
  cases ho : o.headD true with
  | false =>
    refine ⟨o.tail, .caught (e := .text "An unknown error occurred during login.") ?_ (.pure ())⟩
    rw [if_neg entered]
    exact leads_login_lost ho
  | true =>
    obtain ⟨o', hlogin⟩ := leads_login h.account ho
    refine ⟨o', .tryCatch ?_⟩
    rwa [if_neg entered, if_pos rfl]

variable (s uid) in
theorem updateProfile_user (collection : String) (data : Fields) :
    (updateProfile collection uid data s).1.currentUser = s.currentUser := by
  unfold updateProfile
  split
  · rfl
  · rfl

variable (fcmToken o s uid) in
theorem leads_loginFcmUpdate (collection : String) : ∃ o' s',
    Leads (loginFcmUpdate collection uid fcmToken) o s (.ok ()) o' s' ∧
      s'.currentUser = s.currentUser := by
  by_cases hempty : collection = ""
  · subst hempty
    exact ⟨o, s, .caught (.bind_error leads_checkCollection_empty) (.pure ()), rfl⟩
  have checked := leads_checkCollection (o := o) (s := s) hempty
  have user := updateProfile_user s uid collection
    (.ofList [("fcmToken", .text fcmToken)])
  cases ho : o.headD true with
  | false =>
    exact ⟨o.tail, s, .caught (checked.bind (.call_lost _ _ _ ho)) (.pure ()), rfl⟩
  | true =>
    have update := Leads.call (ρ := Unit) (s := s) (o := o) (AuthAccess.setProfile collection uid)
      (updateProfile collection uid (.ofList [("fcmToken", .text fcmToken)])) (.dart .firestore) ho
    cases hr : (updateProfile collection uid (.ofList [("fcmToken", .text fcmToken)]) s).2 with
    | ok =>
      rw [hr] at update
      exact ⟨_, _, .tryCatch (checked.bind update), user⟩
    | error e =>
      rw [hr] at update
      exact ⟨_, _, .caught (checked.bind update) (.pure ()), user⟩

variable (fcmToken o s) in
theorem leads_updateLoginFcmToken : ∃ o' s',
    Leads (updateLoginFcmToken fcmToken) o s (.ok ()) o' s' ∧ s'.currentUser = s.currentUser ∧
      (s.currentUser = none → s' = s) := by
  cases huser : s.currentUser with
  | none =>
    have nobody : Leads getUid o s (.error (.dart .type)) o s := by
      refine .bind (.look _) ?_
      rw [huser]
      exact .throw _
    exact ⟨o, s, .caught (.bind (.look _) (.bind_error nobody)) (.pure ()), huser, fun _ => rfl⟩
  | some authId =>
    have somebody : Leads getUid o s (.ok authId) o s := by
      refine .bind (.look _) ?_
      rw [huser]
      exact .pure authId
    obtain ⟨o', s', hupdate, hsame⟩ := leads_loginFcmUpdate fcmToken o s authId
      s.logInType
    exact ⟨o', s', .tryCatch (.bind (.look _) (somebody.bind hupdate)), hsame.trans huser,
      fun h => by cases h⟩

theorem setsLogin_iff (h : ValidCredentials c s uid) :
    setsLogin c o s ↔ o.headD true = true ∧ accepted o.tail s uid := by
  have h' : ValidCredentials c { s with isLogin := false } uid := ⟨h.email, h.password, h.account⟩
  obtain ⟨o', hrun⟩ := leads_loginAuthentication (o := o) h'
  have same : accepted o.tail { s with isLogin := false } uid ↔ accepted o.tail s uid := .rfl
  rw [setsLogin, hrun.task]
  split
  case isTrue ho =>
    split
    case isTrue hacc => exact iff_of_true rfl ⟨ho, same.1 hacc⟩
    case isFalse hacc => exact iff_of_false Bool.false_ne_true fun hold => hacc (same.2 hold.2)
  case isFalse ho => exact iff_of_false Bool.false_ne_true fun hold => ho hold.1

end Login

/-- The button leaves no trace of a login exactly if the login is not refused, or if its first
    call is lost while nobody is signed in. -/
theorem leavesNoTrace_iff (c : LoginController) (fcmToken : String) (o : List Bool) (s : Session)
    (uid : Uid) (h : ValidCredentials c s uid) :
    leavesNoTrace c fcmToken o s ↔
      o.headD true = true ∧ accepted o.tail s uid ∨
        o.headD true = false ∧ s.currentUser = none := by
  obtain ⟨o', hlogin⟩ := leads_loginAuthentication (o := o) h
  obtain ⟨signed, hsigned⟩ : ∃ signed, signed = if o.headD true = true then
      if accepted o.tail s uid then { s.setUser (some uid) with isLogin := true }
      else s.setUser (some uid)
    else s := ⟨_, rfl⟩
  rw [← hsigned] at hlogin
  obtain ⟨o'', s', htoken, huser, hnobody⟩ := leads_updateLoginFcmToken fcmToken o' signed
  have run : Leads (pressLogIn c fcmToken) o s (.ok ()) o'' s' := hlogin.bind htoken
  have after : afterLogIn c fcmToken o s = s' := by rw [afterLogIn, run.task]
  rw [leavesNoTrace, setsLogin_iff h, after]
  cases ho : o.headD true with
  | true =>
    by_cases hacc : accepted o.tail s uid
    · exact iff_of_true (fun hnot => absurd ⟨rfl, hacc⟩ hnot) (.inl ⟨rfl, hacc⟩)
    · refine iff_of_false (fun hclean => ?_) (by simp [hacc])
      have nobody := (hclean fun hold => hacc hold.2).1
      rw [huser, hsigned, if_pos ho, if_neg hacc] at nobody
      cases nobody
  | false =>
    have unchanged : signed = s := by rw [hsigned, ho, if_neg Bool.false_ne_true]
    rw [unchanged] at huser hnobody
    constructor
    · intro hclean
      refine .inr ⟨rfl, ?_⟩
      rw [← huser]
      exact (hclean fun hold => Bool.false_ne_true hold.1).1
    · rintro (⟨hno, -⟩ | ⟨-, hnone⟩)
      · cases hno
      · rw [hnobody hnone]
        exact fun _ => ⟨hnone, rfl⟩

def nouraUid : Uid := ⟨"u1", nofun⟩

def nouraEnters : LoginController where
  userNameTextfield := " noura@mail.com"
  passwordTextfield := "secret1"

def nouraKnown : Session where
  accounts := [⟨nouraUid, "noura@mail.com", "secret1"⟩]
  uids := [nouraUid]
  logInType := "customer"
  profiles := fun collection uid =>
    if collection = "customer" ∧ uid = nouraUid then
      some (.ofList [("userType", .text "customer"), ("username", .text "Noura")])
    else none

theorem noura_valid : ValidCredentials nouraEnters nouraKnown nouraUid :=
  ⟨by decide +kernel, by decide +kernel, by decide +kernel⟩

theorem noura_logs_in : leavesNoTrace nouraEnters "token" [] nouraKnown :=
  (leavesNoTrace_iff nouraEnters "token" [] nouraKnown nouraUid noura_valid).2
    (.inl ⟨rfl, by decide +kernel⟩)

/-- She has chosen the role of a farmer: she is refused, and signed in. -/
theorem noura_refused_signed_in : ¬ ∀ (c : LoginController) (fcmToken : String) (o : List Bool)
    (s : Session) (uid : Uid), ValidCredentials c s uid → leavesNoTrace c fcmToken o s := by
  intro h
  have valid : ValidCredentials nouraEnters (nouraKnown.setLogInType "farmer") nouraUid :=
    ⟨noura_valid.email, noura_valid.password, noura_valid.account⟩
  have clean := h nouraEnters "token" [] (nouraKnown.setLogInType "farmer") nouraUid valid
  have refused : ¬ setsLogin nouraEnters [] (nouraKnown.setLogInType "farmer") := by
    unfold setsLogin
    decide +kernel
  have signed : (afterLogIn nouraEnters "token" [] (nouraKnown.setLogInType "farmer")).currentUser
      = some nouraUid := by decide +kernel
  have nobody := (clean refused).1
  rw [signed] at nobody
  cases nobody

end Gherass.Account
