import Gherass.EventLoopPrograms
import Gherass.ShopData

set_option autoImplicit false

/-!
# Accounts and the session

`signUp`, `login`, `logout` and `deleteCurrentUser` of `firebase_helper.dart`, the page that
chooses a role and `createAccount`, over what Firebase holds and the device stores.
-/
namespace Gherass.Account

open EventLoop EventLoop.Async Gherass.Shop

/-- An exception of Firebase's, one of the language's own, a text that is thrown, and a text
    that ends with what was caught. -/
inductive Thrown where
  | firebaseAuth (code : String)
  | dart (e : DartError)
  | text (message : String)
  | wrapped (message : String) (cause : Thrown)
  deriving DecidableEq

structure UserAccount where
  uid : Uid
  email : String
  password : String
  deriving DecidableEq

/-- A listener on `authStateChanges`: the map it was given, which it shares with the sign-up
    that registered it, and what it has not been told yet. `account` and `form` are bookkeeping:
    the account that the sign-up created, and the data that was entered. -/
structure Listener where
  registerUser : Fields
  pending : List (Option Uid)
  account : Uid
  form : Fields

structure ProfileWrite where
  collection : String
  uid : Uid
  listener : ℕ
  data : Fields

/-- Firebase's side, the listeners of the running app and what the device stores. `uids` are
    the ids of all accounts there ever were. `profileWrites` is bookkeeping, and so is `changes`,
    which counts the sign-ins, the sign-outs, the changes of the stored login type and the
    profiles that were deleted. -/
structure Session where
  accounts : List UserAccount := []
  uids : List String := []
  currentUser : Option Uid := none
  listeners : List Listener := []
  isLogin : Bool := false
  logInType : String := ""
  profiles : String → Uid → Option Fields := fun _ _ => none
  profileWrites : List ProfileWrite := []
  changes : ℕ := 0

inductive AuthAccess where
  | createUser (email : String)
  | signIn (email password : String)
  | signOut
  | deleteUser (uid : Uid)
  | readProfile (collection : String) (uid : Uid)
  | setProfile (collection : String) (uid : Uid)
  | deleteProfile (collection : String) (uid : Uid)
  | entered (mark : ℕ)
  deriving DecidableEq

abbrev AuthProgram (α : Type) := EventLoop.Async Session AuthAccess Thrown Unit α

namespace Session

variable (s : Session)

def setUser (user : Option Uid) : Session :=
  { s with
    currentUser := user
    changes := s.changes + 1
    listeners := s.listeners.map fun l => { l with pending := l.pending ++ [user] } }

def setListener (i : ℕ) (f : Listener → Listener) : Session :=
  { s with listeners := s.listeners.modify i f }

def setLogInType (logInType : String) : Session :=
  { s with logInType := logInType, changes := s.changes + 1 }

def setProfile (collection : String) (uid : Uid) (data : Option Fields) : Session :=
  { s with
    profiles := Function.update s.profiles collection
      (Function.update (s.profiles collection) uid data) }

def deleteProfile (collection : String) (uid : Uid) : Session :=
  { s.setProfile collection uid none with changes := s.changes + 1 }

def newUid (ids : IdSupply) : Uid := ⟨ids.newId s.uids.length s.uids, ids.nonempty _ _⟩

def account? (email password : String) : Except Thrown Uid :=
  match s.accounts.find? fun a => a.email = email with
  | none => .error (.firebaseAuth "user-not-found")
  | some a => if a.password = password then .ok a.uid else .error (.firebaseAuth "wrong-password")

end Session

def createUserWithEmailAndPassword (ids : IdSupply) (email password : String) (s : Session) :
    Session × Except Thrown Uid :=
  if s.accounts.any fun a => a.email = email then
    (s, .error (.firebaseAuth "email-already-in-use"))
  else
    let created : Session :=
      { s with
        accounts := ⟨s.newUid ids, email, password⟩ :: s.accounts
        uids := s.newUid ids :: s.uids }
    (created.setUser (some (s.newUid ids)), .ok (s.newUid ids))

def signInWithEmailAndPassword (email password : String) (s : Session) :
    Session × Except Thrown Uid :=
  match s.account? email password with
  | .ok uid => (s.setUser (some uid), .ok uid)
  | .error e => (s, .error e)

def signOut (s : Session) : Session × Except Thrown Unit := (s.setUser none, .ok ())

/-- `User.delete`: whoever deletes his account is signed out. -/
def deleteUser (uid : Uid) (s : Session) : Session × Except Thrown Unit :=
  let deleted : Session := { s with accounts := s.accounts.filter fun a => a.uid ≠ uid }
  (if s.currentUser = some uid then deleted.setUser none else deleted, .ok ())

namespace FirebaseHelper

def isLocal (c : Char) : Bool := c.isAlphanum || ['.', '_', '%', '+', '-'].contains c

def isDomain (c : Char) : Bool := c.isAlphanum || ['.', '-'].contains c

/-- `^[a-zA-Z0-9._%+-]+@[a-zA-Z0-9.-]+\.[a-zA-Z]{2,}$`: there is one `@`, and the letters after
    the last dot are all letters. -/
def emailMatches (email : String) : Bool :=
  let user := email.toList.takeWhile (· ≠ '@')
  let reversed := ((email.toList.dropWhile (· ≠ '@')).drop 1).reverse
  let top := reversed.takeWhile (· ≠ '.')
  let host := (reversed.dropWhile (· ≠ '.')).drop 1
  user ≠ [] ∧ user.all isLocal ∧ host ≠ [] ∧ host.all isDomain ∧ 2 ≤ top.length ∧
    top.all (·.isAlpha)

/-- `length` of a text counts the units of UTF-16. -/
def textLength (s : String) : ℕ :=
  s.toList.foldr (fun c n => (if c.toNat < 65536 then 1 else 2) + n) 0

/-- `'${userData["userType"]}Id'` -/
def idField (userData : Fields) : String :=
  ((userData.get "userType").toText?.getD "null") ++ "Id"

/-- `userData['${userData["userType"]}Id'] = userId` -/
def setId (userId : Uid) (l : Listener) : Listener :=
  { l with registerUser := l.registerUser.set (idField l.registerUser) (.text userId) }

def getUid : AuthProgram Uid := do
  match ← look (·.currentUser) with
  | some uid => pure uid
  | none => throw (.dart .type)

def checkCollection (collection : String) : AuthProgram Unit :=
  if collection = "" then throw (.dart .argument) else pure ()

/-- `userData` is the map of the listener with the number `i`. -/
def setUserData (i : ℕ) : AuthProgram Unit := do
  try
    let userId ← getUid
    change fun s => s.setListener i (setId userId)
    let userData ← look fun s => (s.listeners[i]?.map (·.registerUser)).getD .empty
    let collection ← look (·.logInType)
    checkCollection collection
    call (.setProfile collection userId) (fun s =>
      ({ s.setProfile collection userId (some userData) with
        profileWrites := s.profileWrites ++ [⟨collection, userId, i, userData⟩] }, .ok ()))
      (.dart .firestore)
  catch _ => pure ()

def nextUser (i : ℕ) : AuthProgram (Option Uid) :=
  seg fun s => (s.setListener i fun l => { l with pending := l.pending.tail },
    (s.listeners[i]?.bind (·.pending.head?)).join)

/-- What the listener that `signUp` registers does with a notification. -/
def authStateChanged (i : ℕ) : AuthProgram Unit := do
  match ← nextUser i with
  | some _ =>
    match ← look (·.currentUser) with
    | some _ =>
      change fun s => { s with isLogin := true }
      setUserData i
    | none => pure ()
  | none => pure ()

def signUpMessage (code : String) : String :=
  if code = "email-already-in-use" then "This email is already in use. Please try another."
  else if code = "weak-password" then
    "The password is too weak. Please choose a stronger password."
  else if code = "invalid-email" then "The email address is invalid. Please check your email."
  else "An unknown error occurred during sign-up."

/-- `registerUser["email"]` and `registerUser["password"]`, checked. -/
def credentials (registerUser : Fields) : AuthProgram (String × String) :=
  match registerUser.get "email" with
  | .text email =>
    if emailMatches email then
      match registerUser.get "password" with
      | .text password =>
        if textLength password < 6 then
          throw (.text "Password must be at least 6 characters long.")
        else pure (email, password)
      | _ => throw (.dart .type)
    else throw (.text "Please enter a valid email address.")
  | _ => throw (.dart .type)

def listen (registerUser : Fields) (account : Uid) (s : Session) : Session :=
  { s with
    listeners := s.listeners ++ [{
      registerUser := registerUser
      pending := [s.currentUser]
      account := account
      form := registerUser }] }

def signUp (ids : IdSupply) (registerUser : Fields) : AuthProgram Unit := do
  try
    let (email, password) ← credentials registerUser
    let account ← call (.createUser email) (createUserWithEmailAndPassword ids email password)
      (.firebaseAuth "network-request-failed")
    change (listen (registerUser.without ["password"]) account)
  catch
    | .firebaseAuth code => throw (.text (signUpMessage code))
    | e => throw (.wrapped "Error during sign-up: " e)

def readProfile (uid : Uid) : AuthProgram (Option Fields) := do
  let collection ← look (·.logInType)
  checkCollection collection
  call (.readProfile collection uid) (fun s => (s, .ok (s.profiles collection uid)))
    (.dart .firestore)

def getUserType (uid : Uid) : AuthProgram (Option String) := do
  try
    let userDoc ← readProfile uid
    match userDoc.map fun (data : Fields) => data.get "userType" with
    | some (.text userType) => pure (some userType)
    | _ => pure none
  catch _ => pure none

def isUidPresent (uid : Uid) : AuthProgram Bool := do
  try
    let userDoc ← readProfile uid
    pure userDoc.isSome
  catch _ => pure false

def loginMessage (code : String) : String :=
  if code = "user-not-found" then "User not found. Please check your email."
  else if code = "wrong-password" then "Incorrect password. Please try again."
  else "An unknown error occurred during login."

/-- The mark is bookkeeping: how many changes there were when the user was signed in. -/
def login (email password : String) : AuthProgram Unit := do
  try
    let (uid, mark) ← call (.signIn email password)
      (fun s =>
        let signedIn := signInWithEmailAndPassword email password s
        (signedIn.1, signedIn.2.map fun uid => (uid, signedIn.1.changes)))
      (.firebaseAuth "network-request-failed")
    let loginType ← getUserType uid
    let isUid ← isUidPresent uid
    let logInType ← look (·.logInType)
    if logInType = loginType.getD "null" ∧ isUid then
      note (.entered mark)
      change fun s => { s with isLogin := true }
  catch
    | .firebaseAuth code => throw (.text (loginMessage code))
    | e => throw (.wrapped "Error during login: " e)

def deleteCurrentUser : AuthProgram Unit := do
  let collection ← look (·.logInType)
  checkCollection collection
  let uid ← getUid
  call (.deleteProfile collection uid) (fun s => (s.deleteProfile collection uid, .ok ()))
    (.dart .firestore)
  match ← look (·.currentUser) with
  | some user => call (.deleteUser user) (deleteUser user) (.firebaseAuth "requires-recent-login")
  | none => pure ()
  change fun s => { s with isLogin := false }

def logout : AuthProgram Unit := do
  call .signOut signOut (.firebaseAuth "network-request-failed")
  change fun s => { s.setLogInType "" with isLogin := false }

end FirebaseHelper

def roleText : LogInType → String
  | .farmer => "farmer"
  | .driver => "driver"
  | .customer => "customer"

structure CreateaccountController where
  email : String := ""
  password : String := ""
  name : String := ""
  residenceId : String := ""
  phonenumber : String := ""
  farmLocation : String := ""
  farmDescription : String := ""
  farmName : String := ""
  workingHours : String := ""
  farmCertificate : String := ""
  base64File : String := ""
  base64Image : String := ""
  lat : Value := .null
  lng : Value := .null
  customerAccountType : String := ""

namespace CreateaccountController

def registerForm (c : CreateaccountController) (createAccountType : String) : Fields :=
  if createAccountType = "farmer" then
    .ofList [("username", .text c.name), ("residenceId", .text c.residenceId),
      ("email", .text c.email), ("phoneNumber", .text c.phonenumber),
      ("password", .text c.password), ("farmName", .text c.farmName),
      ("farmLocation", .text c.farmLocation), ("farmCertificateName", .text c.farmCertificate),
      ("farmCertificate", .text c.base64File), ("farmDescription", .text c.farmDescription),
      ("workingHour", .text c.workingHours), ("userType", .text createAccountType),
      ("farm_logo", .text c.base64Image), ("lat", c.lat), ("lng", c.lng)]
  else if createAccountType = "customer" then
    .ofList [("username", .text c.name), ("email", .text c.email),
      ("phoneNumber", .text c.phonenumber), ("password", .text c.password),
      ("accountType", .text c.customerAccountType), ("userType", .text createAccountType)]
  else .empty

def createAccount (ids : IdSupply) (c : CreateaccountController) : AuthProgram Unit := do
  let createAccountType ← look (·.logInType)
  FirebaseHelper.signUp ids (c.registerForm createAccountType)

end CreateaccountController

inductive AuthEvent where
  | chooseRole (role : LogInType)
  | createAccount (c : CreateaccountController)
  | login (email password : String)
  | logout
  | deleteCurrentUser
  | authStateChanged (listener : ℕ)

def authProgram (ids : IdSupply) : AuthEvent → AuthProgram Unit
  | .chooseRole role => change fun s => s.setLogInType (roleText role)
  | .createAccount c => c.createAccount ids
  | .login email password => FirebaseHelper.login email password
  | .logout => FirebaseHelper.logout
  | .deleteCurrentUser => FirebaseHelper.deleteCurrentUser
  | .authStateChanged i => FirebaseHelper.authStateChanged i

def authHandler (ids : IdSupply) (e : AuthEvent) : Task Session AuthAccess Unit :=
  (authProgram ids e).task

def noura : CreateaccountController where
  email := "noura@mail.com"
  password := "secret"
  name := "Noura"
  customerAccountType := "Personal account"

def through (e : AuthEvent) : List (Move AuthEvent) := [.start e, .serve 0, .resume 0]

def signsUp : List (Move AuthEvent) :=
  .start (.chooseRole .customer) :: through (.createAccount noura) ++ through (.authStateChanged 0)

def afterMoves (ms : List (Move AuthEvent)) : Pool Session AuthAccess Unit :=
  (⟨{}, []⟩ : Pool Session AuthAccess Unit).after (authHandler .longer) ms

end Gherass.Account
