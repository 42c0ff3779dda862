import Gherass.Accounts
import Gherass.EventLoopLedger
import Mathlib.Data.Int.ConditionallyCompleteOrder
import Mathlib.Order.ConditionallyCompleteLattice.Indexed

set_option autoImplicit false

/-!
# The flag of the session

`isLogin` stands for a user who is signed in and has a profile. The calls that make it so and
the calls that undo it come one after another; in between, the programs in flight owe the rest.
-/
namespace Gherass.Account

open EventLoop EventLoop.Async Gherass.Shop Gherass.Account.FirebaseHelper

def hasProfile (s : Session) (uid : Uid) : Bool := (s.profiles s.logInType uid).isSome

def notified (s : Session) : Bool := s.listeners.any fun l => l.pending.any (·.isSome)

/-- If the flag is set, somebody is signed in and has a profile under the stored login type. -/
def linked (s : Session) : Prop :=
  s.isLogin = true → ∃ uid, s.currentUser = some uid ∧ hasProfile s uid = true

def secured (s : Session) : Bool :=
  s.currentUser.any fun uid => hasProfile s uid || notified s

/-- No operation is in progress: no call is awaited, and no sign-in is left to be told. -/
def atRest (w : Pool Session AuthAccess Unit) : Prop := w.slots = [] ∧ notified w.state = false

/-- A role is chosen only where this leaves the flag right, and a listener that is told of a
    sign-in finds a stored login type. -/
def startsWell : AuthEvent → Session → Bool
  | .chooseRole role, s => !s.isLogin || secured (s.setLogInType (roleText role))
  | .authStateChanged i, s =>
    (s.listeners[i]?).all (fun l => l.pending.head?.join.isNone) || s.currentUser.isNone ||
      s.logInType ≠ ""
  | _, _ => true

/-- A sign-in leaves the flag right, and nothing changes between a login's sign-in and its
    setting the flag. -/
def landsWell : AuthAccess → Session → Bool
  | .signIn email password, s =>
    match s.account? email password with
    | .ok uid => !s.isLogin || secured (s.setUser (some uid))
    | .error _ => true
  | .entered mark, s => s.changes = mark || secured s
  | _, _ => true

/-- The calls on which a set flag rests are not lost: the write of the signed-in user's
    profile, and the deletion of the account once the profile is gone. -/
def failsWell : AuthAccess → Session → Bool
  | .setProfile collection uid, s =>
    !s.isLogin || s.currentUser ≠ some uid || s.logInType ≠ collection || secured s
  | .deleteUser _, s => !s.isLogin || secured s
  | _, _ => true

def linkKept : Guard Session AuthAccess AuthEvent := .computed startsWell landsWell failsWell

instance : linkKept.Checks := inferInstanceAs (Guard.computed ..).Checks

inductive Debt where
  | clear
  | listen
  | set (collection : String) (uid : Uid)
  deriving DecidableEq

def linkedUpTo (s : Session) (paid : Debt → ℤ) : Prop :=
  s.isLogin = true → paid .clear < 0 ∨ ∃ uid, s.currentUser = some uid ∧
    (hasProfile s uid = true ∨ notified s = true ∨ paid .listen < 0 ∨
      paid (.set s.logInType uid) < 0)

def unlessChanged (s t : Session) : Prop :=
  s.changes ≤ t.changes ∧ (t.changes = s.changes → t.currentUser = s.currentUser ∧
    t.logInType = s.logInType ∧ ∀ c u, (s.profiles c u).isSome = true → (t.profiles c u).isSome = true)

def linkLedger : Ledger Session AuthEvent (Debt → ℤ) where
  charge _ := 0
  inv := linkedUpTo
  rel := unlessChanged
  limit m := m ≤ 0
  refl s := ⟨le_rfl, fun _ => ⟨rfl, rfl, fun _ _ h => h⟩⟩
  trans := by
    rintro s t u ⟨hle, hsame⟩ ⟨hle', hsame'⟩
    refine ⟨hle.trans hle', fun h => ?_⟩
    obtain ⟨huser, htype, hprofiles⟩ := hsame (by omega)
    obtain ⟨huser', htype', hprofiles'⟩ := hsame' (by omega)
    exact ⟨huser'.trans huser, htype'.trans htype, fun c v hv => hprofiles' c v (hprofiles c v hv)⟩
  limit_le h h' := h.trans h'
  limit_charge _ h := by rwa [add_zero]

theorem secured_iff {s : Session} : secured s = true ↔
    ∃ uid, s.currentUser = some uid ∧ (hasProfile s uid = true ∨ notified s = true) := by
  unfold secured
  cases s.currentUser with
  | none => simp
  | some uid => simp

theorem linkedUpTo_secured {s : Session} {p : Debt → ℤ}
    (h : s.isLogin = true → secured s = true) : linkedUpTo s p := by
  intro hlogin
  obtain ⟨uid, huser, hprofile⟩ := secured_iff.1 (h hlogin)
  exact .inr ⟨uid, huser, hprofile.imp_right .inl⟩

theorem linkedUpTo_clear {s : Session} {p : Debt → ℤ} (h : p .clear < 0) : linkedUpTo s p :=
  fun _ => .inl h

theorem linkedUpTo_of {s t : Session} {p q : Debt → ℤ} (h : linkedUpTo s p)
    (hlogin : t.isLogin = true → s.isLogin = true) (huser : t.currentUser = s.currentUser)
    (htype : t.logInType = s.logInType)
    (hprofile : ∀ uid, hasProfile s uid = true → hasProfile t uid = true)
    (hnotified : notified s = true → notified t = true) (hpaid : q = p) : linkedUpTo t q := by
  intro hset
  subst hpaid
  rcases h (hlogin hset) with hclear | ⟨uid, hcurrent, hrest⟩
  · exact .inl hclear
  · rw [huser, htype]
    exact .inr ⟨uid, hcurrent, hrest.imp (hprofile uid) (.imp_left hnotified)⟩

def reading : Contract Session AuthAccess := .ofFrame fun s => s

theorem reading_covers : linkLedger.Covers reading where
  inv _ _ _ := trivial
  paid := by
    rintro s _ p rfl - h
    exact h
  rel := by
    rintro _ t rfl
    exact linkLedger.refl t

theorem quiet_checkCollection (collection : String) :
    Quiet reading (checkCollection collection) := by
  unfold checkCollection
  split
  · exact .throw _
  · exact .pure ()

theorem quiet_read (uid : Uid) : Quiet reading (readProfile uid) :=
  .bind (.look _) fun _ => .bind (quiet_checkCollection _) fun _ =>
    .call reading.keeps_id fun _ _ => trivial

theorem pays_logout : Pays linkLedger linkKept (fun a _ => a = 0) logout (fun _ a _ => a = 0)
    fun _ a _ => a = 0 := by
  refine .bind (R := fun _ a _ => a = Pi.single .clear 1) (.call ?_ fun _ _ _ _ _ h _ _ _ _ => h)
    fun _ => .change ?_
  · rintro _ s t q rfl - - hl - -
    exact ⟨_, single_nonneg Debt.clear, linkedUpTo_clear (sub_single_lt Debt.clear hl),
      ⟨Nat.le_succ _, fun h => absurd h (Nat.succ_ne_self _)⟩, fun _ _ _ _ => rfl⟩
  · rintro _ s p - - - rfl
    exact ⟨0, le_rfl, fun h => (by cases h),
      ⟨Nat.le_succ _, fun h => absurd h (Nat.succ_ne_self _)⟩, rfl⟩

theorem pays_reading {α : Type} {m : AuthProgram α} (h : Quiet reading m) (b : Debt → ℤ) :
    Pays linkLedger linkKept (fun a _ => a = b) m (fun _ a _ => a = b) fun _ a _ => a = b :=
  h.owes reading_covers b

theorem quiet_getUid : Quiet reading getUid := by
  refine .bind (.look _) fun user => ?_
  cases user with
  | some uid => exact .pure uid
  | none => exact .throw _

theorem pays_deleteUser (uid : Uid) : Pays linkLedger linkKept (fun a _ => a = Pi.single .clear 1)
    (call (.deleteUser uid) (deleteUser uid) (.firebaseAuth "requires-recent-login") :
      AuthProgram Unit) (fun _ a _ => a = Pi.single .clear 1) fun _ a _ => a = 0 := by
  refine .call_settle ?_ ?_
  · rintro _ s t q rfl ha - hl - -
    refine ⟨_, ha, linkedUpTo_clear ?_, ?_, fun _ _ _ _ => ?_⟩
    · rw [add_sub_cancel_right]
      exact owed_lt hl
    · dsimp only [deleteUser]
      split
      · exact ⟨Nat.le_succ _, fun h => absurd h (Nat.succ_ne_self _)⟩
      · exact ⟨le_rfl, fun _ => ⟨rfl, rfl, fun _ _ h => h⟩⟩
    · rfl
  · rintro _ s t q rfl - - - - hfails
    refine ⟨0, le_rfl, linkedUpTo_secured fun hlogin => ?_, fun _ _ _ _ => rfl⟩
    have safe : (!t.isLogin || secured t) = true := hfails
    rwa [hlogin, Bool.not_true, Bool.false_or] at safe

theorem pays_deleteCurrentUser : Pays linkLedger linkKept (fun a _ => a = 0) deleteCurrentUser
    (fun _ a _ => a = 0) fun _ a _ => a = 0 := by
  refine .bind (pays_reading (.look _) 0) fun collection =>
    .bind (pays_reading (quiet_checkCollection _) 0) fun _ => .bind (pays_reading quiet_getUid 0)
      fun uid => .bind (R := fun _ a _ => a = Pi.single .clear 1)
        (.call ?_ fun _ _ _ _ _ h _ _ _ _ => h) fun _ =>
          .bind (R := fun _ a _ => a = Pi.single .clear 1) (.look fun _ _ _ _ h => h) fun user => ?_
  · rintro _ s t q rfl - - hl - -
    exact ⟨_, single_nonneg Debt.clear, linkedUpTo_clear (sub_single_lt Debt.clear hl),
      ⟨Nat.le_succ _, fun h => absurd h (Nat.succ_ne_self _)⟩, fun _ _ _ _ => rfl⟩
  · have clears : Pays linkLedger linkKept (fun a _ => a = Pi.single .clear 1)
        (change fun s => { s with isLogin := false } : AuthProgram Unit) (fun _ a _ => a = 0)
        fun _ a _ => a = 0 := by
      refine .change ?_
      rintro _ s p - - - rfl
      exact ⟨0, le_rfl, fun h => (by cases h), ⟨le_rfl, fun _ => ⟨rfl, rfl, fun _ _ h => h⟩⟩, rfl⟩
    cases user with
    | none => exact clears
    | some uid => exact .bind (pays_deleteUser uid) fun _ => clears

theorem notified_listen {s : Session} {uid account : Uid} {registerUser : Fields}
    (h : s.currentUser = some uid) : notified (listen registerUser account s) = true := by
  simp [notified, FirebaseHelper.listen, h]

theorem pays_createUser (ids : IdSupply) (email password : String) :
    Pays linkLedger linkKept (fun a _ => a = 0)
      (call (.createUser email) (createUserWithEmailAndPassword ids email password)
        (.firebaseAuth "network-request-failed") : AuthProgram Uid)
      (fun _ a _ => a = Pi.single .listen 1) fun _ a _ => a = 0 := by
  refine .call ?_ fun _ _ _ _ _ h _ _ _ _ => h
  rintro _ s t q rfl - hinv hl - -
  dsimp only [createUserWithEmailAndPassword]
  split
  case isTrue =>
    refine ⟨0, le_rfl, ?_, linkLedger.refl t, fun _ _ _ _ => rfl⟩
    rwa [add_zero, sub_zero]
  case isFalse =>
    refine ⟨Pi.single .listen 1, single_nonneg Debt.listen, fun _ => ?_,
      ⟨Nat.le_succ _, fun h => absurd h (Nat.succ_ne_self _)⟩, fun _ _ _ _ => rfl⟩
    exact .inr ⟨t.newUid ids, rfl, .inr (.inr (.inl (sub_single_lt Debt.listen hl)))⟩

theorem pays_listen (registerUser : Fields) (account : Uid) :
    Pays linkLedger linkKept (fun a _ => a = Pi.single .listen 1)
      (change (listen registerUser account) : AuthProgram Unit) (fun _ a _ => a = 0)
      fun _ a _ => a = 0 := by
  refine .change ?_
  rintro _ s p hinv - - rfl
  refine ⟨0, le_rfl, fun hlogin => ?_, ⟨le_rfl, fun _ => ⟨rfl, rfl, fun _ _ h => h⟩⟩, rfl⟩
  rcases hinv hlogin with hclear | ⟨uid, huser, -⟩
  · refine .inl ?_
    simpa using hclear
  · exact .inr ⟨uid, huser, .inr (.inl (notified_listen huser))⟩

theorem quiet_credentials (registerUser : Fields) : Quiet reading (credentials registerUser) := by
  unfold credentials
  split
  · split
    · split
      · split
        · exact .throw _
        · exact .pure _
      · exact .throw _
    · exact .throw _
  · exact .throw _

theorem pays_createAccount (ids : IdSupply) (c : CreateaccountController) :
    Pays linkLedger linkKept (fun a _ => a = 0) (c.createAccount ids) (fun _ a _ => a = 0)
      fun _ a _ => a = 0 := by
  refine .bind (pays_reading (.look _) 0) fun createAccountType => .tryCatch
    (.bind (pays_reading (quiet_credentials _) 0) fun entered =>
      .bind (pays_createUser ids _ _) fun account => pays_listen _ _) fun e => ?_
  split
  · exact .throw fun _ _ h => h
  · exact .throw fun _ _ h => h

/-- Unless something changed since, `uid` is the one signed in. -/
def signedInAt (uid : Uid) (mark : ℕ) (s : Session) : Prop :=
  mark ≤ s.changes ∧ (s.changes = mark → s.currentUser = some uid)

theorem changes_same {mark : ℕ} {s t : Session} (h : unlessChanged s t) (hs : mark ≤ s.changes)
    (hmark : t.changes = mark) : t.changes = s.changes ∧ s.changes = mark := by
  have := h.1
  omega

theorem signedInAt_later {uid : Uid} {mark : ℕ} {s t : Session} (h : unlessChanged s t)
    (hs : signedInAt uid mark s) : signedInAt uid mark t := by
  refine ⟨hs.1.trans h.1, fun hmark => ?_⟩
  obtain ⟨same, hmark⟩ := changes_same h hs.1 hmark
  rw [(h.2 same).1]
  exact hs.2 hmark

/-- Unless something changed since, `uid` is signed in and has a profile. -/
def foundAt (uid : Uid) (mark : ℕ) (s : Session) : Prop :=
  s.changes = mark → s.currentUser = some uid ∧ hasProfile s uid = true

def typedAt (uid : Uid) (mark : ℕ) (collection : String) (s : Session) : Prop :=
  mark ≤ s.changes ∧
    (s.changes = mark → s.currentUser = some uid ∧ s.logInType = collection)

theorem typedAt_later {uid : Uid} {mark : ℕ} {collection : String} {s t : Session}
    (h : unlessChanged s t) (hs : typedAt uid mark collection s) :
    typedAt uid mark collection t := by
  refine ⟨hs.1.trans h.1, fun hmark => ?_⟩
  obtain ⟨same, hmark⟩ := changes_same h hs.1 hmark
  obtain ⟨huser, htype, -⟩ := h.2 same
  rw [huser, htype]
  exact hs.2 hmark

theorem foundAt_later {uid : Uid} {mark : ℕ} {collection : String} {s t : Session}
    (hs : typedAt uid mark collection s) (hfound : (s.profiles collection uid).isSome = true)
    (h : unlessChanged s t) : foundAt uid mark t := by
  intro hmark
  obtain ⟨same, hmark⟩ := changes_same h hs.1 hmark
  obtain ⟨huser, htype, hprofiles⟩ := h.2 same
  obtain ⟨hcurrent, hcollection⟩ := hs.2 hmark
  refine ⟨huser.trans hcurrent, ?_⟩
  rw [hasProfile, htype, hcollection]
  exact hprofiles collection uid hfound

theorem pays_isUidPresent (uid : Uid) (mark : ℕ) : Pays linkLedger linkKept
    (fun a s => a = 0 ∧ signedInAt uid mark s) (isUidPresent uid)
    (fun found a s => a = 0 ∧ (found = true → foundAt uid mark s)) fun _ a _ => a = 0 := by
  refine .tryCatch (F := fun _ a _ => a = 0) (.bind (R := fun userDoc a s => a = 0 ∧
    (userDoc.isSome = true → foundAt uid mark s)) (.bind
      (R := fun collection a s => a = 0 ∧ typedAt uid mark collection s) (.look ?_)
      fun collection => .bind (R := fun _ a s => a = 0 ∧ typedAt uid mark collection s)
        (((quiet_checkCollection collection).pays reading_covers fun _ _ => typedAt_later).weaken
          (fun _ _ h => h) (fun _ _ _ h => h) fun _ _ _ h => h.1) fun _ => .call ?_ ?_)
    fun userDoc => .pure fun _ _ h => h) fun _ => .pure fun _ _ h => ⟨h, fun h => by cases h⟩
  · exact fun _ s _ _ ⟨h, hmark, hcurrent⟩ => ⟨h, hmark, fun hsame => ⟨hcurrent hsame, rfl⟩⟩
  · rintro _ s t q ⟨rfl, htyped⟩ - hinv - hr -
    refine ⟨0, le_rfl, ?_, linkLedger.refl t, fun u r _ hlater => ⟨rfl, fun hfound => ?_⟩⟩
    · rwa [add_zero, sub_zero]
    · exact foundAt_later (typedAt_later hr htyped) hfound hlater
  · exact fun _ _ _ _ _ h _ _ _ _ => h.1

theorem pays_signIn (email password : String) : Pays linkLedger linkKept (fun a _ => a = 0)
    (call (.signIn email password) (fun s =>
        let signedIn := signInWithEmailAndPassword email password s
        (signedIn.1, signedIn.2.map fun uid => (uid, signedIn.1.changes)))
      (.firebaseAuth "network-request-failed") : AuthProgram (Uid × ℕ))
    (fun signedIn a s => a = 0 ∧ signedInAt signedIn.1 signedIn.2 s) fun _ a _ => a = 0 := by
  refine .call ?_ fun _ _ _ _ _ h _ _ _ _ => h
  rintro _ s t q rfl - hinv - - hland
  change landsWell (.signIn email password) t = true at hland
  dsimp only [landsWell, signInWithEmailAndPassword] at hland ⊢
  cases haccount : t.account? email password with
  | error e =>
    refine ⟨0, le_rfl, ?_, linkLedger.refl t, fun _ _ _ _ => rfl⟩
    rwa [add_zero, sub_zero]
  | ok uid =>
    simp only [haccount] at hland
    refine ⟨0, le_rfl, linkedUpTo_secured fun hlogin => ?_,
      ⟨Nat.le_succ _, fun h => absurd h (Nat.succ_ne_self _)⟩, fun u r _ hlater => ⟨rfl, ?_⟩⟩
    · have hset : t.isLogin = true := hlogin
      rwa [hset, Bool.not_true, Bool.false_or] at hland
    · exact signedInAt_later hlater ⟨le_rfl, fun _ => rfl⟩

theorem quiet_getUserType (uid : Uid) : Quiet reading (getUserType uid) := by
  refine .tryCatch (.bind (quiet_read uid) fun userDoc => ?_) fun _ => .pure none
  split
  · exact .pure _
  · exact .pure none

theorem pays_enter (uid : Uid) (mark : ℕ) : Pays linkLedger linkKept
    (fun a s => a = 0 ∧ foundAt uid mark s)
    (do note (.entered mark); change fun s => { s with isLogin := true } : AuthProgram Unit)
    (fun _ a _ => a = 0) fun _ a _ => a = 0 := by
  refine .bind (R := fun _ a s => a = 0 ∧ secured s = true) (.note ?_) fun _ => .change ?_
  · rintro _ s p - ⟨rfl, hfound⟩ hland
    refine ⟨rfl, ?_⟩
    rcases Bool.or_eq_true_iff.1 hland with hmark | hsecured
    · obtain ⟨huser, hprofile⟩ := hfound (of_decide_eq_true hmark)
      exact secured_iff.2 ⟨uid, huser, .inl hprofile⟩
    · exact hsecured
  · rintro _ s p - - - ⟨rfl, hsecured⟩
    exact ⟨0, le_rfl, linkedUpTo_secured fun _ => hsecured,
      ⟨le_rfl, fun _ => ⟨rfl, rfl, fun _ _ h => h⟩⟩, rfl⟩

theorem pays_login (email password : String) : Pays linkLedger linkKept (fun a _ => a = 0)
    (login email password) (fun _ a _ => a = 0) fun _ a _ => a = 0 := by
  refine .tryCatch (F := fun _ a _ => a = 0) (.bind (pays_signIn email password) fun signedIn => ?_)
    fun e => ?_
  · obtain ⟨uid, mark⟩ := signedIn
    have typed : Pays linkLedger linkKept (fun a s => a = 0 ∧ signedInAt uid mark s)
        (getUserType uid) (fun _ a s => a = 0 ∧ signedInAt uid mark s) fun _ a _ => a = 0 :=
      ((quiet_getUserType uid).pays reading_covers fun _ _ => signedInAt_later).weaken
        (fun _ _ h => h) (fun _ _ _ h => h) fun _ _ _ h => h.1
    refine .bind typed fun loginType => .bind (pays_isUidPresent uid mark) fun isUid =>
      .bind (R := fun _ a s => a = 0 ∧ (isUid = true → foundAt uid mark s))
        (.look fun _ _ _ _ h => h) fun logInType => ?_
    split
    case isTrue hfound =>
      exact (pays_enter uid mark).weaken (fun _ _ h => ⟨h.1, h.2 hfound.2⟩) (fun _ _ _ h => h)
        fun _ _ _ h => h
    case isFalse => exact .pure fun _ _ h => h.1
  · split
    · exact .throw fun _ _ h => h
    · exact .throw fun _ _ h => h

theorem linkedUpTo_written {s : Session} {p : Debt → ℤ} {collection : String} {uid : Uid}
    (h : linkedUpTo s p) (hrest : s.isLogin = true → s.currentUser = some uid →
      s.logInType = collection → hasProfile s uid = true ∨ notified s = true) :
    linkedUpTo s (p + Pi.single (.set collection uid) 1) := by
  intro hlogin
  rcases h hlogin with hclear | ⟨u, huser, hprofile | hnotified | hlisten | howed⟩
  · exact .inl (by simpa using hclear)
  · exact .inr ⟨u, huser, .inl hprofile⟩
  · exact .inr ⟨u, huser, .inr (.inl hnotified)⟩
  · exact .inr ⟨u, huser, .inr (.inr (.inl (by simpa using hlisten)))⟩
  · by_cases hsame : s.logInType = collection ∧ u = uid
    · obtain ⟨htype, rfl⟩ := hsame
      exact .inr ⟨u, huser, (hrest hlogin huser htype).imp_right .inl⟩
    · have other : Debt.set s.logInType u ≠ Debt.set collection uid := fun h => by
        cases h
        exact hsame ⟨rfl, rfl⟩
      refine .inr ⟨u, huser, .inr (.inr (.inr ?_))⟩
      rwa [Pi.add_apply, Pi.single_eq_of_ne other, add_zero]

theorem profiles_setProfile (s : Session) (collection : String) (uid : Uid) (data : Fields) :
    ((s.setProfile collection uid (some data)).profiles collection uid).isSome = true ∧
      ∀ c u, (s.profiles c u).isSome = true →
        ((s.setProfile collection uid (some data)).profiles c u).isSome = true := by
  refine ⟨by simp [Session.setProfile], fun c u h => ?_⟩
  by_cases hc : c = collection
  · subst hc
    by_cases hu : u = uid
    · simp [Session.setProfile, hu]
    · simpa [Session.setProfile, hu] using h
  · simpa [Session.setProfile, hc] using h

theorem pays_write (i : ℕ) (collection : String) (uid : Uid) (userData : Fields) :
    Pays linkLedger linkKept (fun a _ => a = Pi.single (.set collection uid) 1)
      (call (.setProfile collection uid) (fun s =>
        ({ s.setProfile collection uid (some userData) with
          profileWrites := s.profileWrites ++ [⟨collection, uid, i, userData⟩] }, .ok ()))
        (.dart .firestore) : AuthProgram Unit) (fun _ a _ => a = 0) fun _ a _ => a = 0 := by
  refine .call_settle ?_ ?_
  · rintro _ s t q rfl - hinv - - -
    obtain ⟨hwritten, hprofiles⟩ := profiles_setProfile t collection uid userData
    refine ⟨0, le_rfl, ?_, ⟨le_rfl, fun _ => ⟨rfl, rfl, hprofiles⟩⟩, fun _ _ _ _ => rfl⟩
    rw [sub_zero]
    refine linkedUpTo_written (linkedUpTo_of hinv (fun h => h) rfl rfl
      (fun u => hprofiles t.logInType u) (fun h => h) rfl) fun _ _ htype => .inl ?_
    change ((t.setProfile collection uid (some userData)).profiles t.logInType uid).isSome = true
    have hcollection : t.logInType = collection := htype
    rwa [hcollection]
  · rintro _ s t q rfl - hinv - - hfails
    refine ⟨0, le_rfl, ?_, fun _ _ _ _ => rfl⟩
    rw [sub_zero]
    refine linkedUpTo_written hinv fun hlogin huser htype => ?_
    have safe : (!t.isLogin || t.currentUser ≠ some uid || t.logInType ≠ collection ||
      secured t) = true := hfails
    have hsecured : secured t = true := by simpa [hlogin, huser, htype] using safe
    obtain ⟨u, hu, hrest⟩ := secured_iff.1 hsecured
    obtain rfl : u = uid := Option.some_injective _ (hu.symm.trans huser)
    exact hrest

theorem notified_setListener {s : Session} {i : ℕ} {f : Listener → Listener}
    (hf : ∀ l, s.listeners[i]? = some l → l.pending.any (·.isSome) = true →
      (f l).pending.any (·.isSome) = true) (h : notified s = true) :
    notified (s.setListener i f) = true := by
  obtain ⟨l, hl, hpending⟩ := List.any_eq_true.1 h
  obtain ⟨j, hj⟩ := List.mem_iff_getElem?.1 hl
  have there : (s.setListener i f).listeners[j]? = some (if i = j then f l else l) := by
    change (s.listeners.modify i f)[j]? = _
    rw [List.getElem?_modify, hj]
    rfl
  refine List.any_eq_true.2 ⟨_, List.mem_of_getElem? there, ?_⟩
  split
  case isTrue hij => exact hf l (hij ▸ hj) hpending
  case isFalse => exact hpending

def aboutToWrite (uid : Uid) (a : Debt → ℤ) (s : Session) : Prop :=
  s.currentUser = some uid ∧ s.logInType ≠ "" ∧ a = Pi.single (.set s.logInType uid) 1

theorem pays_setUserData (i : ℕ) (uid : Uid) : Pays linkLedger linkKept (aboutToWrite uid)
    (setUserData i) (fun _ a _ => a = 0) fun _ a _ => a = 0 := by
  refine .tryCatch (F := fun _ a _ => a = 0) (.bind (R := fun userId a s => userId = uid ∧
    aboutToWrite uid a s) ?_ fun userId => .given ?_) fun _ => .pure fun _ _ h => h
  · refine .bind (R := fun user a s => user = s.currentUser ∧ aboutToWrite uid a s)
      (.look fun _ _ _ _ h => ⟨rfl, h⟩) fun user => ?_
    cases user with
    | none => exact .throw fun _ _ h => by cases h.1.trans h.2.1
    | some _ => exact .pure fun _ _ h => ⟨Option.some_injective _ (h.1.trans h.2.1), h.2⟩
  · rintro rfl
    refine .bind (R := fun _ => aboutToWrite userId) (.change ?_) fun _ =>
      .bind (R := fun _ => aboutToWrite userId) (.look fun _ _ _ _ h => h) fun userData =>
      .bind (R := fun collection a _ => collection ≠ "" ∧
        a = Pi.single (.set collection userId) 1) (.look fun _ _ _ _ h => ⟨h.2.1, h.2.2⟩)
      fun collection => .given fun hcollection => ?_
    · intro a s p hinv _ ha h
      refine ⟨a, ha, ?_, ⟨le_rfl, fun _ => ⟨rfl, rfl, fun _ _ h => h⟩⟩, h⟩
      rw [add_sub_cancel_right]
      exact linkedUpTo_of hinv (fun h => h) rfl rfl (fun _ h => h)
        (notified_setListener fun _ _ h => h) rfl
    · rw [checkCollection, if_neg hcollection]
      exact .bind (.pure fun _ _ h => h) fun _ => pays_write i collection userId userData

theorem any_tail {xs : List (Option Uid)} (hhead : xs.head?.join = none)
    (h : xs.any (·.isSome) = true) : xs.tail.any (·.isSome) = true := by
  cases xs with
  | nil => cases h
  | cons x xs =>
    obtain rfl : x = none := hhead
    exact h

def taken (user : Option Uid) (a : Debt → ℤ) (s : Session) : Prop :=
  a = 0 ∧ (user = none ∨ s.currentUser = none) ∨ user ≠ none ∧ ∃ uid, aboutToWrite uid a s

theorem pays_nextUser (i : ℕ) : Pays linkLedger linkKept
    (fun a s => a = 0 ∧ startsWell (.authStateChanged i) s = true) (nextUser i) taken
    fun _ a _ => a = 0 := by
  refine .seg ?_
  rintro _ s p hinv hl - ⟨rfl, hstarts⟩
  have same : unlessChanged s (s.setListener i fun l => { l with pending := l.pending.tail }) :=
    ⟨le_rfl, fun _ => ⟨rfl, rfl, fun _ _ h => h⟩⟩
  cases hnext : (s.listeners[i]?.bind (·.pending.head?)).join with
  | none =>
    refine ⟨0, le_rfl, ?_, same, .inl ⟨rfl, .inl rfl⟩⟩
    rw [sub_zero, add_zero]
    refine linkedUpTo_of hinv (fun h => h) rfl rfl (fun _ h => h)
      (notified_setListener fun l hi h => any_tail ?_ h) rfl
    rwa [hi] at hnext
  | some _ =>
    cases huser : s.currentUser with
    | none =>
      refine ⟨0, le_rfl, ?_, same, .inl ⟨rfl, .inr huser⟩⟩
      rw [sub_zero, add_zero]
      intro hlogin
      rcases hinv hlogin with hclear | ⟨uid, hcurrent, -⟩
      · exact .inl hclear
      · cases huser.symm.trans hcurrent
    | some uid =>
      refine ⟨Pi.single (.set s.logInType uid) 1, single_nonneg _, fun _ => .inr ⟨uid, huser,
        .inr (.inr (.inr (sub_single_lt _ hl)))⟩, same,
        .inr ⟨Option.some_ne_none _, uid, huser, ?_, rfl⟩⟩
      intro htype
      cases hi : s.listeners[i]? with
      | none => rw [hi] at hnext; cases hnext
      | some l =>
        rw [hi] at hnext
        have hjoin : l.pending.head?.join = some _ := hnext
        have stored : s.logInType ≠ "" := by simpa [startsWell, hi, huser, hjoin] using hstarts
        exact stored htype

theorem pays_authStateChanged (i : ℕ) : Pays linkLedger linkKept
    (fun a s => a = 0 ∧ startsWell (.authStateChanged i) s = true) (authStateChanged i)
    (fun _ a _ => a = 0) fun _ a _ => a = 0 := by
  refine .bind (pays_nextUser i) fun user => ?_
  cases user with
  | none =>
    refine .pure fun a s h => ?_
    rcases h with ⟨h, -⟩ | ⟨h, -⟩
    · exact h
    · exact absurd rfl h
  | some _ =>
    refine .bind (R := fun current a s => a = 0 ∧ current = none ∨
      ∃ uid, current = some uid ∧ aboutToWrite uid a s) (.look ?_) fun current => ?_
    · rintro a s p - (⟨ha, h | h⟩ | ⟨-, uid, h⟩)
      · cases h
      · exact .inl ⟨ha, h⟩
      · exact .inr ⟨uid, h.1, h⟩
    · cases current with
      | none =>
        refine .pure fun a s h => ?_
        rcases h with ⟨h, -⟩ | ⟨_, h, -⟩
        · exact h
        · cases h
      | some uid =>
        refine .bind (R := fun _ => aboutToWrite uid) (.change ?_) fun _ => pays_setUserData i uid
        rintro a s p - hl ha (⟨-, h⟩ | ⟨u, hu, h⟩)
        · cases h
        · cases hu
          obtain ⟨huser, htype, rfl⟩ := h
          refine ⟨_, ha, fun _ => ?_, ⟨le_rfl, fun _ => ⟨rfl, rfl, fun _ _ h => h⟩⟩, huser, htype,
            rfl⟩
          rw [add_sub_cancel_right]
          exact .inr ⟨uid, huser, .inr (.inr (.inr (owed_lt hl)))⟩

theorem pays_chooseRole (role : LogInType) : Pays linkLedger linkKept
    (fun a s => a = 0 ∧ startsWell (.chooseRole role) s = true)
    (change fun s => s.setLogInType (roleText role) : AuthProgram Unit) (fun _ a _ => a = 0)
    fun _ a _ => a = 0 := by
  refine .change ?_
  rintro _ s p - - - ⟨rfl, hstarts⟩
  refine ⟨0, le_rfl, linkedUpTo_secured fun hlogin => ?_,
    ⟨Nat.le_succ _, fun h => absurd h (Nat.succ_ne_self _)⟩, rfl⟩
  have hset : s.isLogin = true := hlogin
  simpa only [startsWell, hset, Bool.not_true, Bool.false_or] using hstarts

theorem link_balances (ids : IdSupply) : linkLedger.Balances linkKept (authHandler ids) := by
  intro e s p hs hl hstart
  cases e with
  | chooseRole role => exact (pays_chooseRole role).task hs hl le_rfl ⟨rfl, hstart⟩
  | createAccount c => exact (pays_createAccount ids c).task hs hl le_rfl rfl
  | login email password => exact (pays_login email password).task hs hl le_rfl rfl
  | logout => exact pays_logout.task hs hl le_rfl rfl
  | deleteCurrentUser => exact pays_deleteCurrentUser.task hs hl le_rfl rfl
  | authStateChanged i => exact (pays_authStateChanged i).task hs hl le_rfl ⟨rfl, hstart⟩

/-- As long as the operations do not break the link, the flag is right in every state in which
    none of them is in progress. -/
theorem session_linked (ids : IdSupply) {s : Session} {w : Pool Session AuthAccess Unit}
    (hstart : linked s) (hrun : Run (authHandler ids) linkKept ⟨s, []⟩ w) (hrest : atRest w) :
    linked w.state := by
  have idle : linkLedger.Holds linkKept (⟨s, []⟩ : Pool Session AuthAccess Unit) 0 := by
    refine .idle rfl le_rfl fun hlogin => ?_
    obtain ⟨uid, huser, hprofile⟩ := hstart hlogin
    exact .inr ⟨uid, huser, .inl hprofile⟩
  have holds := idle.uncharged (link_balances ids) (fun _ => rfl) hrun
  intro hlogin
  rcases holds.settled hrest.1 hlogin with hclear | ⟨uid, huser, h | h | h | h⟩
  · exact absurd hclear (lt_irrefl _)
  · exact ⟨uid, huser, h⟩
  · rw [hrest.2] at h
    cases h
  · exact absurd h (lt_irrefl _)
  · exact absurd h (lt_irrefl _)

theorem noura_linked : linked (afterMoves signsUp).state :=
  session_linked .longer (s := {}) (fun h => by cases h)
    (Run.after (by decide +kernel) (by decide +kernel)) ⟨by decide +kernel, by decide +kernel⟩

def deletesHalf : List (Move AuthEvent) :=
  signsUp ++ through .deleteCurrentUser ++ [.lose 0, .resume 0]

theorem deleted_half : ¬ ∀ (ids : IdSupply) (s : Session) (w : Pool Session AuthAccess Unit),
    linked s → Run (authHandler ids) .free ⟨s, []⟩ w → atRest w → linked w.state := by
  intro h
  have run : Run (authHandler .longer) .free ⟨{}, []⟩ (afterMoves deletesHalf) :=
    Run.after_free (by decide +kernel)
  have right := h .longer {} _ (fun h => by cases h) run ⟨by decide +kernel, by decide +kernel⟩
  have flag : (afterMoves deletesHalf).state.isLogin = true := by decide +kernel
  obtain ⟨uid, huser, hprofile⟩ := right flag
  have gone : (afterMoves deletesHalf).state.currentUser.all (fun uid =>
      !hasProfile (afterMoves deletesHalf).state uid) = true := by decide +kernel
  rw [huser, Option.all_some, hprofile] at gone
  cases gone

end Gherass.Account
