import Gherass.Accounts

set_option autoImplicit false

/-!
# Whose data a profile is written with

A listener that a sign-up registered stays for the rest of the session. What it writes comes
from its own sign-up; where it writes depends on who is signed in when it is notified.
-/
namespace Gherass.Account

open EventLoop EventLoop.Async Gherass.Shop Gherass.Account.FirebaseHelper

/-- The write puts the data of the sign-up that registered its listener into the profile of
    the account that this sign-up created, in the collection of the role chosen then. -/
def ownData (s : Session) (w : ProfileWrite) : Prop :=
  ∃ l, s.listeners[w.listener]? = some l ∧ w.uid = l.account ∧
    l.form.get "userType" = .text w.collection ∧
    w.data = l.form.set (idField l.form) (.text w.uid)

def writesOwnData (s : Session) : Prop := ∀ w ∈ s.profileWrites, ownData s w

def isOwn (s : Session) (l : Listener) : Prop :=
  s.currentUser = some l.account ∧ l.form.get "userType" = .text s.logInType

instance (s : Session) (l : Listener) : Decidable (isOwn s l) :=
  inferInstanceAs (Decidable (_ ∧ _))

def writesToOwn (s : Session) (l : Listener) : Prop :=
  s.currentUser = none ∨ s.logInType = "" ∨ isOwn s l

instance (s : Session) (l : Listener) : Decidable (writesToOwn s l) :=
  inferInstanceAs (Decidable (_ ∨ _))

def reachesOwn : AuthEvent → Session → Bool
  | .authStateChanged i, s =>
    (s.listeners[i]?).all fun l => l.pending.head?.join = none ∨ writesToOwn s l
  | _, _ => true

def ownNotifications : Guard Session AuthAccess AuthEvent :=
  .computed reachesOwn (fun _ _ => true) fun _ _ => true

instance : ownNotifications.Checks := inferInstanceAs (Guard.computed ..).Checks

def keepsListeners (s t : Session) : Prop :=
  ∀ (i : ℕ) (l : Listener), s.listeners[i]? = some l →
    ∃ l', t.listeners[i]? = some l' ∧ l'.account = l.account ∧ l'.form = l.form

def holdsForm (l : Listener) : Prop := ∀ k ≠ idField l.form, l.registerUser k = l.form k

theorem keepsListeners_refl (s : Session) : keepsListeners s s := fun _ l hl => ⟨l, hl, rfl, rfl⟩

theorem keepsListeners_trans {s t u : Session} (h : keepsListeners s t)
    (h' : keepsListeners t u) : keepsListeners s u := by
  intro i l hl
  obtain ⟨l', hl', haccount, hform⟩ := h i l hl
  obtain ⟨l'', hl'', haccount', hform'⟩ := h' i l' hl'
  exact ⟨l'', hl'', haccount'.trans haccount, hform'.trans hform⟩

theorem ownData_later {s t : Session} (h : keepsListeners s t) {w : ProfileWrite}
    (hw : ownData s w) : ownData t w := by
  obtain ⟨l, hl, huid, hrole, hdata⟩ := hw
  obtain ⟨l', hl', haccount, hform⟩ := h _ l hl
  exact ⟨l', hl', huid.trans haccount.symm, by rw [hform, hrole], by rw [hform, hdata]⟩

def listening : Contract Session AuthAccess where
  inv s := (∀ l ∈ s.listeners, holdsForm l) ∧ writesOwnData s
  rel := keepsListeners
  shows _ _ := True
  refl := keepsListeners_refl
  trans := keepsListeners_trans

theorem idField_ne (userData : Fields) : "userType" ≠ idField userData := by
  intro h
  have last : ("userType".toList).getLast? = some 'd' := by
    rw [h, idField, String.toList_append]
    simp
  exact absurd last (by decide)

theorem holdsForm_idField {l : Listener} (h : holdsForm l) :
    idField l.registerUser = idField l.form := by
  have same : l.registerUser.get "userType" = l.form.get "userType" :=
    Fields.get_congr (h _ (idField_ne l.form))
  rw [idField, idField, same]

theorem holdsForm_set {l : Listener} (h : holdsForm l) (v : Value) :
    l.registerUser.set (idField l.registerUser) v = l.form.set (idField l.form) v := by
  rw [holdsForm_idField h]
  funext k
  by_cases hk : k = idField l.form
  · rw [hk, Fields.set_self, Fields.set_self]
  · rw [Fields.set_of_ne hk, Fields.set_of_ne hk, h k hk]

theorem keeps_of {f : Session → Session} (hwrites : ∀ s, (f s).profileWrites = s.profileWrites)
    (hkeep : ∀ s, keepsListeners s (f s))
    (hform : ∀ s, (∀ l ∈ s.listeners, holdsForm l) → ∀ l ∈ (f s).listeners, holdsForm l) :
    listening.Keeps f := by
  refine fun s hs => ⟨⟨hform s hs.1, fun w hw => ?_⟩, hkeep s⟩
  rw [hwrites] at hw
  exact ownData_later (hkeep s) (hs.2 w hw)

theorem keeps_frame {f : Session → Session} (hlisteners : ∀ s, (f s).listeners = s.listeners)
    (hwrites : ∀ s, (f s).profileWrites = s.profileWrites) : listening.Keeps f :=
  keeps_of hwrites (fun s i l hl => ⟨l, by rw [hlisteners, hl], rfl, rfl⟩)
    fun s hs => by rwa [hlisteners]

theorem keeps_setUser (user : Option Uid) : listening.Keeps fun s => s.setUser user := by
  refine keeps_of (fun _ => rfl) (fun s i l hl => ?_) fun s h l hl => ?_
  · refine ⟨{ l with pending := l.pending ++ [user] }, ?_, rfl, rfl⟩
    change (s.listeners.map _)[i]? = _
    rw [List.getElem?_map, hl, Option.map_some]
  · obtain ⟨l', hl', rfl⟩ := List.mem_map.1 hl
    exact h l' hl'

theorem keeps_listen {registerUser : Fields} {account : Uid} :
    listening.Keeps (listen registerUser account) := by
  refine keeps_of (fun _ => rfl) (fun s i l hl => ⟨l, ?_, rfl, rfl⟩) fun s h l hl => ?_
  · exact (List.getElem?_append_left (List.getElem?_eq_some_iff.1 hl).1).trans hl
  · rcases List.mem_append.1 hl with hl | hl
    · exact h l hl
    · obtain rfl := List.mem_singleton.1 hl
      exact fun _ _ => rfl

theorem keepsListeners_setListener (s : Session) (i : ℕ) {f : Listener → Listener}
    (hf : ∀ l, (f l).account = l.account ∧ (f l).form = l.form) :
    keepsListeners s (s.setListener i f) := by
  intro j l hl
  change ∃ l', (s.listeners.modify i f)[j]? = some l' ∧ _
  rw [List.getElem?_modify, hl]
  by_cases hij : i = j
  · exact ⟨f l, by simp [hij], hf l⟩
  · exact ⟨l, by simp [hij], rfl, rfl⟩

theorem mem_setListener {s : Session} {i : ℕ} {f : Listener → Listener} {l : Listener}
    (h : l ∈ (s.setListener i f).listeners) : l ∈ s.listeners ∨ ∃ l' ∈ s.listeners, l = f l' := by
  obtain ⟨j, hj⟩ := List.mem_iff_getElem?.1 h
  change (s.listeners.modify i f)[j]? = some l at hj
  rw [List.getElem?_modify] at hj
  obtain ⟨l', hl', hsame⟩ := Option.map_eq_some_iff.1 hj
  have mem : l' ∈ s.listeners := List.mem_iff_getElem?.2 ⟨j, hl'⟩
  by_cases hij : i = j
  · rw [if_pos hij] at hsame
    exact .inr ⟨l', mem, hsame.symm⟩
  · rw [if_neg hij] at hsame
    exact .inl (hsame ▸ mem)

theorem quiet_readProfile (uid : Uid) : Quiet listening (readProfile uid) := by
  refine .bind (.look _) fun collection => .bind ?_ fun _ => .call listening.keeps_id fun _ _ => trivial
  unfold checkCollection
  split
  · exact .throw _
  · exact .pure ()

theorem quiet_login (email password : String) : Quiet listening (login email password) := by
  have hsign : listening.Keeps fun s => (signInWithEmailAndPassword email password s).1 := by
    intro s hs
    dsimp only [signInWithEmailAndPassword]
    cases s.account? email password with
    | ok uid => exact keeps_setUser (some uid) s hs
    | error e => exact listening.keeps_id s hs
  refine .tryCatch (.bind (.call hsign fun _ _ => trivial) fun signedIn => .bind ?_ fun loginType =>
    .bind ?_ fun isUid => .bind (.look _) fun logInType => ?_) fun e => ?_
  · refine .tryCatch (.bind (quiet_readProfile _) fun userDoc => ?_) fun _ => .pure none
    split
    · exact .pure _
    · exact .pure none
  · exact .tryCatch (.bind (quiet_readProfile _) fun _ => .pure _) fun _ => .pure false
  · split
    · exact .bind (.note fun _ _ => trivial) fun _ =>
        .change (keeps_frame (fun _ => rfl) fun _ => rfl)
    · exact .pure ()
  · split
    · exact .throw _
    · exact .throw _

theorem quiet_logout : Quiet listening logout :=
  .bind (.call (keeps_setUser none) fun _ _ => trivial) fun _ =>
    .change (keeps_frame (fun _ => rfl) fun _ => rfl)

theorem quiet_deleteCurrentUser : Quiet listening deleteCurrentUser := by
  have hdelete (uid : Uid) : listening.Keeps fun s => (deleteUser uid s).1 := by
    intro s hs
    dsimp only [deleteUser]
    split
    · exact keeps_setUser none _ hs
    · exact ⟨hs, keepsListeners_refl s⟩
  refine .bind (.look _) fun collection => .bind ?_ fun _ => .bind ?_ fun uid =>
    .bind (.call (keeps_frame (fun _ => rfl) fun _ => rfl) fun _ _ => trivial) fun _ =>
      .bind (.look _) fun user => ?_
  · unfold checkCollection
    split
    · exact .throw _
    · exact .pure ()
  · refine .bind (.look _) fun user => ?_
    cases user with
    | some uid => exact .pure uid
    | none => exact .throw _
  · cases user with
    | some uid =>
      exact .bind (.call (hdelete uid) fun _ _ => trivial) fun _ =>
        .change (keeps_frame (fun _ => rfl) fun _ => rfl)
    | none =>
      dsimp only
      exact .change (keeps_frame (fun _ => rfl) fun _ => rfl)

theorem quiet_createAccount (ids : IdSupply) (c : CreateaccountController) :
    Quiet listening (c.createAccount ids) := by
  have hcreate (email password : String) :
      listening.Keeps fun s => (createUserWithEmailAndPassword ids email password s).1 := by
    intro s hs
    dsimp only [createUserWithEmailAndPassword]
    split
    · exact listening.keeps_id s hs
    · exact keeps_setUser _ _ hs
  refine .bind (.look _) fun createAccountType => .tryCatch (.bind ?_ fun entered =>
    .bind (.call (hcreate _ _) fun _ _ => trivial) fun account => .change keeps_listen) fun e => ?_
  · unfold credentials
    split
    · split
      · split
        · split
          · exact .throw _
          · exact .pure _
        · exact .throw _
      · exact .throw _
    · exact .throw _
  · split
    · exact .throw _
    · exact .throw _

def writesOwn (i : ℕ) (collection : String) (uid : Uid) (data : Fields) (s : Session) : Prop :=
  ∃ l, s.listeners[i]? = some l ∧ data = l.form.set (idField l.form) (.text uid) ∧
    uid = l.account ∧ l.form.get "userType" = .text collection

theorem spec_write (i : ℕ) (collection : String) (uid : Uid) (data : Fields) :
    Spec listening ownNotifications (writesOwn i collection uid data)
      (call (.setProfile collection uid) (fun s =>
        ({ s.setProfile collection uid (some data) with
          profileWrites := s.profileWrites ++ [⟨collection, uid, i, data⟩] }, .ok ()))
        (.dart .firestore) : AuthProgram Unit) (fun _ _ => True) fun _ _ => True := by
  refine .call (fun s t _ hown ht hr _ => ⟨trivial, ⟨ht.1, fun w hw => ?_⟩, keepsListeners_refl t,
    fun _ _ _ => trivial⟩) fun _ _ _ _ _ _ _ _ _ _ => trivial
  rcases List.mem_append.1 hw with hw | hw
  · exact ht.2 w hw
  · obtain rfl := List.mem_singleton.1 hw
    obtain ⟨l, hl, hdata, huid, hrole⟩ := hown
    obtain ⟨l', hl', haccount, hform⟩ := hr i l hl
    exact ⟨l', hl', huid.trans haccount.symm, by rw [hform, hrole], by rw [hform, hdata]⟩

/-- The user and the listener with whom `setUserData` goes on, as far as `φ` says. -/
def atListener (i : ℕ) (uid : Uid) (φ : Listener → Prop) (s : Session) : Prop :=
  s.currentUser = some uid ∧
    ∃ l, s.listeners[i]? = some l ∧ (s.logInType = "" ∨ isOwn s l) ∧ φ l

theorem spec_getUid (i : ℕ) : Spec listening ownNotifications
    (fun s => ∃ l, s.listeners[i]? = some l ∧ writesToOwn s l) getUid
    (fun uid => atListener i uid fun _ => True) fun _ _ => True := by
  refine .bind (R := fun user s => user = s.currentUser ∧
    ∃ l, s.listeners[i]? = some l ∧ writesToOwn s l) (.look fun s _ h => ⟨rfl, h⟩) fun user => ?_
  cases user with
  | none => exact .throw fun _ _ => trivial
  | some uid =>
    refine .pure fun s ⟨huser, l, hl, hown⟩ => ⟨huser.symm, l, hl, hown.resolve_left ?_, trivial⟩
    rw [← huser]
    exact Option.some_ne_none uid

theorem getElem?_setListener {s : Session} {i : ℕ} {l : Listener} (f : Listener → Listener)
    (hl : s.listeners[i]? = some l) : (s.setListener i f).listeners[i]? = some (f l) := by
  change (s.listeners.modify i f)[i]? = _
  rw [List.getElem?_modify, hl]
  simp

theorem spec_setId (i : ℕ) (uid : Uid) : Spec listening ownNotifications
    (atListener i uid fun _ => True)
    (change fun s => s.setListener i (setId uid) : AuthProgram Unit)
    (fun _ => atListener i uid fun l =>
      l.registerUser = l.form.set (idField l.form) (.text uid)) fun _ _ => True := by
  refine .change fun s hs ⟨huser, l, hl, hown, _⟩ => ?_
  have kept := keepsListeners_setListener s i (f := setId uid) fun _ => ⟨rfl, rfl⟩
  refine ⟨⟨fun l' hl' => ?_, fun w hw => ownData_later kept (hs.2 w hw)⟩, kept, huser, setId uid l,
    getElem?_setListener _ hl, hown, holdsForm_set (hs.1 l (List.mem_of_getElem? hl)) _⟩
  rcases mem_setListener hl' with hl' | ⟨l₀, hl₀, rfl⟩
  · exact hs.1 l' hl'
  · exact fun k hk => (congrFun (holdsForm_set (hs.1 l₀ hl₀) _) k).trans (Fields.set_of_ne hk)

theorem spec_checkCollection (i : ℕ) (collection : String) (uid : Uid) (data : Fields) :
    Spec listening ownNotifications (fun s => collection = s.logInType ∧
      atListener i uid (fun l => data = l.form.set (idField l.form) (.text uid)) s)
    (checkCollection collection) (fun _ => writesOwn i collection uid data) fun _ _ => True := by
  unfold checkCollection
  split
  case isTrue => exact .throw fun _ _ => trivial
  case isFalse hcollection =>
    refine .pure fun s ⟨hsame, huser, l, hl, hown, hdata⟩ => ?_
    have own : isOwn s l := hown.resolve_left (hsame ▸ hcollection)
    exact ⟨l, hl, hdata, Option.some_injective _ (huser.symm.trans own.1), hsame ▸ own.2⟩

theorem spec_setUserData (i : ℕ) : Spec listening ownNotifications
    (fun s => ∃ l, s.listeners[i]? = some l ∧ writesToOwn s l) (setUserData i)
    (fun _ _ => True) fun _ _ => True := by
  refine .tryCatch (F := fun _ _ => True) (.bind (spec_getUid i) fun uid =>
    .bind (spec_setId i uid) fun _ => .bind (R := fun data => atListener i uid fun l =>
      data = l.form.set (idField l.form) (.text uid)) (.look ?_) fun data => .bind
    (R := fun collection s => collection = s.logInType ∧
      atListener i uid (fun l => data = l.form.set (idField l.form) (.text uid)) s)
    (.look fun s _ h => ⟨rfl, h⟩) fun collection =>
    .bind (spec_checkCollection i collection uid data) fun _ =>
      spec_write i collection uid data) fun _ => .pure fun _ _ => trivial
  rintro s - ⟨huser, l, hl, hown, hdata⟩
  refine ⟨huser, l, hl, hown, ?_⟩
  rw [hl, Option.map_some, Option.getD_some, hdata]

theorem spec_authStateChanged (i : ℕ) : Spec listening ownNotifications
    (fun s => reachesOwn (.authStateChanged i) s = true) (authStateChanged i)
    (fun _ _ => True) fun _ _ => True := by
  refine .bind (R := fun user s => user ≠ none →
    ∃ l, s.listeners[i]? = some l ∧ writesToOwn s l) (.seg fun s hs hreach => ?_) fun user => ?_
  · have kept := keepsListeners_setListener s i (f := fun l => { l with pending := l.pending.tail })
      fun _ => ⟨rfl, rfl⟩
    refine ⟨⟨fun l hl => ?_, fun w hw => ownData_later kept (hs.2 w hw)⟩, kept, fun hnext => ?_⟩
    · rcases mem_setListener hl with hl | ⟨l₀, hl₀, rfl⟩
      · exact hs.1 l hl
      · exact hs.1 l₀ hl₀
    · cases hl : s.listeners[i]? with
      | none => exact absurd (by rw [hl]; rfl) hnext
      | some l =>
        refine ⟨_, getElem?_setListener _ hl, ?_⟩
        simp only [reachesOwn, hl, Option.all_some, decide_eq_true_eq] at hreach
        refine hreach.resolve_left fun hnone => hnext ?_
        rw [hl]
        exact hnone
  · cases user with
    | none => exact .pure fun _ _ => trivial
    | some _ =>
      refine .bind (R := fun _ s => ∃ l, s.listeners[i]? = some l ∧ writesToOwn s l)
        (.look fun s _ h => h (Option.some_ne_none _)) fun user => ?_
      cases user with
      | none => exact .pure fun _ _ => trivial
      | some _ =>
        refine .bind (.change fun s hs h => ?_) fun _ => spec_setUserData i
        obtain ⟨hi, hr⟩ := keeps_frame (f := fun s => { s with isLogin := true })
          (fun _ => rfl) (fun _ => rfl) s hs
        exact ⟨hi, hr, h⟩

theorem auth_safe (ids : IdSupply) (e : AuthEvent) (s : Session) (hs : listening.inv s)
    (he : ownNotifications.start e s) : (authHandler ids e).Safe listening ownNotifications s := by
  cases e with
  | chooseRole role =>
    have quiet : Quiet listening (authProgram ids (.chooseRole role)) :=
      .change (keeps_frame (fun _ => rfl) fun _ => rfl)
    exact quiet.safe hs
  | createAccount c => exact (quiet_createAccount ids c).safe hs
  | login email password => exact (quiet_login email password).safe hs
  | logout => exact quiet_logout.safe hs
  | deleteCurrentUser => exact quiet_deleteCurrentUser.safe hs
  | authStateChanged i => exact (spec_authStateChanged i).safe hs he

/-- As long as notifications of a sign-in reach only listeners that write to their own profile,
    every profile is written with the data of its own sign-up, under the role chosen then. -/
theorem profiles_written_own (ids : IdSupply) {s : Session} {w : Pool Session AuthAccess Unit}
    (hstart : s.listeners = [] ∧ s.profileWrites = [])
    (hrun : Run (authHandler ids) ownNotifications ⟨s, []⟩ w) : writesOwnData w.state := by
  have fresh : Pool.Safe listening ownNotifications (⟨s, []⟩ : Pool Session AuthAccess Unit) := by
    refine ⟨⟨fun l hl => ?_, fun x hx => ?_⟩, fun x hx => by cases hx⟩
    · rw [hstart.1] at hl
      cases hl
    · rw [hstart.2] at hx
      cases hx
  exact (hrun.safe (auth_safe ids) fresh).1.1.2

def palmFarm : CreateaccountController where
  email := "palms@mail.com"
  password := "secret"
  name := "Salem"
  farmName := "Palms"

def anotherSignsUp : List (Move AuthEvent) :=
  signsUp ++ through .logout ++ .start (.chooseRole .farmer) :: through (.createAccount palmFarm) ++
    .start (.authStateChanged 0) :: through (.authStateChanged 0)

theorem noura_written_own : writesOwnData (afterMoves signsUp).state :=
  profiles_written_own .longer ⟨rfl, rfl⟩ (Run.after (by decide +kernel) (by decide +kernel))

/-- Noura's data is written to the farmer's profile. -/
theorem written_to_another : ¬ ∀ (ids : IdSupply) (s : Session) (w : Pool Session AuthAccess Unit),
    s.listeners = [] ∧ s.profileWrites = [] → Run (authHandler ids) .free ⟨s, []⟩ w →
      writesOwnData w.state := by
  intro h
  have run : Run (authHandler .longer) .free ⟨{}, []⟩ (afterMoves anotherSignsUp) :=
    Run.after_free (by decide +kernel)
  let after : Session := (afterMoves anotherSignsUp).state
  have own : writesOwnData after := h .longer {} _ ⟨rfl, rfl⟩ run
  have foreign : after.profileWrites.any (fun w => (after.listeners[w.listener]?).all fun l =>
      l.form.get "username" = .text "Noura" ∧ l.form.get "userType" = .text "customer" ∧
        w.uid ≠ l.account ∧ w.collection = "farmer") = true := by decide +kernel
  obtain ⟨w, hw, hforeign⟩ := List.any_eq_true.1 foreign
  obtain ⟨l, hl, huid, -⟩ := own w hw
  rw [hl, Option.all_some] at hforeign
  exact (of_decide_eq_true hforeign).2.2.1 huid

end Gherass.Account
