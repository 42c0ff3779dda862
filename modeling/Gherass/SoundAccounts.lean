import Gherass.EmailRules
import Gherass.RegistrationPages

set_option autoImplicit false

/-!
# What an account is made of

The e-mail address of every account and of every profile that a sign-up leads to has the form that
`signUp` asks for, and no profile holds a password or an empty field that its role has to fill in.
-/
namespace Gherass.Account

open EventLoop EventLoop.Async Gherass.Shop Gherass.Account.FirebaseHelper

/-- A map that a sign-up has checked and taken the password out of. -/
structure CheckedData (data : Fields) : Prop where
  email : ∃ email, data.get "email" = .text email ∧ email.toList ∈ emailRegex.matches'
  password : data "password" = none

/-- The accounts are sound, and `P` is true of the map of every listener and profile. -/
structure SoundAccounts (P : Fields → Prop) (s : Session) : Prop where
  checked : ∀ a ∈ s.accounts, a.email.toList ∈ emailRegex.matches' ∧ 6 ≤ textLength a.password
  emails : (s.accounts.map (·.email)).Nodup
  uids : (s.accounts.map (·.uid)).Nodup
  used : ∀ a ∈ s.accounts, a.uid.val ∈ s.uids
  listeners : ∀ l ∈ s.listeners, P l.registerUser
  profiles : ∀ collection uid data, s.profiles collection uid = some data → P data

def sound (P : Fields → Prop) : Contract Session AuthAccess where
  inv := SoundAccounts P
  rel _ _ := True
  shows _ _ := True
  refl _ := trivial
  trans _ _ := trivial

def KeptBySetId (P : Fields → Prop) : Prop := ∀ data v, P data → P (data.set (idField data) v)

theorem idField_reverse (userData : Fields) :
    ∃ rest, (idField userData).toList.reverse = 'd' :: 'I' :: rest := by
  refine ⟨(((userData.get "userType").toText?.getD "null").toList).reverse, ?_⟩
  rw [idField, String.toList_append, List.reverse_append]
  rfl

theorem checkedData_setId : KeptBySetId CheckedData := by
  intro data v h
  obtain ⟨rest, hrest⟩ := idField_reverse data
  have hemail : "email" ≠ idField data := fun e => by
    rw [← e] at hrest
    cases hrest
  have hpassword : "password" ≠ idField data := fun e => by
    rw [← e] at hrest
    cases hrest
  obtain ⟨email, hget, hmatch⟩ := h.email
  exact ⟨⟨email, by rw [Fields.get_congr (Fields.set_of_ne hemail), hget], hmatch⟩,
    by rw [Fields.set_of_ne hpassword, h.password]⟩

variable {P : Fields → Prop}

theorem sound_frame {f : Session → Session} (ha : ∀ s, (f s).accounts = s.accounts)
    (hu : ∀ s, (f s).uids = s.uids)
    (hl : ∀ s, ∀ l ∈ (f s).listeners, ∃ l' ∈ s.listeners, l.registerUser = l'.registerUser)
    (hp : ∀ s, (f s).profiles = s.profiles) : (sound P).Keeps f := by
  refine fun s hs => ⟨?_, trivial⟩
  refine ⟨ha s ▸ hs.checked, ha s ▸ hs.emails, ha s ▸ hs.uids, ?_, fun l hmem => ?_,
    hp s ▸ hs.profiles⟩
  · rw [ha, hu]
    exact hs.used
  · obtain ⟨l', hl', hsame⟩ := hl s l hmem
    exact hsame ▸ hs.listeners l' hl'

theorem sound_same {f : Session → Session} (ha : ∀ s, (f s).accounts = s.accounts)
    (hu : ∀ s, (f s).uids = s.uids) (hl : ∀ s, (f s).listeners = s.listeners)
    (hp : ∀ s, (f s).profiles = s.profiles) : (sound P).Keeps f :=
  sound_frame ha hu (fun s l hmem => ⟨l, hl s ▸ hmem, rfl⟩) hp

theorem sound_setUser (user : Option Uid) : (sound P).Keeps fun s => s.setUser user := by
  refine sound_frame (fun _ => rfl) (fun _ => rfl) (fun s l hmem => ?_) fun _ => rfl
  obtain ⟨l', hl', rfl⟩ := List.mem_map.1 hmem
  exact ⟨l', hl', rfl⟩

theorem sound_createUser (ids : IdSupply) {email password : String}
    (hemail : email.toList ∈ emailRegex.matches') (hpassword : 6 ≤ textLength password) :
    (sound P).Keeps fun s => (createUserWithEmailAndPassword ids email password s).1 := by
  intro s hs
  dsimp only [createUserWithEmailAndPassword]
  split
  case isTrue => exact (sound P).keeps_id s hs
  case isFalse hfree =>
  refine sound_setUser _ _ ⟨fun a hmem => ?_, ?_, ?_, fun a hmem => ?_, hs.listeners, hs.profiles⟩
  · rcases List.mem_cons.1 hmem with rfl | hmem
    · exact ⟨hemail, hpassword⟩
    · exact hs.checked a hmem
  · refine List.nodup_cons.2 ⟨fun hmem => hfree ?_, hs.emails⟩
    obtain ⟨a, ha, rfl⟩ := List.mem_map.1 hmem
    exact List.any_eq_true.2 ⟨a, ha, decide_eq_true rfl⟩
  · refine List.nodup_cons.2 ⟨fun hmem => ?_, hs.uids⟩
    obtain ⟨a, ha, hsame⟩ := List.mem_map.1 hmem
    have used := hs.used a ha
    rw [hsame] at used
    exact ids.fresh _ _ used
  · rcases List.mem_cons.1 hmem with rfl | hmem
    · exact List.mem_cons_self
    · exact List.mem_cons_of_mem _ (hs.used a hmem)

theorem sound_deleteUser (uid : Uid) : (sound P).Keeps fun s => (deleteUser uid s).1 := by
  intro s hs
  have hsub : (s.accounts.filter fun a => a.uid ≠ uid).Sublist s.accounts := List.filter_sublist
  have deleted : SoundAccounts P { s with accounts := s.accounts.filter fun a => a.uid ≠ uid } :=
    ⟨fun a hmem => hs.checked a (hsub.subset hmem), hs.emails.sublist (hsub.map _),
      hs.uids.sublist (hsub.map _), fun a hmem => hs.used a (hsub.subset hmem), hs.listeners,
      hs.profiles⟩
  dsimp only [deleteUser]
  split
  · exact sound_setUser none _ deleted
  · exact ⟨deleted, trivial⟩

theorem sound_setProfile (collection : String) (uid : Uid) (data : Option Fields)
    (hdata : ∀ d ∈ data, P d) : (sound P).Keeps fun s => s.setProfile collection uid data := by
  refine fun s hs => ⟨⟨hs.checked, hs.emails, hs.uids, hs.used, hs.listeners, ?_⟩, trivial⟩
  intro c i d hd
  simp only [Session.setProfile, Function.update_apply] at hd
  split at hd
  case isFalse => exact hs.profiles c i d hd
  case isTrue hc =>
    subst hc
    simp only [Function.update_apply] at hd
    split at hd
    case isTrue => exact hdata d hd
    case isFalse => exact hs.profiles c i d hd

variable {g : Guard Session AuthAccess AuthEvent}

theorem spec_credentials (registerUser : Fields) :
    Spec (sound P) g (fun _ => True) (credentials registerUser)
      (fun entered _ => (entered.1.toList ∈ emailRegex.matches' ∧ 6 ≤ textLength entered.2 ∧
        registerUser.get "email" = .text entered.1) ∧ True) fun _ _ => True := by
  unfold credentials
  split
  case h_2 => exact .throw fun _ _ => trivial
  rename_i email hemail
  split
  case isFalse => exact .throw fun _ _ => trivial
  case isTrue hmatch =>
  split
  case h_2 => exact .throw fun _ _ => trivial
  rename_i password hpassword
  split
  case isTrue => exact .throw fun _ _ => trivial
  case isFalse hlength =>
    exact .pure fun _ _ => ⟨⟨emailMatches_iff.1 hmatch, not_lt.1 hlength, hemail⟩, trivial⟩

theorem spec_createAccount (ids : IdSupply) (c : CreateaccountController) {R : String → Prop}
    (hsign : ∀ logInType email, R logInType →
      (c.registerForm logInType).get "email" = .text email →
      email.toList ∈ emailRegex.matches' → P ((c.registerForm logInType).without ["password"])) :
    Spec (sound P) g (fun s => R s.logInType) (c.createAccount ids) (fun _ _ => True)
      fun _ _ => True := by
  refine .bind (R := fun logInType _ => R logInType ∧ True) (.look fun s _ h => ⟨h, trivial⟩)
    fun logInType => .given fun hrole => .tryCatch (F := fun _ _ => True)
      (.bind (spec_credentials _) fun entered => .given ?_) fun e => ?_
  · rintro ⟨hmatch, hlength, hget⟩
    refine .bind (R := fun _ _ => True) (Quiet.spec (.call (sound_createUser ids hmatch hlength)
      fun _ _ => trivial)) fun account => Quiet.spec (.change ?_)
    refine fun s hs => ⟨⟨hs.checked, hs.emails, hs.uids, hs.used, fun l hl => ?_, hs.profiles⟩,
      trivial⟩
    rcases List.mem_append.1 hl with hl | hl
    · exact hs.listeners l hl
    · obtain rfl := List.mem_singleton.1 hl
      exact hsign logInType entered.1 hrole hget hmatch
  · split
    · exact .throw fun _ _ => trivial
    · exact .throw fun _ _ => trivial

theorem sound_readProfile (uid : Uid) : Quiet (sound P) (readProfile uid) := by
  refine .bind (.look _) fun collection => .bind ?_ fun _ =>
    .call (sound P).keeps_id fun _ _ => trivial
  unfold checkCollection
  split
  · exact .throw _
  · exact .pure ()

theorem sound_login (email password : String) : Quiet (sound P) (login email password) := by
  have hsign : (sound P).Keeps fun s => (signInWithEmailAndPassword email password s).1 := by
    intro s hs
    dsimp only [signInWithEmailAndPassword]
    cases s.account? email password with
    | ok uid => exact sound_setUser (some uid) s hs
    | error e => exact (sound P).keeps_id s hs
  refine .tryCatch (.bind (.call hsign fun _ _ => trivial) fun signedIn => .bind ?_ fun loginType =>
    .bind ?_ fun isUid => .bind (.look _) fun logInType => ?_) fun e => ?_
  · refine .tryCatch (.bind (sound_readProfile _) fun userDoc => ?_) fun _ => .pure none
    split
    · exact .pure _
    · exact .pure none
  · exact .tryCatch (.bind (sound_readProfile _) fun _ => .pure _) fun _ => .pure false
  · split
    · exact .bind (.note fun _ _ => trivial) fun _ =>
        .change (sound_same (fun _ => rfl) (fun _ => rfl) (fun _ => rfl) fun _ => rfl)
    · exact .pure ()
  · split
    · exact .throw _
    · exact .throw _

theorem sound_logout : Quiet (sound P) logout :=
  .bind (.call (sound_setUser none) fun _ _ => trivial) fun _ =>
    .change (sound_same (fun _ => rfl) (fun _ => rfl) (fun _ => rfl) fun _ => rfl)

theorem sound_deleteCurrentUser : Quiet (sound P) deleteCurrentUser := by
  have loggedOut : Quiet (sound P) (change fun s => { s with isLogin := false } : AuthProgram Unit) :=
    .change (sound_same (fun _ => rfl) (fun _ => rfl) (fun _ => rfl) fun _ => rfl)
  refine .bind (.look _) fun collection => .bind ?_ fun _ => .bind ?_ fun uid =>
    .bind (.call (fun s hs => ?_) fun _ _ => trivial) fun _ => .bind (.look _) fun user => ?_
  · unfold checkCollection
    split
    · exact .throw _
    · exact .pure ()
  · refine .bind (.look _) fun user => ?_
    cases user with
    | some uid => exact .pure uid
    | none => exact .throw _
  · have kept := (sound_setProfile collection uid none (fun _ h => by cases h) s hs).1
    exact ⟨⟨kept.checked, kept.emails, kept.uids, kept.used, kept.listeners, kept.profiles⟩, trivial⟩
  · cases user with
    | some uid => exact .bind (.call (sound_deleteUser uid) fun _ _ => trivial) fun _ => loggedOut
    | none => exact loggedOut

def Listens (i : ℕ) (s : Session) : Prop := ∃ l, s.listeners[i]? = some l

theorem sound_setListener {s : Session} (hs : SoundAccounts P s) (i : ℕ) {f : Listener → Listener}
    (hf : ∀ l, P l.registerUser → P (f l).registerUser) :
    SoundAccounts P (s.setListener i f) := by
  refine ⟨hs.checked, hs.emails, hs.uids, hs.used, fun l hl => ?_, hs.profiles⟩
  rcases mem_setListener hl with hl | ⟨l', hl', rfl⟩
  · exact hs.listeners l hl
  · exact hf l' (hs.listeners l' hl')

theorem spec_getUser (i : ℕ) :
    Spec (sound P) g (Listens i) getUid (fun _ => Listens i) fun _ _ => True := by
  refine .bind (R := fun _ => Listens i) (.look fun _ _ h => h) fun user => ?_
  cases user with
  | some uid => exact .pure fun _ h => h
  | none => exact .throw fun _ _ => trivial

theorem sound_setUserData (hP : KeptBySetId P) (i : ℕ) :
    Spec (sound P) g (Listens i) (setUserData i) (fun _ _ => True) fun _ _ => True := by
  refine .tryCatch (F := fun _ _ => True) (.bind (spec_getUser i) fun uid =>
    .bind (R := fun _ => Listens i) (.change fun s hs ⟨l, hl⟩ => ?_) fun _ =>
      .bind (R := fun data _ => P data ∧ True) (.look fun s hs ⟨l, hl⟩ => ?_)
        fun data => .given fun hdata => ?_) fun _ => .pure fun _ _ => trivial
  · exact ⟨sound_setListener hs i fun l h => hP l.registerUser _ h, trivial, setId uid l,
      getElem?_setListener _ hl⟩
  · rw [hl]
    exact ⟨hs.listeners l (List.mem_of_getElem? hl), trivial⟩
  · refine Quiet.spec (.bind (.look _) fun collection => .bind ?_ fun _ =>
      .call (fun s hs => ?_) fun _ _ => trivial)
    · unfold checkCollection
      split
      · exact .throw _
      · exact .pure ()
    · have kept := (sound_setProfile collection uid (some data)
        (fun d hd => Option.some.inj hd ▸ hdata) s hs).1
      exact ⟨⟨kept.checked, kept.emails, kept.uids, kept.used, kept.listeners, kept.profiles⟩,
        trivial⟩

theorem sound_authStateChanged (hP : KeptBySetId P) (i : ℕ) :
    Spec (sound P) g (fun _ => True) (authStateChanged i) (fun _ _ => True) fun _ _ => True := by
  refine .bind (R := fun user s => user ≠ none → Listens i s) (.seg fun s hs _ => ?_) fun user => ?_
  · refine ⟨sound_setListener hs i fun _ h => h, trivial, fun hnext => ?_⟩
    cases hl : s.listeners[i]? with
    | none => exact absurd (by rw [hl]; rfl) hnext
    | some l => exact ⟨_, getElem?_setListener _ hl⟩
  · cases user with
    | none => exact .pure fun _ _ => trivial
    | some _ =>
      refine .bind (R := fun _ => Listens i) (.look fun s _ h => h (Option.some_ne_none _))
        fun user => ?_
      cases user with
      | none => exact .pure fun _ _ => trivial
      | some _ =>
        refine .bind (R := fun _ => Listens i) (.change fun s hs h => ⟨?_, trivial, h⟩)
          fun _ => sound_setUserData hP i
        exact (sound_same (f := fun s => { s with isLogin := true }) (fun _ => rfl) (fun _ => rfl)
          (fun _ => rfl) (fun _ => rfl) s hs).1

theorem sound_handler (hP : KeptBySetId P) (ids : IdSupply) (e : AuthEvent) (s : Session)
    (hs : SoundAccounts P s)
    (hsign : ∀ c email, e = .createAccount c →
      (c.registerForm s.logInType).get "email" = .text email →
      email.toList ∈ emailRegex.matches' → P ((c.registerForm s.logInType).without ["password"])) :
    (authHandler ids e).Safe (sound P) g s := by
  cases e with
  | chooseRole role =>
    have quiet : Quiet (sound P) (authProgram ids (.chooseRole role)) :=
      .change (sound_same (fun _ => rfl) (fun _ => rfl) (fun _ => rfl) fun _ => rfl)
    exact quiet.safe hs
  | createAccount c =>
    refine (spec_createAccount ids c (R := (· = s.logInType)) ?_).safe hs rfl
    rintro _ email rfl
    exact hsign c email rfl
  | login email password => exact (sound_login email password).safe hs
  | logout => exact sound_logout.safe hs
  | deleteCurrentUser => exact sound_deleteCurrentUser.safe hs
  | authStateChanged i => exact (sound_authStateChanged hP i).safe hs trivial

/-- In every run, accounts have checked e-mail addresses of their own and passwords that are long
    enough, and what is written into profiles has such an address and no password. -/
theorem accounts_sound {ids : IdSupply} {u v : Pool Session AuthAccess Unit} (hu : u.slots = [])
    (hstart : SoundAccounts CheckedData u.state) (hrun : Run (authHandler ids) .free u v) :
    SoundAccounts CheckedData v.state := by
  have start : u.Safe (sound CheckedData) (.free : Guard _ _ AuthEvent) := ⟨hstart, fun x hx => by
    rw [hu] at hx
    cases hx⟩
  refine (hrun.safe (fun e s hs _ => ?_) start).1.1
  refine sound_handler checkedData_setId ids e s hs fun c email _ hget hmatch => ?_
  exact ⟨⟨email, by rw [Fields.get_congr (Fields.without_of_not_mem (by decide)), hget], hmatch⟩,
    Fields.without_of_mem List.mem_cons_self⟩

theorem soundAccounts_empty {P : Fields → Prop} : SoundAccounts P {} :=
  ⟨fun _ h => (by cases h), List.nodup_nil, List.nodup_nil, fun _ h => (by cases h),
    fun _ h => (by cases h), fun _ _ _ h => (by cases h)⟩

theorem accounts_sound_noura : SoundAccounts CheckedData (afterMoves signsUp).state :=
  @accounts_sound .longer ⟨{}, []⟩ _ rfl soundAccounts_empty (.after_free (by decide +kernel))

/-- The map of a farmer or a customer without an empty required field. -/
def FilledData (data : Fields) : Prop :=
  ∃ userType, (userType = "farmer" ∨ userType = "customer") ∧
    data.get "userType" = .text userType ∧
    ∀ f ∈ requiredFields userType, f ≠ .password → ∃ text, text ≠ "" ∧ data.get f.key = .text text

theorem filledData_setId : KeptBySetId FilledData := by
  rintro data v ⟨userType, hrole, htype, hfilled⟩
  have hid : idField data = userType ++ "Id" := by rw [idField, htype]; rfl
  have other {k : String} (hk : k ≠ idField data) : (data.set (idField data) v).get k = data.get k :=
    Fields.get_congr (Fields.set_of_ne hk)
  refine ⟨userType, hrole, ?_, fun f hf hne => ?_⟩
  · rw [other, htype]
    rw [hid]
    rcases hrole with rfl | rfl
    · decide
    · decide
  · rw [other]
    · exact hfilled f hf hne
    · rw [hid]
      rcases hrole with rfl | rfl
      · cases f <;> decide
      · cases f <;> decide

theorem filledData_registerForm {logInType : String} {c : CreateaccountController}
    (h : FilledIn logInType c) : FilledData ((c.registerForm logInType).without ["password"]) := by
  obtain ⟨hrole, hfilled⟩ := h
  have other {k : String} (hk : k ≠ "password") : ((c.registerForm logInType).without
      ["password"]).get k = (c.registerForm logInType).get k :=
    Fields.get_congr (Fields.without_of_not_mem fun h => hk (List.mem_singleton.1 h))
  refine ⟨logInType, hrole, ?_, fun f hf hne => ⟨f.read c, hfilled f hf, ?_⟩⟩
  · rw [other (by decide)]
    rcases hrole with rfl | rfl
    · rfl
    · rfl
  · rw [other, registerForm_key hrole hf]
    revert hne
    cases f <;> decide

/-- An account is only created from a form that the stored role has filled in. -/
def fromFilledForms : Guard Session AuthAccess AuthEvent := .computed
  (fun e s => match e with | .createAccount c => FilledIn s.logInType c | _ => true)
  (fun _ _ => true) fun _ _ => true

instance : fromFilledForms.Checks := inferInstanceAs (Guard.computed _ _ _).Checks

def nouraWithPhone : CreateaccountController := { noura with phonenumber := "0551234567" }

def signsUpFilledIn : List (Move AuthEvent) :=
  .start (.chooseRole .customer) :: through (.createAccount nouraWithPhone) ++
    through (.authStateChanged 0)

end Gherass.Account
