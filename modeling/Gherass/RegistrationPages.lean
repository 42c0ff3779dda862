import Gherass.Accounts
import Gherass.FarmEvents

set_option autoImplicit false

/-!
# The pages of a registration

`login_type_selection_screen.dart`, the link of `login_widgets.dart` and the pages of
`createaccount_widgets.dart`. A farmer fills in two pages that are checked at different times, and
only the fields of the page on the screen can be changed.
-/
namespace Gherass.Account

open Gherass.Shop

inductive RegisterField where
  | email
  | password
  | name
  | id
  | phonenumber
  | farmName
  | farmLocation
  | farmCertificate
  | workingHours
  | farmDescription
  deriving DecidableEq

namespace RegisterField

def read (c : CreateaccountController) : RegisterField → String
  | email => c.email
  | password => c.password
  | name => c.name
  | id => c.residenceId
  | phonenumber => c.phonenumber
  | farmName => c.farmName
  | farmLocation => c.farmLocation
  | farmCertificate => c.farmCertificate
  | workingHours => c.workingHours
  | farmDescription => c.farmDescription

def write (text : String) (c : CreateaccountController) : RegisterField → CreateaccountController
  | email => { c with email := text }
  | password => { c with password := text }
  | name => { c with name := text }
  | id => { c with residenceId := text }
  | phonenumber => { c with phonenumber := text }
  | farmName => { c with farmName := text }
  | farmLocation => { c with farmLocation := text }
  | farmCertificate => { c with farmCertificate := text }
  | workingHours => { c with workingHours := text }
  | farmDescription => { c with farmDescription := text }

def message : RegisterField → String
  | email => "please enter valid email"
  | password => "Please enter password"
  | name => "Please enter your full name"
  | id => "ID or residence number"
  | phonenumber => "please enter your phone number"
  | farmName => "please enter Your Farm Name"
  | farmLocation => "Please enter your farm location"
  | farmCertificate => "please select certificate"
  | workingHours => "please enter working hours"
  | farmDescription => "Please enter your farms description"

/-- The key of `registerForm` that holds the field. -/
def key : RegisterField → String
  | email => "email"
  | password => "password"
  | name => "username"
  | id => "residenceId"
  | phonenumber => "phoneNumber"
  | farmName => "farmName"
  | farmLocation => "farmLocation"
  | farmCertificate => "farmCertificateName"
  | workingHours => "workingHour"
  | farmDescription => "farmDescription"

theorem read_write (c : CreateaccountController) (text : String) (f f' : RegisterField) :
    f'.read (f.write text c) = if f' = f then text else f'.read c := by
  cases f <;> cases f' <;> rfl

end RegisterField

/-- A `CreateaccountController` with its page. -/
structure RegistrationPage where
  createAccountType : String
  pageNumber : ℕ := 0
  form : CreateaccountController := {}
  errors : RegisterField → String := fun _ => ""

namespace RegistrationPage

variable (p : RegistrationPage)

def check (f : RegisterField) : RegistrationPage × Bool :=
  if f.read p.form = "" then
    ({ p with errors := Function.update p.errors f f.message }, false)
  else ({ p with errors := Function.update p.errors f "" }, true)

def validate : List RegisterField → RegistrationPage → RegistrationPage × Bool
  | [], p => (p, true)
  | f :: rest, p =>
    let checked := p.check f
    let others := validate rest checked.1
    (others.1, checked.2 && others.2)

def personalFields : List RegisterField := [.email, .name, .id, .phonenumber, .password]

def farmFields : List RegisterField :=
  [.farmName, .farmLocation, .farmCertificate, .workingHours, .farmDescription]

def customerFields : List RegisterField := [.email, .name, .phonenumber, .password]

def validationForPersonalInformation : RegistrationPage × Bool := validate personalFields p

def validationForFormInformation : RegistrationPage × Bool := validate farmFields p

def validationForCustomer : RegistrationPage × Bool := validate customerFields p

theorem check_form (f : RegisterField) : (p.check f).1.form = p.form := by
  unfold check
  split
  · rfl
  · rfl

theorem validate_same (fields : List RegisterField) : (validate fields p).1.form = p.form ∧
    (validate fields p).1.pageNumber = p.pageNumber ∧
    (validate fields p).1.createAccountType = p.createAccountType := by
  induction fields generalizing p with
  | nil => exact ⟨rfl, rfl, rfl⟩
  | cons f rest ih =>
    obtain ⟨hform, hpage, htype⟩ := ih (p.check f).1
    refine ⟨hform.trans (check_form p f), hpage.trans ?_, htype.trans ?_⟩
    · unfold check
      split
      · rfl
      · rfl
    · unfold check
      split
      · rfl
      · rfl

theorem validate_iff (fields : List RegisterField) :
    (validate fields p).2 = true ↔ ∀ f ∈ fields, f.read p.form ≠ "" := by
  induction fields generalizing p with
  | nil => exact ⟨fun _ _ h => (by cases h), fun _ => rfl⟩
  | cons f rest ih =>
    rw [validate, Bool.and_eq_true, ih, check_form, List.forall_mem_cons]
    refine and_congr_left fun _ => ?_
    unfold check
    split
    case isTrue h => exact ⟨fun hf => Bool.noConfusion hf, fun hf => absurd h hf⟩
    case isFalse h => exact ⟨fun _ => h, fun _ => rfl⟩

def typedFields : List RegisterField :=
  if p.createAccountType = "customer" then customerFields
  else if p.pageNumber = 1 then [.farmName, .farmLocation, .farmCertificate, .farmDescription]
  else personalFields

end RegistrationPage

inductive Screen where
  | selection
  | login
  | registration (page : RegistrationPage)

/-- What the device stores, its screen and what has been handed to `signUp`: the stored login
    type with the fields that were entered. -/
structure Desk where
  logInType : String := ""
  screen : Screen := .selection
  sent : List (String × CreateaccountController) := []

structure Placemark where
  subLocality : Option String
  locality : Option String
  administrativeArea : Option String
  country : Option String

/-- A text with each of the four, `null` where there is none. -/
def Placemark.text (place : Placemark) : String :=
  place.subLocality.getD "null" ++ "," ++ (place.locality.getD "null" ++ "," ++
    (place.administrativeArea.getD "null" ++ "," ++ place.country.getD "null"))

structure TimeOfDay where
  hour : ℕ
  minute : ℕ

/-- `DateFormat('HH:mm a')` -/
def TimeOfDay.format (t : TimeOfDay) : String :=
  twoDigits t.hour ++ ":" ++ twoDigits t.minute ++ (if t.hour < 12 then " AM" else " PM")

def formatTimeRange (startTime endTime : TimeOfDay) : String :=
  startTime.format ++ (" - " ++ endTime.format)

/-- The pickers and the geocoder answer when they have something. -/
inductive DeskEvent where
  | chooseRole (role : LogInType)
  | signUpLink
  | back
  | typeText (field : RegisterField) (text : String)
  | pickImage (base64Image : String)
  | pickFile (name : String) (base64File : Option String)
  | pickTime (startTime endTime : TimeOfDay)
  | pickLocation (lat lng : Value)
  | geocoded (place : Placemark)
  | switchAccountType (business : Bool)
  | next
  | confirm
  | create

namespace RegistrationPage

variable (p : RegistrationPage)

def fill : DeskEvent → RegistrationPage
  | .typeText field text =>
    if field ∈ p.typedFields then { p with form := field.write text p.form } else p
  | .pickImage base64Image => { p with form := { p.form with base64Image := base64Image } }
  | .pickFile name base64File =>
    if p.createAccountType ≠ "customer" ∧ p.pageNumber = 1 then
      let picked := { p.form with base64File := base64File.getD p.form.base64File }
      { p with form := RegisterField.farmCertificate.write name picked }
    else p
  | .pickTime startTime endTime =>
    { p with form := RegisterField.workingHours.write (formatTimeRange startTime endTime) p.form }
  | .pickLocation lat lng => { p with form := { p.form with lat := lat, lng := lng } }
  | .geocoded place => { p with form := RegisterField.farmLocation.write place.text p.form }
  | .switchAccountType business =>
    { p with form := { p.form with
        customerAccountType := if business then "Business account" else "Personal account" } }
  | .next =>
    if p.createAccountType ≠ "customer" ∧ p.pageNumber ≠ 1 then
      let checked := p.validationForPersonalInformation
      if checked.2 then { checked.1 with pageNumber := 1 } else checked.1
    else p
  | _ => p

end RegistrationPage

namespace Desk

variable (d : Desk)

/-- `createAccount`, up to the call of `signUp` -/
def createAccount (p : RegistrationPage) : Desk :=
  { d with
    screen := .registration { p with createAccountType := d.logInType }
    sent := d.sent ++ [(d.logInType, p.form)] }

def press (p : RegistrationPage) : DeskEvent → Desk
  | .confirm =>
    if p.createAccountType ≠ "customer" ∧ p.pageNumber = 1 then
      let checked := p.validationForFormInformation
      if checked.2 then d.createAccount { checked.1 with pageNumber := 1 }
      else { d with screen := .registration checked.1 }
    else d
  | .create =>
    if p.createAccountType = "customer" then
      let checked := p.validationForCustomer
      if checked.2 then d.createAccount checked.1 else { d with screen := .registration checked.1 }
    else d
  | .back => { d with screen := .login }
  | e => { d with screen := .registration (p.fill e) }

def step (e : DeskEvent) : Desk :=
  match d.screen with
  | .selection =>
    match e with
    | .chooseRole role => { d with logInType := roleText role, screen := .login }
    | _ => d
  | .login =>
    match e with
    -- there is no link for a driver
    | .signUpLink =>
      if d.logInType = "driver" then d
      else if d.logInType = "farmer" then { d with screen := .registration { createAccountType := "" } }
      else { d with screen := .registration { createAccountType := "customer" } }
    | .back => { d with screen := .selection }
    | _ => d
  | .registration p => d.press p e

end Desk

def requiredFields (logInType : String) : List RegisterField :=
  if logInType = "farmer" then RegistrationPage.personalFields ++ RegistrationPage.farmFields
  else RegistrationPage.customerFields

def FilledIn (logInType : String) (c : CreateaccountController) : Prop :=
  (logInType = "farmer" ∨ logInType = "customer") ∧ ∀ f ∈ requiredFields logInType, f.read c ≠ ""

instance (logInType : String) (c : CreateaccountController) : Decidable (FilledIn logInType c) :=
  inferInstanceAs (Decidable (_ ∧ _))

/-- The page on the screen is the stored role's, and the first page of a farmer's has been filled
    in before the second one is shown. -/
def PageInOrder (logInType : String) (p : RegistrationPage) : Prop :=
  logInType = "customer" ∧ p.createAccountType = "customer" ∨
    logInType = "farmer" ∧ p.createAccountType ≠ "customer" ∧
      (p.pageNumber = 1 → ∀ f ∈ RegistrationPage.personalFields, f.read p.form ≠ "")

structure DeskInOrder (d : Desk) : Prop where
  sent : ∀ r ∈ d.sent, FilledIn r.1 r.2
  login : d.screen = .login → ∃ role, d.logInType = roleText role
  page : ∀ p, d.screen = .registration p → PageInOrder d.logInType p

theorem PageInOrder.later {logInType : String} {p p' : RegistrationPage}
    (h : PageInOrder logInType p) (htype : p'.createAccountType = p.createAccountType)
    (hpage : p'.pageNumber = p.pageNumber)
    (hform : p.createAccountType = "customer" ∨ p.pageNumber ≠ 1 ∨
      ∀ f ∈ RegistrationPage.personalFields, f.read p'.form = f.read p.form) :
    PageInOrder logInType p' := by
  rcases h with ⟨hrole, hp⟩ | ⟨hrole, hp, hfilled⟩
  · exact .inl ⟨hrole, htype.trans hp⟩
  · refine .inr ⟨hrole, fun h => hp (htype.symm.trans h), fun hone f hf => ?_⟩
    rw [hpage] at hone
    rcases hform with hcustomer | hother | hsame
    · exact absurd hcustomer hp
    · exact absurd hone hother
    · rw [hsame f hf]
      exact hfilled hone f hf

theorem PageInOrder.write {logInType : String} {p : RegistrationPage}
    (h : PageInOrder logInType p) {f : RegisterField} (hf : f ∉ RegistrationPage.personalFields)
    (text : String) {c : CreateaccountController} (hc : ∀ f' : RegisterField, f'.read c = f'.read p.form) :
    PageInOrder logInType { p with form := f.write text c } := by
  refine h.later rfl rfl (.inr (.inr fun f' hf' => ?_))
  have hne : f' ≠ f := by
    rintro rfl
    exact hf hf'
  rw [RegisterField.read_write, if_neg hne, hc]

theorem PageInOrder.typeText {logInType : String} {p : RegistrationPage}
    (h : PageInOrder logInType p) {field : RegisterField} (hshown : field ∈ p.typedFields)
    (text : String) : PageInOrder logInType { p with form := field.write text p.form } := by
  by_cases hp : p.createAccountType = "customer"
  · exact h.later rfl rfl (.inl hp)
  · by_cases hone : p.pageNumber = 1
    · refine h.write (fun hpersonal => ?_) text fun _ => rfl
      rw [RegistrationPage.typedFields, if_neg hp, if_pos hone] at hshown
      revert hpersonal hshown
      cases field <;> decide
    · exact h.later rfl rfl (.inr (.inl hone))

theorem PageInOrder.next {logInType : String} {p : RegistrationPage}
    (h : PageInOrder logInType p) : PageInOrder logInType (p.fill .next) := by
  unfold RegistrationPage.fill
  dsimp only
  split
  case isFalse => exact h
  case isTrue hfirst =>
  obtain ⟨hform, hpage, htype⟩ := p.validate_same RegistrationPage.personalFields
  split
  case isFalse => exact h.later htype hpage (.inr (.inl hfirst.2))
  case isTrue hvalid =>
    rcases h with ⟨_, hp⟩ | ⟨hrole, hp, _⟩
    · exact absurd hp hfirst.1
    · refine .inr ⟨hrole, fun h => hp (htype.symm.trans h), fun _ f hf => ?_⟩
      have hread : f.read p.form ≠ "" := (p.validate_iff _).1 hvalid f hf
      exact hform ▸ hread

theorem PageInOrder.fill {logInType : String} {p : RegistrationPage}
    (h : PageInOrder logInType p) (e : DeskEvent) : PageInOrder logInType (p.fill e) := by
  cases e with
  | typeText field text =>
    unfold RegistrationPage.fill
    dsimp only
    split
    case isFalse => exact h
    case isTrue hshown => exact h.typeText hshown text
  | pickFile name base64File =>
    unfold RegistrationPage.fill
    dsimp only
    split
    · exact h.write (by decide) name fun f => by cases f <;> rfl
    · exact h
  | pickTime startTime endTime =>
    exact h.write (by decide) (formatTimeRange startTime endTime) fun _ => rfl
  | geocoded place => exact h.write (by decide) place.text fun _ => rfl
  | pickImage | pickLocation | switchAccountType =>
    exact h.later rfl rfl (.inr (.inr fun f _ => by cases f <;> rfl))
  | next => exact h.next
  | chooseRole | signUpLink | back | confirm | create => exact h

theorem DeskInOrder.createAccount {d : Desk} (h : DeskInOrder d) {p : RegistrationPage}
    (hp : PageInOrder d.logInType p) (hfilled : FilledIn d.logInType p.form) :
    DeskInOrder (d.createAccount p) := by
  refine ⟨fun r hr => ?_, fun hlogin => (by cases hlogin), fun p' hp' => ?_⟩
  · rcases List.mem_append.1 hr with hr | hr
    · exact h.sent r hr
    · obtain rfl := List.mem_singleton.1 hr
      exact hfilled
  · obtain rfl : _ = p' := Screen.registration.inj hp'
    rcases hp with ⟨hrole, hp⟩ | ⟨hrole, hp, hpersonal⟩
    · exact .inl ⟨hrole, hrole⟩
    · refine .inr ⟨hrole, fun hcustomer => ?_, hpersonal⟩
      have hboth : ("farmer" : String) = "customer" := hrole.symm.trans hcustomer
      exact absurd hboth (by decide)

theorem DeskInOrder.show {d : Desk} (h : DeskInOrder d) {p : RegistrationPage}
    (hp : PageInOrder d.logInType p) : DeskInOrder { d with screen := .registration p } :=
  ⟨h.sent, fun hlogin => (by cases hlogin), fun p' hp' => Screen.registration.inj hp' ▸ hp⟩

theorem DeskInOrder.press {d : Desk} (h : DeskInOrder d) {p : RegistrationPage}
    (hscreen : d.screen = .registration p) (e : DeskEvent) : DeskInOrder (d.press p e) := by
  have hp := h.page p hscreen
  cases e with
  | confirm =>
    unfold Desk.press
    dsimp only
    split
    case isFalse => exact h
    case isTrue hshown =>
    obtain ⟨hform, hpage, htype⟩ := p.validate_same RegistrationPage.farmFields
    rcases hp with ⟨_, hcustomer⟩ | ⟨hrole, hfarm, hpersonal⟩
    · exact absurd hcustomer hshown.1
    have hfirst := hpersonal hshown.2
    have checked : PageInOrder d.logInType p.validationForFormInformation.1 := .inr
      ⟨hrole, fun h => hfarm (htype.symm.trans h), fun _ f hf => hform ▸ hfirst f hf⟩
    split
    case isFalse => exact h.show checked
    case isTrue hvalid =>
      have hsecond := (p.validate_iff _).1 hvalid
      have shown : PageInOrder d.logInType
          { p.validationForFormInformation.1 with pageNumber := 1 } := .inr
        ⟨hrole, fun h => hfarm (htype.symm.trans h), fun _ f hf => hform ▸ hfirst f hf⟩
      refine h.createAccount shown ⟨.inl hrole, fun f hf => ?_⟩
      rw [requiredFields, if_pos hrole] at hf
      rw [show f.read p.validationForFormInformation.1.form = f.read p.form from
        congrArg (f.read ·) hform]
      exact (List.mem_append.1 hf).elim (hfirst f) (hsecond f)
  | create =>
    unfold Desk.press
    dsimp only
    split
    case isFalse => exact h
    case isTrue hshown =>
    obtain ⟨hform, hpage, htype⟩ := p.validate_same RegistrationPage.customerFields
    rcases hp with ⟨hrole, hcustomer⟩ | ⟨_, hfarm, _⟩
    swap
    · exact absurd hshown hfarm
    have checked : PageInOrder d.logInType p.validationForCustomer.1 :=
      .inl ⟨hrole, htype.trans hcustomer⟩
    split
    case isFalse => exact h.show checked
    case isTrue hvalid =>
      refine h.createAccount checked ⟨.inr hrole, fun f hf => ?_⟩
      have hfarmer : d.logInType ≠ "farmer" := by
        rw [hrole]
        decide
      rw [requiredFields, if_neg hfarmer] at hf
      rw [show f.read p.validationForCustomer.1.form = f.read p.form from
        congrArg (f.read ·) hform]
      exact (p.validate_iff _).1 hvalid f hf
  | back =>
    refine ⟨h.sent, fun _ => ?_, fun p' hp' => (by cases hp')⟩
    rcases hp with ⟨hrole, -⟩ | ⟨hrole, -⟩
    · exact ⟨.customer, hrole⟩
    · exact ⟨.farmer, hrole⟩
  | chooseRole | signUpLink => exact h.show (hp.fill _)
  | typeText | pickImage | pickFile | pickTime | pickLocation | geocoded | switchAccountType | next =>
    exact h.show (hp.fill _)

theorem DeskInOrder.step {d : Desk} (h : DeskInOrder d) (e : DeskEvent) :
    DeskInOrder (d.step e) := by
  unfold Desk.step
  split
  · split
    · rename_i role
      exact ⟨h.sent, fun _ => ⟨role, rfl⟩, fun p hp => (by cases hp)⟩
    · exact h
  · rename_i hscreen
    split
    · split
      case isTrue => exact h
      case isFalse hdriver =>
      obtain ⟨role, hrole⟩ := h.login hscreen
      split
      case isTrue hfarmer =>
        exact h.show (.inr ⟨hfarmer, by decide, fun hone => absurd hone (by decide)⟩)
      case isFalse hfarmer =>
        cases role with
        | farmer => exact absurd hrole hfarmer
        | driver => exact absurd hrole hdriver
        | customer => exact h.show (.inl ⟨hrole, rfl⟩)
    · exact ⟨h.sent, fun hlogin => (by cases hlogin), fun p hp => (by cases hp)⟩
    · exact h
  · rename_i p hscreen
    exact h.press hscreen e

theorem DeskInOrder.run {d : Desk} (h : DeskInOrder d) (events : List DeskEvent) :
    DeskInOrder (events.foldl Desk.step d) := by
  induction events generalizing d with
  | nil => exact h
  | cons e events ih => exact ih (h.step e)

theorem registerForm_key {logInType : String} {c : CreateaccountController}
    (hrole : logInType = "farmer" ∨ logInType = "customer") {f : RegisterField}
    (hf : f ∈ requiredFields logInType) :
    (c.registerForm logInType).get f.key = .text (f.read c) := by
  rcases hrole with rfl | rfl
  · cases f <;> rfl
  · revert hf
    cases f <;> first | exact fun _ => rfl | exact fun hf => absurd hf (by decide)

/-- Whatever is pressed, typed and picked, what reaches the sign-up is a farmer's or a customer's
    map without an empty required field. -/
theorem sent_complete (events : List DeskEvent) :
    ∀ r ∈ (events.foldl Desk.step {}).sent, (r.1 = "farmer" ∨ r.1 = "customer") ∧
      ∀ f ∈ requiredFields r.1, ∃ text, text ≠ "" ∧
        (r.2.registerForm r.1).get f.key = .text text := by
  have opened : DeskInOrder {} :=
    ⟨fun r hr => (by cases hr), fun hlogin => (by cases hlogin), fun p hp => (by cases hp)⟩
  intro r hr
  obtain ⟨hrole, hfilled⟩ := (opened.run events).sent r hr
  exact ⟨hrole, fun f hf => ⟨f.read r.2, hfilled f hf, registerForm_key hrole hf⟩⟩

def nouraRegisters : List DeskEvent :=
  [.chooseRole .customer, .signUpLink, .create, .typeText .email noura.email,
    .typeText .password noura.password, .typeText .name noura.name,
    .typeText .phonenumber "0551234567", .switchAccountType false, .create]

theorem sent_complete_noura : ("customer" = "farmer" ∨ "customer" = "customer") ∧
    ∀ f ∈ requiredFields "customer", ∃ text, text ≠ "" ∧
      ({ noura with phonenumber := "0551234567" }.registerForm "customer").get f.key = .text text :=
  sent_complete nouraRegisters ("customer", { noura with phonenumber := "0551234567" })
    (List.mem_singleton.2 rfl)

end Gherass.Account
