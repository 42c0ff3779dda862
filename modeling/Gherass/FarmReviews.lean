import Gherass.EventLoopLedger
import Gherass.FarmRatings
import Gherass.Marketplace
import Mathlib.Algebra.GroupWithZero.Nat
import Mathlib.Algebra.Ring.Int.Defs
import Mathlib.Data.Int.ConditionallyCompleteOrder
import Mathlib.Order.ConditionallyCompleteLattice.Indexed

set_option autoImplicit false

/-!
# Reviews and the farm's rating

Whoever looks at a farm works out its average from the reviews just read and writes it into the
farm's document, and so does whoever has sent a review.
-/
namespace Gherass.Reviews

open EventLoop EventLoop.Async

structure Review where
  reviewText : String := ""
  rating : ℚ
  name : String := ""
  deriving DecidableEq

/-- A document of `farmer`, as far as the pages read it. -/
structure FarmerDoc where
  farmName : Option String := none
  farmRatings : Option Ratings.Double := none
  deriving DecidableEq

/-- `ProductController` of `product_contoller.dart`, as far as it shows and sends reviews. -/
structure ProductController where
  device : Device
  farmerId : Uid
  farmerName : String := ""
  farmRating : Ratings.Double := some 0
  farmerRatings : List Review := []
  selectedStars : ℕ := 0
  comment : String := ""

/-- The reviews of a farm stand in the order in which they were added. -/
structure ReviewWorld where
  reviews : Uid → List (String × Review) := fun _ => []
  farmers : Uid → Option FarmerDoc := fun _ => none
  usernames : LogInType → Uid → Option String := fun _ _ => none
  pages : ℕ → Option ProductController := fun _ => none
  inventories : Device → Ratings.InventoryController := fun _ => {}
  autoIds : ℕ := 0

inductive ReviewAccess where
  | plain
  | addReview (farmerId : Uid)
  | setRating (farmerId : Uid) (results : List ℚ)
  deriving DecidableEq

abbrev ReviewProgram (α : Type) := EventLoop.Async ReviewWorld ReviewAccess DartError Bool α

namespace ReviewWorld

def stored (w : ReviewWorld) (farmerId : Uid) : List Review :=
  ((w.reviews farmerId).insertionSort fun a b => a.1 ≤ b.1).map (·.2)

def setPage (w : ReviewWorld) (p : ℕ) (f : ProductController → ProductController) :
    ReviewWorld :=
  { w with pages := Function.update w.pages p ((w.pages p).map f) }

end ReviewWorld

def averageOf (results : List ℚ) : Ratings.Double :=
  (Ratings.ProductController.getFarmerRatings results {}).farmRatings

def get {α : Type} (f : ReviewWorld → α) : ReviewProgram α :=
  call .plain (fun w => (w, .ok (f w))) .firestore

def fetchFarmerRatings (farmerId : Uid) : ReviewProgram (List Review) := do
  try
    get fun w => w.stored farmerId
  catch _ => pure []

def addReview (ids : IdSupply) (farmerId : Uid) (reviewData : Review) (w : ReviewWorld) :
    ReviewWorld × Except DartError Unit :=
  let id := ids.newId w.autoIds ((w.reviews farmerId).map (·.1))
  ({ w with
      reviews := Function.update w.reviews farmerId (w.reviews farmerId ++ [(id, reviewData)])
      autoIds := w.autoIds + 1 }, .ok ())

def postFarmerReview (ids : IdSupply) (farmerId : Uid) (reviewData : Review) :
    ReviewProgram Unit := do
  try
    call (.addReview farmerId) (addReview ids farmerId reviewData) .firestore
  catch _ => pure ()

/-- The server's part of `update` on a farmer's document. -/
def setRating (farmerId : Uid) (rating : Ratings.Double) (w : ReviewWorld) :
    ReviewWorld × Except DartError Unit :=
  match w.farmers farmerId with
  | some doc =>
    ({ w with
        farmers := Function.update w.farmers farmerId (some { doc with farmRatings := some rating }) },
      .ok ())
  | none => (w, .error .firestore)

/-- `results` are the ratings that the new average was worked out from. -/
def updateUserData (farmerId : Uid) (results : List ℚ) : ReviewProgram Unit := do
  try
    call (.setRating farmerId results) (setRating farmerId (averageOf results)) .firestore
  catch _ => pure ()

def getCurrentUserInfoById (uid : Uid) (logInType : LogInType) : ReviewProgram (Option String) := do
  try
    get fun w => w.usernames logInType uid
  catch _ => pure none

def fetchDetailsById (farmerId : Uid) : ReviewProgram (Option FarmerDoc) := do
  try
    get fun w => w.farmers farmerId
  catch _ => pure none

variable (ids : IdSupply) (p : ℕ) (farmerId : Uid)

def setPage (f : ProductController → ProductController) : ReviewProgram Unit :=
  change fun w => w.setPage p f

def fetchFarmDetails : ReviewProgram Unit := do
  match ← fetchDetailsById farmerId with
  | some results =>
    setPage p fun c =>
      { c with
        farmerName := results.farmName.getD "null"
        farmRating := results.farmRatings.getD (some 0) }
  | none => pure ()

def getFarmerRatings : ReviewProgram Unit := do
  let results ← fetchFarmerRatings farmerId
  setPage p fun c => { c with farmerRatings := results }
  updateUserData farmerId (results.map (·.rating))
  spawn (fetchFarmDetails p farmerId)

def postFarmerRatings (d : Device) : ReviewProgram Unit := do
  let userName ← getCurrentUserInfoById d.uid d.logInType
  match ← look fun w => w.pages p with
  | some c =>
    postFarmerReview ids farmerId
      { reviewText := c.comment, rating := c.selectedStars, name := userName.getD "" }
    spawn (getFarmerRatings p farmerId)
  | none => pure ()

/-- `onInit`, with what the page before knew of the farm -/
def openFarm (d : Device) (farmName : String) (farmRating : Option Ratings.Double) :
    ReviewProgram Unit := do
  let opened ← seg fun w =>
    match w.pages p with
    | some _ => (w, false)
    | none =>
      ({ w with
          pages := Function.update w.pages p (some
            { device := d
              farmerId := farmerId
              farmerName := farmName
              farmRating := farmRating.getD (some 0) }) }, true)
  if opened then spawn (getFarmerRatings p farmerId) else pure ()

def getOwnRatings (d : Device) : ReviewProgram Unit := do
  try
    let _ ← getCurrentUserInfoById d.uid d.logInType
    let results ← fetchFarmerRatings d.uid
    change fun w =>
      { w with
        inventories := Function.update w.inventories d
          ((w.inventories d).getFarmerRatings (results.map (·.rating))) }
  catch _ => pure ()

inductive ReviewEvent where
  | openFarm (page : ℕ) (d : Device) (farmerId : Uid) (farmName : String)
      (farmRating : Option Ratings.Double)
  | tapStar (page index : ℕ)
  | typeComment (page : ℕ) (text : String)
  | send (page : ℕ)
  | openInventory (d : Device)

def program : ReviewEvent → ReviewProgram Unit
  | .openFarm page d farmerId farmName farmRating => openFarm page farmerId d farmName farmRating
  | .tapStar page index =>
    if index < 5 then setPage page fun c => { c with selectedStars := index + 1 } else pure ()
  | .typeComment page text => setPage page fun c => { c with comment := text }
  | .send page => do
    match ← look fun w => w.pages page with
    | some c => postFarmerRatings ids page c.farmerId c.device
    | none => pure ()
  | .openInventory d => getOwnRatings d

def handler (e : ReviewEvent) : Task ReviewWorld ReviewAccess Bool := (program ids e).task

abbrev Reviewing := Pool ReviewWorld ReviewAccess Bool

theorem addRatings_perm {l l' : List ℚ} (h : l.Perm l') :
    Ratings.addRatings l = Ratings.addRatings l' :=
  h.foldl_eq' (fun _ _ _ _ _ => add_right_comm ..) 0

theorem averageOf_perm {l l' : List ℚ} (h : l.Perm l') : averageOf l = averageOf l' := by
  simp only [averageOf, Ratings.ProductController.getFarmerRatings, addRatings_perm h,
    h.length_eq]

theorem averageOf_bounds {l : List ℚ} (h : ∀ rating ∈ l, 0 ≤ rating ∧ rating ≤ 5) :
    ∃ x, averageOf l = some x ∧ 0 ≤ x ∧ x ≤ 5 := by
  unfold averageOf Ratings.ProductController.getFarmerRatings
  split
  case isTrue hsum =>
    have hne : l ≠ [] := fun hnil => hsum (by rw [hnil]; rfl)
    obtain ⟨average, hlow, hhigh, hdivide⟩ := Ratings.divide_bounds h hne
    obtain ⟨low, high⟩ := Ratings.toFixedOne_bounds hlow hhigh
    exact ⟨_, by rw [hdivide]; rfl, low, high⟩
  case isFalse => exact ⟨0, rfl, le_rfl, by norm_num⟩

def ReviewWorld.firstAverage (w : ReviewWorld) (farmerId : Uid) (n : ℕ) : Ratings.Double :=
  averageOf (((w.reviews farmerId).take n).map (·.2.rating))

/-- The rating in a farm's document is the one that was there before, or the average of the
    first reviews, as many as there were when they were read. -/
def RatingOf (before : Option FarmerDoc) (w : ReviewWorld) (farmerId : Uid)
    (doc : FarmerDoc) : Prop :=
  ∃ doc₀, before = some doc₀ ∧ doc.farmName = doc₀.farmName ∧
    (doc.farmRatings = doc₀.farmRatings ∨
      ∃ n ≤ (w.reviews farmerId).length, doc.farmRatings = some (w.firstAverage farmerId n))

/-- Stars, and the ratings made of them, lie between 0 and 5. -/
structure InRange (w : ReviewWorld) : Prop where
  reviews : ∀ farmerId, ∀ r ∈ w.reviews farmerId, 0 ≤ r.2.rating ∧ r.2.rating ≤ 5
  stars : ∀ p c, w.pages p = some c → c.selectedStars ≤ 5

def history (before : Uid → Option FarmerDoc) : Contract ReviewWorld ReviewAccess where
  inv s := InRange s ∧ ∀ farmerId doc, s.farmers farmerId = some doc →
    RatingOf (before farmerId) s farmerId doc
  rel s t := ∀ farmerId, s.reviews farmerId <+: t.reviews farmerId
  shows _ _ := True
  refl _ _ := List.prefix_refl _
  trans h h' farmerId := (h farmerId).trans (h' farmerId)

theorem firstAverage_later {s t : ReviewWorld} {farmerId : Uid} {n : ℕ}
    (h : s.reviews farmerId <+: t.reviews farmerId) (hn : n ≤ (s.reviews farmerId).length) :
    t.firstAverage farmerId n = s.firstAverage farmerId n := by
  obtain ⟨rest, hrest⟩ := h
  rw [ReviewWorld.firstAverage, ← hrest, List.take_append_of_le_length hn]
  rfl

variable {before : Uid → Option FarmerDoc}

theorem keeps_pages {f : ReviewWorld → ReviewWorld} (hr : ∀ s, (f s).reviews = s.reviews)
    (hf : ∀ s, (f s).farmers = s.farmers)
    (hs : ∀ s, InRange s → ∀ p c, (f s).pages p = some c → c.selectedStars ≤ 5) :
    (history before).Keeps f := by
  rintro s ⟨hrange, hdocs⟩
  refine ⟨⟨⟨by rw [hr]; exact hrange.reviews, hs s hrange⟩, ?_⟩, fun farmerId => ?_⟩
  · intro farmerId doc hdoc
    rw [hf] at hdoc
    simpa only [RatingOf, ReviewWorld.firstAverage, hr] using hdocs farmerId doc hdoc
  · rw [hr]

theorem quiet_get {α : Type} (f : ReviewWorld → α) : Quiet (history before) (get f) :=
  .call (history before).keeps_id fun _ _ => trivial

theorem quiet_setPage {f : ProductController → ProductController}
    (hf : ∀ c, c.selectedStars ≤ 5 → (f c).selectedStars ≤ 5) :
    Quiet (history before) (setPage p f) := by
  refine .change (keeps_pages (fun _ => rfl) (fun _ => rfl) fun s hs q c hc => ?_)
  simp only [ReviewWorld.setPage, Function.update_apply] at hc
  split at hc
  case isTrue =>
    obtain ⟨c', hc', rfl⟩ := Option.map_eq_some_iff.1 hc
    exact hf c' (hs.stars p c' hc')
  case isFalse => exact hs.stars q c hc

theorem quiet_fetchFarmDetails : Quiet (history before) (fetchFarmDetails p farmerId) := by
  refine .bind (.tryCatch (quiet_get _) fun _ => .pure _) fun r => ?_
  cases r with
  | some results => exact quiet_setPage p fun _ h => h
  | none => exact .pure _

def ReadFrom (farmerId : Uid) (results : List Review) (s : ReviewWorld) : Prop :=
  ∃ n ≤ (s.reviews farmerId).length,
    (results.map (·.rating)).Perm (((s.reviews farmerId).take n).map (·.2.rating))

theorem ReadFrom.later {farmerId : Uid} {results : List Review} {s t : ReviewWorld}
    (hr : (history before).rel s t) (h : ReadFrom farmerId results s) :
    ReadFrom farmerId results t := by
  obtain ⟨n, hn, hperm⟩ := h
  obtain ⟨rest, hrest⟩ := hr farmerId
  refine ⟨n, ?_, ?_⟩
  · rw [← hrest, List.length_append]
    omega
  · rwa [← hrest, List.take_append_of_le_length hn]

theorem readFrom_stored (s : ReviewWorld) (farmerId : Uid) :
    ReadFrom farmerId (s.stored farmerId) s := by
  refine ⟨_, le_rfl, ?_⟩
  rw [List.take_length, ReviewWorld.stored, List.map_map]
  exact (List.perm_insertionSort _ _).map _

theorem spec_fetchFarmerRatings {g : Guard ReviewWorld ReviewAccess ReviewEvent} :
    Spec (history before) g (fun _ => True) (fetchFarmerRatings farmerId) (ReadFrom farmerId)
      fun _ _ => True := by
  refine .tryCatch (F := fun _ _ => True) (.call (fun s t _ _ ht _ _ => ?_)
    fun _ _ _ _ _ _ _ _ _ _ => trivial) fun _ => .pure fun s _ => ?_
  · exact ⟨trivial, ht, (history before).refl t, fun u _ hr =>
      (readFrom_stored t farmerId).later hr⟩
  · exact ⟨0, Nat.zero_le _, by simp⟩

theorem keeps_setRating {farmerId : Uid} {results : List Review} {t : ReviewWorld}
    (ht : (history before).inv t) (hread : ReadFrom farmerId results t) :
    (history before).inv (setRating farmerId (averageOf (results.map (·.rating))) t).1 ∧
      (history before).rel t (setRating farmerId (averageOf (results.map (·.rating))) t).1 := by
  unfold setRating
  split
  case h_2 => exact ⟨ht, (history before).refl t⟩
  rename_i doc hdoc
  refine ⟨⟨⟨ht.1.reviews, ht.1.stars⟩, fun i d hd => ?_⟩, fun _ => List.prefix_refl _⟩
  simp only [Function.update_apply] at hd
  split at hd
  case isFalse => exact ht.2 i d hd
  case isTrue hi =>
    subst hi
    obtain rfl := Option.some.inj hd
    obtain ⟨doc₀, hbefore, hname, -⟩ := ht.2 i doc hdoc
    obtain ⟨n, hn, hperm⟩ := hread
    exact ⟨doc₀, hbefore, hname, .inr ⟨n, hn, congrArg some (averageOf_perm hperm)⟩⟩

variable {g : Guard ReviewWorld ReviewAccess ReviewEvent}

theorem spec_getFarmerRatings :
    Spec (history before) g (fun _ => True) (getFarmerRatings p farmerId) (fun _ _ => True)
      fun _ _ => True := by
  refine .bind (spec_fetchFarmerRatings farmerId) fun results => ?_
  have shows : Quiet (history before) (setPage p fun c => { c with farmerRatings := results }) :=
    quiet_setPage p fun _ h => h
  have page : Spec (history before) g (ReadFrom farmerId results)
      (setPage p fun c => { c with farmerRatings := results }) (fun _ => ReadFrom farmerId results)
      fun _ _ => True :=
    (shows.spec.keeping (fun _ h => h) fun _ _ hr h => ReadFrom.later hr h).weaken (fun _ h => h)
      (fun _ _ h => h.2) fun _ _ h => h
  refine .bind page fun _ => .bind (R := fun _ _ => True) (.tryCatch (F := fun _ _ => True)
    (.call (fun s t _ hread ht hr _ => ?_) fun _ _ _ _ _ _ _ _ _ _ => trivial)
      fun _ => .pure fun _ _ => trivial) fun _ =>
        Quiet.spec (.spawn (quiet_fetchFarmDetails p farmerId))
  obtain ⟨hi, hrel⟩ := keeps_setRating ht (hread.later hr)
  exact ⟨trivial, hi, hrel, fun u _ _ => by split <;> trivial⟩

theorem keeps_addReview {review : Review} (hlow : 0 ≤ review.rating) (hhigh : review.rating ≤ 5) :
    (history before).Keeps fun w => (addReview ids farmerId review w).1 := by
  rintro s ⟨hrange, hdocs⟩
  have grows : (history before).rel s (addReview ids farmerId review s).1 := by
    intro i
    simp only [addReview, Function.update_apply]
    split
    case isTrue hi => exact hi ▸ List.prefix_append _ _
    case isFalse => exact List.prefix_refl _
  refine ⟨⟨⟨fun i r hr => ?_, hrange.stars⟩, fun i doc hdoc => ?_⟩, grows⟩
  · simp only [addReview, Function.update_apply] at hr
    split at hr
    case isFalse => exact hrange.reviews i r hr
    case isTrue hi =>
      rcases List.mem_append.1 hr with hr | hr
      · exact hrange.reviews farmerId r hr
      · obtain rfl := List.mem_singleton.1 hr
        exact ⟨hlow, hhigh⟩
  · obtain ⟨doc₀, hbefore, hname, hrating⟩ := hdocs i doc hdoc
    refine ⟨doc₀, hbefore, hname, hrating.imp_right ?_⟩
    rintro ⟨n, hn, hrating⟩
    refine ⟨n, hn.trans (grows i).length_le, ?_⟩
    rw [firstAverage_later (grows i) hn, hrating]

theorem spec_postFarmerRatings (d : Device) :
    Spec (history before) g (fun _ => True) (postFarmerRatings ids p farmerId d) (fun _ _ => True)
      fun _ _ => True := by
  refine .bind (R := fun _ _ => True) (Quiet.spec (.tryCatch (quiet_get _) fun _ => .pure _))
    fun userName => .bind (R := fun c _ => ∀ c', c = some c' → c'.selectedStars ≤ 5)
      (.look fun s hs _ c' hc => hs.1.stars p c' hc) fun c => ?_
  cases c with
  | none => exact .pure fun _ _ => trivial
  | some c =>
  refine .bind (R := fun _ _ => True) (.tryCatch (F := fun _ _ => True)
    (.call (fun s t _ hstars ht hr _ => ?_) fun _ _ _ _ _ _ _ _ _ _ => trivial)
      fun _ => .pure fun _ _ => trivial) fun _ => .spawn (fun s hs _ =>
        (spec_getFarmerRatings p farmerId).safe hs trivial) fun _ _ _ _ _ => trivial
  have hhigh : ((c.selectedStars : ℕ) : ℚ) ≤ 5 := by exact_mod_cast hstars c rfl
  have hlow : (0 : ℚ) ≤ (c.selectedStars : ℕ) := Nat.cast_nonneg _
  obtain ⟨hi, hrel⟩ := (keeps_addReview ids farmerId hlow hhigh :
    (history before).Keeps fun w =>
      (addReview ids farmerId ⟨c.comment, c.selectedStars, userName.getD ""⟩ w).1) t ht
  exact ⟨trivial, hi, hrel, fun _ _ _ => trivial⟩

theorem spec_openFarm (d : Device) (farmName : String) (farmRating : Option Ratings.Double) :
    Spec (history before) g (fun _ => True) (openFarm p farmerId d farmName farmRating)
      (fun _ _ => True) fun _ _ => True := by
  have opened : (history before).Keeps fun w => (match w.pages p with
      | some _ => (w, false)
      | none => ({ w with
          pages := Function.update w.pages p (some
            { device := d
              farmerId := farmerId
              farmerName := farmName
              farmRating := farmRating.getD (some 0) }) }, true) : ReviewWorld × Bool).1 := by
    refine keeps_pages (fun s => ?_) (fun s => ?_) fun s hs q c hc => ?_
    · cases s.pages p <;> rfl
    · cases s.pages p <;> rfl
    · cases hpage : s.pages p with
      | some c' =>
        rw [hpage] at hc
        exact hs.stars q c hc
      | none =>
        rw [hpage] at hc
        simp only [Function.update_apply] at hc
        split at hc
        case isTrue =>
          obtain rfl := Option.some.inj hc
          exact Nat.zero_le 5
        case isFalse => exact hs.stars q c hc
  refine .bind (R := fun _ _ => True) (Quiet.spec (.seg opened)) fun fresh => ?_
  split
  · exact .spawn (fun s hs _ => (spec_getFarmerRatings p farmerId).safe hs trivial)
      fun _ _ _ _ _ => trivial
  · exact .pure fun _ _ => trivial

theorem handler_safe (e : ReviewEvent) (s : ReviewWorld) (hs : (history before).inv s) :
    (handler ids e).Safe (history before) g s := by
  cases e with
  | openFarm page d farmerId farmName farmRating =>
    exact (spec_openFarm page farmerId d farmName farmRating).safe hs trivial
  | tapStar page index =>
    have tapped : Quiet (history before) (program ids (.tapStar page index)) := by
      by_cases h : index < 5
      · simp only [program, h, if_true]
        exact quiet_setPage page fun _ _ => h
      · simp only [program, h, if_false]
        exact .pure _
    exact tapped.safe hs
  | typeComment page text =>
    have typed : Quiet (history before) (program ids (.typeComment page text)) :=
      quiet_setPage page fun _ h => h
    exact typed.safe hs
  | send page =>
    have sent : Spec (history before) g (fun _ => True) (program ids (.send page))
        (fun _ _ => True) fun _ _ => True := by
      refine .bind (R := fun _ _ => True) (.look fun _ _ _ => trivial) fun c => ?_
      cases c with
      | some c => exact spec_postFarmerRatings ids page c.farmerId c.device
      | none => exact .pure fun _ _ => trivial
    exact sent.safe hs trivial
  | openInventory d =>
    have name : Quiet (history before) (getCurrentUserInfoById d.uid d.logInType) :=
      .tryCatch (quiet_get _) fun _ => .pure _
    have read : Quiet (history before) (fetchFarmerRatings d.uid) :=
      .tryCatch (quiet_get _) fun _ => .pure _
    have whole : Quiet (history before) (getOwnRatings d) :=
      .tryCatch (.bind name fun _ => .bind read fun _ =>
        .change (keeps_pages (fun _ => rfl) (fun _ => rfl) fun s hs => hs.stars)) fun _ => .pure _
    exact Quiet.safe whole hs

/-- Whatever is sent and read at the same time, no review is lost, and a rating that is new in a
    farm's document is the average of the first so many reviews, between 0 and 5. -/
theorem reviews_kept {ids : IdSupply} {u v : Reviewing} (hu : u.slots = [])
    (hrange : InRange u.state) (huv : Run (handler ids) .free u v) (farmerId : Uid) :
    u.state.reviews farmerId <+: v.state.reviews farmerId ∧
      ∀ doc, v.state.farmers farmerId = some doc → ∃ doc₀,
        u.state.farmers farmerId = some doc₀ ∧ doc.farmName = doc₀.farmName ∧
          (doc.farmRatings = doc₀.farmRatings ∨ ∃ n x, doc.farmRatings = some (some x) ∧
            v.state.firstAverage farmerId n = some x ∧ 0 ≤ x ∧ x ≤ 5) := by
  have start : u.Safe (history u.state.farmers) (.free : Guard _ _ ReviewEvent) :=
    ⟨⟨hrange, fun i doc hdoc => ⟨doc, hdoc, rfl, .inl rfl⟩⟩, fun x hx => by
      rw [hu] at hx
      cases hx⟩
  obtain ⟨⟨⟨hv, hdocs⟩, -⟩, hgrows⟩ :=
    huv.safe (fun e s hs (_ : Guard.free.start e s) => handler_safe ids e s hs) start
  refine ⟨hgrows farmerId, fun doc hdoc => ?_⟩
  obtain ⟨doc₀, hbefore, hname, hrating⟩ := hdocs farmerId doc hdoc
  refine ⟨doc₀, hbefore, hname, hrating.imp_right ?_⟩
  rintro ⟨n, -, hrating⟩
  obtain ⟨x, hx, hlow, hhigh⟩ := averageOf_bounds
    (l := ((v.state.reviews farmerId).take n).map (·.2.rating)) fun rating hmem => by
      obtain ⟨r, hr, rfl⟩ := List.mem_map.1 hmem
      exact hv.reviews farmerId r (List.mem_of_mem_take hr)
  exact ⟨n, x, by rw [hrating, ReviewWorld.firstAverage, hx], hx, hlow, hhigh⟩

theorem inRange_empty {w : ReviewWorld} (hr : ∀ farmerId, w.reviews farmerId = [])
    (hp : ∀ p, w.pages p = none) : InRange w where
  reviews farmerId r h := by
    rw [hr] at h
    cases h
  stars p c h := by
    rw [hp] at h
    cases h

def reviewedFarm : ReviewWorld where
  farmers f := if f = aFarmer.uid then some {} else none
  usernames _ _ := some "customer"

def sendsReview : List (Move ReviewEvent) :=
  [.start (.openFarm 0 aCustomer aFarmer.uid "Farm" none), .serve 0, .resume 0, .serve 0, .resume 0,
    .serve 0, .resume 0, .start (.tapStar 0 3), .start (.send 0), .serve 0, .resume 0, .serve 0,
    .resume 0, .serve 0, .resume 0, .serve 0, .resume 0, .serve 0, .resume 0]

def afterReview : Reviewing :=
  Pool.after (handler IdSupply.longer) ⟨reviewedFarm, []⟩ sendsReview

theorem reviews_kept_sent : reviewedFarm.reviews aFarmer.uid <+:
      afterReview.state.reviews aFarmer.uid ∧
    ∀ doc, afterReview.state.farmers aFarmer.uid = some doc → ∃ doc₀,
      reviewedFarm.farmers aFarmer.uid = some doc₀ ∧ doc.farmName = doc₀.farmName ∧
        (doc.farmRatings = doc₀.farmRatings ∨ ∃ n x, doc.farmRatings = some (some x) ∧
          afterReview.state.firstAverage aFarmer.uid n = some x ∧ 0 ≤ x ∧ x ≤ 5) :=
  reviews_kept (u := ⟨reviewedFarm, []⟩) rfl (inRange_empty (fun _ => rfl) fun _ => rfl)
    (.after_free (by decide +kernel)) aFarmer.uid

/-- What every page would show of a farm is the average of its reviews. -/
def ShowsAverage (w : ReviewWorld) (farmerId : Uid) : Prop :=
  ∃ doc, w.farmers farmerId = some doc ∧
    doc.farmRatings.getD (some 0) = averageOf ((w.stored farmerId).map (·.rating))

def upToDate : ReviewAccess → ReviewWorld → Bool
  | .setRating farmerId results, w => results = (w.stored farmerId).map (·.rating)
  | _, _ => true

def averageLedger (farmerId : Uid) : Ledger ReviewWorld ReviewEvent ℤ where
  charge _ := 0
  inv s paid := (∃ doc, s.farmers farmerId = some doc) ∧ paid ≤ 0 ∧
    (paid = 0 → ShowsAverage s farmerId)
  rel _ _ := True
  limit m := m ≤ 0
  refl _ := trivial
  trans _ _ := trivial
  limit_le := le_trans
  limit_charge _ h := by rwa [add_zero]

def sameFarm (farmerId : Uid) : Contract ReviewWorld ReviewAccess :=
  .ofFrame fun w => (w.reviews farmerId, w.farmers farmerId)

variable {farm : Uid}

theorem averageLedger_covers : (averageLedger farm).Covers (sameFarm farm) where
  inv _ _ _ := trivial
  paid s t q hr _ hs := by
    obtain ⟨hreviews, hfarmers⟩ := Prod.mk.inj hr
    refine ⟨hfarmers ▸ hs.1, hs.2.1, fun hq => ?_⟩
    simpa only [ShowsAverage, ReviewWorld.stored, hreviews, hfarmers] using hs.2.2 hq
  rel _ _ _ := trivial

def owedTo (farm farmerId : Uid) : ℤ := if farmerId = farm then 1 else 0

theorem owedTo_nonneg (farmerId : Uid) : 0 ≤ owedTo farm farmerId := by
  unfold owedTo
  split
  · omega
  · omega

section Pays

variable {E : DartError → ℤ → ReviewWorld → Prop}

abbrev onTime : Guard ReviewWorld ReviewAccess ReviewEvent := .lossless upToDate

theorem still {f : ReviewWorld → ReviewWorld} (hr : ∀ s, (f s).reviews = s.reviews)
    (hf : ∀ s, (f s).farmers = s.farmers) : (sameFarm farm).Keeps f := fun s _ =>
  ⟨trivial, by
    change ((f s).reviews farm, (f s).farmers farm) = _
    rw [hr, hf]⟩

theorem still_get {α : Type} (f : ReviewWorld → α) : Quiet (sameFarm farm) (get f) :=
  .call (sameFarm farm).keeps_id fun _ _ => trivial

theorem still_setPage (f : ProductController → ProductController) :
    Quiet (sameFarm farm) (setPage p f) := .change (still (fun _ => rfl) fun _ => rfl)

theorem still_fetchFarmDetails : Quiet (sameFarm farm) (fetchFarmDetails p farmerId) := by
  refine .bind (.tryCatch (still_get _) fun _ => .pure _) fun r => ?_
  cases r with
  | some results => exact still_setPage p _
  | none => exact .pure _

theorem averageOf_written {farmerId : Uid} {w : ReviewWorld} {doc : FarmerDoc}
    (h : w.farmers farmerId = some doc) (rating : Ratings.Double) :
    (setRating farmerId rating w).1.farmers farmerId = some { doc with farmRatings := some rating } ∧
      (setRating farmerId rating w).1.reviews = w.reviews := by
  rw [setRating, h]
  exact ⟨Function.update_self .., rfl⟩

theorem setRating_other {farmerId : Uid} (hne : farmerId ≠ farm) (rating : Ratings.Double) :
    (sameFarm farm).Keeps fun w => (setRating farmerId rating w).1 := by
  intro s _
  refine ⟨trivial, ?_⟩
  change ((setRating farmerId rating s).1.reviews farm, (setRating farmerId rating s).1.farmers farm) =
    (s.reviews farm, s.farmers farm)
  unfold setRating
  split
  · exact Prod.ext rfl (Function.update_of_ne (Ne.symm hne) ..)
  · rfl

theorem pays_getFarmerRatings (n : ℤ) (hn : n = 0 ∨ n = owedTo farm farmerId) :
    Pays (averageLedger farm) onTime (fun a _ => a = n) (getFarmerRatings p farmerId)
      (fun _ a _ => a = 0) fun _ a _ => a = 0 := by
  have quiet {m : ReviewProgram Unit} (h : Quiet (sameFarm farm) m) (b : ℤ) :
      Pays (averageLedger farm) onTime (fun a _ => a = b) m (fun _ a _ => a = b)
        fun _ a _ => a = b := h.owes averageLedger_covers b
  have read : Pays (averageLedger farm) onTime (fun a _ => a = n) (fetchFarmerRatings farmerId)
      (fun _ a _ => a = n) fun _ a _ => a = 0 :=
    .tryCatch (F := fun _ a _ => a = n) ((still_get _).owes averageLedger_covers n)
      fun _ => .pure fun _ _ h => h
  refine .bind read fun results => .bind (R := fun _ a _ => a = n) ?_ fun _ =>
    .bind (R := fun _ a _ => a = 0) ?_ fun _ => quiet (.spawn (still_fetchFarmDetails p farmerId)) 0
  · -- a page is changed without an exception
    exact .change fun a s q hs _ ha hp => by
      obtain ⟨hi, hr⟩ := (still (fun _ => rfl) fun _ => rfl : (sameFarm farm).Keeps fun w =>
        w.setPage p fun c => { c with farmerRatings := results }) s trivial
      refine ⟨a, ha, ?_, trivial, hp⟩
      rw [add_sub_cancel_right]
      exact averageLedger_covers.paid s _ q hr hi hs
  · refine .tryCatch (F := fun _ a _ => a = 0) (.call ?_ fun _ _ _ _ _ _ _ h _ _ => h.elim)
      fun _ => .pure fun _ _ h => h
    rintro a s t q rfl ha ⟨⟨doc, hdoc⟩, hq, hshow⟩ hlimit - hguard
    by_cases hfarm : farmerId = farm
    · subst hfarm
      obtain ⟨hwritten, hreviews⟩ := averageOf_written hdoc (averageOf (results.map (·.rating)))
      have hcurrent : results.map (·.rating) = (t.stored farmerId).map (·.rating) :=
        of_decide_eq_true hguard
      refine ⟨0, le_rfl, ⟨⟨_, hwritten⟩, ?_, fun _ => ⟨_, hwritten, ?_⟩⟩, trivial, fun u r _ _ => ?_⟩
      · rw [sub_zero]
        exact hlimit
      · rw [ReviewWorld.stored, hreviews, Option.getD_some, hcurrent]
        rfl
      · split
        · rfl
        · rfl
    · have hzero : a = 0 := hn.elim id fun h => h.trans (if_neg hfarm)
      obtain ⟨hi, hr⟩ := setRating_other hfarm (averageOf (results.map (·.rating))) t trivial
      refine ⟨0, le_rfl, ?_, trivial, fun u r _ _ => ?_⟩
      · rw [hzero, add_zero, sub_zero]
        exact averageLedger_covers.paid t _ q hr hi ⟨⟨doc, hdoc⟩, hq, hshow⟩
      · split
        · rfl
        · rfl

theorem pays_postFarmerReview (review : Review) :
    Pays (averageLedger farm) onTime (fun a _ => a = 0) (postFarmerReview ids farmerId review)
      (fun _ a _ => a = owedTo farm farmerId) fun _ a _ => a = 0 := by
  refine .tryCatch (F := fun _ _ _ => False) (.call ?_ fun _ _ _ _ _ _ _ h _ _ => h.elim)
    fun _ => .pure fun _ _ h => h.elim
  rintro a s t q rfl - ⟨hdoc, hq, hshow⟩ - - -
  refine ⟨owedTo farm farmerId, owedTo_nonneg farmerId, ?_, trivial, fun _ _ _ _ => rfl⟩
  by_cases hfarm : farmerId = farm
  · have hone : owedTo farm farmerId = 1 := if_pos hfarm
    rw [hone]
    exact ⟨hdoc, by omega, fun h => by omega⟩
  · have hzero : owedTo farm farmerId = 0 := if_neg hfarm
    rw [hzero, add_zero, sub_zero]
    refine averageLedger_covers.paid t _ q ?_ trivial ⟨hdoc, hq, hshow⟩
    exact Prod.ext (Function.update_of_ne (Ne.symm hfarm) ..) rfl

theorem pays_postFarmerRatings (d : Device) :
    Pays (averageLedger farm) onTime (fun a _ => a = 0) (postFarmerRatings ids p farmerId d)
      (fun _ a _ => a = 0) fun _ a _ => a = 0 := by
  have name : Quiet (sameFarm farm) (getCurrentUserInfoById d.uid d.logInType) :=
    .tryCatch (still_get _) fun _ => .pure _
  refine .bind (name.owes averageLedger_covers 0) fun userName =>
    .bind (R := fun _ a _ => a = 0) (.look fun _ _ _ _ h => h) fun c => ?_
  cases c with
  | none => exact .pure fun _ _ h => h
  | some c =>
    refine .bind (pays_postFarmerReview ids farmerId _) fun _ =>
      .spawn (pays_getFarmerRatings p farmerId _ (.inr rfl)) fun a s q _ _ ha => ?_
    exact ⟨a, 0, ha ▸ owedTo_nonneg farmerId, le_rfl, (add_zero a).symm, ha, fun _ _ _ => rfl⟩

theorem pays_openFarm (d : Device) (farmName : String) (farmRating : Option Ratings.Double) :
    Pays (averageLedger farm) onTime (fun a _ => a = 0) (openFarm p farmerId d farmName farmRating)
      (fun _ a _ => a = 0) fun _ a _ => a = 0 := by
  have opened : Quiet (sameFarm farm) (seg fun w => match w.pages p with
      | some _ => (w, false)
      | none => ({ w with
          pages := Function.update w.pages p (some
            { device := d
              farmerId := farmerId
              farmerName := farmName
              farmRating := farmRating.getD (some 0) }) }, true) : ReviewProgram Bool) := by
    refine .seg (still (fun s => ?_) fun s => ?_)
    · cases s.pages p <;> rfl
    · cases s.pages p <;> rfl
  refine .bind (opened.owes averageLedger_covers 0) fun fresh => ?_
  split
  · refine .spawn (pays_getFarmerRatings p farmerId 0 (.inl rfl)) fun a s q _ _ ha => ?_
    exact ⟨a, 0, ha.ge, le_rfl, (add_zero a).symm, ha, fun _ _ _ => rfl⟩
  · exact .pure fun _ _ h => h

end Pays

theorem averages_balance (ids : IdSupply) (farm : Uid) :
    (averageLedger farm).Balances onTime (handler ids) := by
  intro e s q hs hl _
  have task {m : ReviewProgram Unit} (h : Pays (averageLedger farm) onTime (fun a _ => a = 0) m
      (fun _ a _ => a = 0) fun _ a _ => a = 0) : m.task.Pays (averageLedger farm) onTime s q 0 :=
    h.task hs hl le_rfl rfl
  have quiet {m : ReviewProgram Unit} (h : Quiet (sameFarm farm) m) :
      m.task.Pays (averageLedger farm) onTime s q 0 := task (h.owes averageLedger_covers 0)
  cases e with
  | openFarm page d farmerId farmName farmRating =>
    exact task (pays_openFarm page farmerId d farmName farmRating)
  | tapStar page index =>
    refine quiet (m := program ids (.tapStar page index)) ?_
    by_cases h : index < 5
    · simp only [program, h, if_true]
      exact still_setPage page _
    · simp only [program, h, if_false]
      exact .pure _
  | typeComment page text => exact quiet (still_setPage page _)
  | send page =>
    refine task (m := program ids (.send page)) (.bind (R := fun _ a _ => a = 0)
      (.look fun _ _ _ _ h => h) fun c => ?_)
    cases c with
    | some c => exact pays_postFarmerRatings ids page c.farmerId c.device
    | none => exact .pure fun _ _ h => h
  | openInventory d =>
    have name : Quiet (sameFarm farm) (getCurrentUserInfoById d.uid d.logInType) :=
      .tryCatch (still_get _) fun _ => .pure _
    have read : Quiet (sameFarm farm) (fetchFarmerRatings d.uid) :=
      .tryCatch (still_get _) fun _ => .pure _
    exact quiet (.tryCatch (.bind name fun _ => .bind read fun _ =>
      .change (still (fun _ => rfl) fun _ => rfl)) fun _ => .pure _)

/-- Once nothing is under way, what a farm's document says is the average of all reviews, if each
    average was written while its reviews were still all there were. -/
theorem average_settles {ids : IdSupply} {u v : Reviewing} {ms : List (Move ReviewEvent)}
    (hu : u.slots = []) {farm : Uid} (hshow : ShowsAverage u.state farm)
    (hm : Meeting (handler ids) onTime u ms) (hx : exec (handler ids) u ms = some v)
    (hv : v.slots = []) : ShowsAverage v.state farm := by
  have hdoc : ∃ doc, u.state.farmers farm = some doc := by
    obtain ⟨doc, hdoc, -⟩ := hshow
    exact ⟨doc, hdoc⟩
  have start : (averageLedger farm).Holds onTime u 0 :=
    .idle hu le_rfl ⟨hdoc, le_rfl, fun _ => hshow⟩
  exact ((start.uncharged (averages_balance ids farm) (fun _ => rfl)
    (.of_exec hm hx)).settled hv).2.2 rfl

theorem average_settles_sent : ShowsAverage afterReview.state aFarmer.uid :=
  @average_settles .longer ⟨reviewedFarm, []⟩ _ sendsReview rfl aFarmer.uid
    ⟨{}, by decide +kernel, by decide +kernel⟩ (by decide +kernel) (exec_after (by decide +kernel))
    (by decide +kernel)

end Gherass.Reviews
