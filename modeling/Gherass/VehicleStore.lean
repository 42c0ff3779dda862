import Gherass.EventLoopEnds
import Gherass.VehicleInfo

set_option autoImplicit false

/-!
# Which vehicles are stored

Saves that overlap may leave a driver with two vehicles, but each of them was saved as a whole.
Saves that follow one another leave one, and the form shows what it has saved.
-/
namespace Gherass.Vehicles

open EventLoop EventLoop.Async

/-- The document but for its id. -/
def VehicleDetail.texts (doc : VehicleDetail) : VehicleDetail := { doc with vehicleID := none }

/-- The document with the id holds what it held before or what one save of the driver's has
    written, and its own id. -/
structure Whole (before : Option VehicleDetail) (saved : List VehicleData) (id : String)
    (doc : VehicleDetail) : Prop where
  texts : (∃ doc₀ ∈ before, doc.texts = doc₀.texts) ∨ ∃ data ∈ saved, doc.texts = data.write {}
  vehicleID : (∃ doc₀ ∈ before, doc.vehicleID = doc₀.vehicleID) ∨ doc.vehicleID = none ∨
    doc.vehicleID = some id

structure WholeVehicles (before w : VehicleWorld) : Prop where
  kept : ∀ driver (id : String), id ∈ before.vehicles driver → id ∈ w.vehicles driver
  whole : ∀ driver (id : String) doc, (w.vehicles driver)[id]? = some doc →
    Whole (before.vehicles driver)[id]? (w.saved driver) id doc

def wholeVehicles (before : VehicleWorld) : Contract VehicleWorld VehicleAccess where
  inv := WholeVehicles before
  rel s t := ∀ driver, ∀ data ∈ s.saved driver, data ∈ t.saved driver
  shows _ _ := True
  refl _ _ _ h := h
  trans hst htu driver data h := htu driver data (hst driver data h)

section Overlapping

variable {before : VehicleWorld} {g : Guard VehicleWorld VehicleAccess VehicleEvent}
  (ids : IdSupply) (p : ℕ)

theorem keeps_pages (f : VehicleWorld → VehicleWorld) (hv : ∀ w, (f w).vehicles = w.vehicles)
    (hs : ∀ w, (f w).saved = w.saved) : (wholeVehicles before).Keeps f := by
  refine fun w hw => ⟨⟨fun driver id h => ?_, fun driver id doc h => ?_⟩, fun driver data h => ?_⟩
  · rw [hv]
    exact hw.kept driver id h
  · rw [hv] at h
    rw [hs]
    exact hw.whole driver id doc h
  · rwa [hs]

theorem keeps_insert {w : VehicleWorld} (hw : WholeVehicles before w) (driver : Uid) (id : String)
    {doc : VehicleDetail}
    (hdoc : Whole (before.vehicles driver)[id]? (w.saved driver) id doc) :
    WholeVehicles before (w.setVehicles driver fun docs => docs.insert id doc) := by
  refine ⟨fun driver' i h => ?_, fun driver' i doc' h => ?_⟩
  · have hkept := hw.kept driver' i h
    simp only [VehicleWorld.setVehicles, Function.update_apply]
    split
    case isTrue hd =>
      subst hd
      exact Std.TreeMap.mem_insert.2 (.inr hkept)
    case isFalse => exact hkept
  · simp only [VehicleWorld.setVehicles, Function.update_apply] at h
    split at h
    case isFalse => exact hw.whole driver' i doc' h
    case isTrue hd =>
      subst hd
      rw [Std.TreeMap.getElem?_insert] at h
      split at h
      case isFalse => exact hw.whole driver' i doc' h
      case isTrue hi =>
        obtain rfl := Std.LawfulEqOrd.eq_of_compare hi
        exact Option.some.inj h ▸ hdoc

theorem keeps_updateVehicle {w : VehicleWorld} (hw : WholeVehicles before w) (driver : Uid)
    (id : String) {f : VehicleDetail → VehicleDetail}
    (hf : ∀ doc, Whole (before.vehicles driver)[id]? (w.saved driver) id doc →
      Whole (before.vehicles driver)[id]? (w.saved driver) id (f doc)) :
    WholeVehicles before (FirebaseHelper.updateVehicle driver id f w).1 ∧
      (wholeVehicles before).rel w (FirebaseHelper.updateVehicle driver id f w).1 := by
  unfold FirebaseHelper.updateVehicle
  split
  · rename_i doc hdoc
    exact ⟨keeps_insert hw driver id (hf doc (hw.whole driver id doc hdoc)), fun _ _ h => h⟩
  · exact ⟨hw, fun _ _ h => h⟩

theorem keeps_addVehicle {w : VehicleWorld} (hw : WholeVehicles before w) (driver : Uid)
    {data : VehicleData} (hdata : data ∈ w.saved driver) :
    WholeVehicles before (FirebaseHelper.addVehicle ids driver data w).1 :=
  keeps_insert hw driver _ ⟨.inr ⟨data, hdata, rfl⟩, .inr (.inl rfl)⟩

theorem quiet_getVehicleInfo (d : Device) :
    Quiet (wholeVehicles before) (VehicleInfoController.getVehicleInfo p d) := by
  refine .tryCatch (.bind (.tryCatch (.bind (.call (wholeVehicles before).keeps_id
    fun _ _ => trivial) fun docs => ?_) fun _ => .pure _) fun response => ?_) fun _ => .pure _
  · split
    · exact .pure _
    · exact .pure _
  · cases response with
    | some vehicleInfo => exact .change (keeps_pages _ (fun _ => rfl) fun _ => rfl)
    | none => exact .pure _

theorem spec_helper_updateVehicleInfo (driver : Uid) (data : VehicleData) :
    Spec (wholeVehicles before) g (fun w => data ∈ w.saved driver)
      (FirebaseHelper.updateVehicleInfo ids driver data) (fun _ _ => True) fun _ _ => True := by
  refine .tryCatch (F := fun _ _ => True) (.bind (R := fun _ w => data ∈ w.saved driver)
    (.call (fun s t _ hdata ht hr _ => ⟨trivial, ht, fun _ _ h => h, fun u _ hr' =>
      hr' driver data (hr driver data hdata)⟩) fun _ _ _ _ _ _ _ _ _ _ => trivial)
        fun snapshot => ?_) fun _ => .pure fun _ _ => trivial
  cases snapshot with
  | some id =>
    refine .call (fun s t _ hdata ht hr _ => ?_) fun _ _ _ _ _ _ _ _ _ _ => trivial
    obtain ⟨hi, hrel⟩ := keeps_updateVehicle ht driver id (f := data.write) fun doc hdoc =>
      ⟨.inr ⟨data, hr driver data hdata, rfl⟩, hdoc.vehicleID⟩
    exact ⟨trivial, hi, hrel, fun u _ _ => by split <;> trivial⟩
  | none =>
    refine .bind (R := fun _ _ => True) (.call (fun s t _ hdata ht hr _ => ?_)
      fun _ _ _ _ _ _ _ _ _ _ => trivial) fun id => ?_
    · exact ⟨trivial, keeps_addVehicle ids ht driver (hr driver data hdata), fun _ _ h => h,
        fun _ _ _ => trivial⟩
    · exact Quiet.spec (.call (fun s hs => keeps_updateVehicle hs driver id
        (f := fun doc => { doc with vehicleID := some id }) fun doc hdoc =>
          ⟨hdoc.texts, .inr (.inr rfl)⟩) fun _ _ => trivial)

theorem spec_updateVehicleInfo : Spec (wholeVehicles before) g (fun _ => True)
    (VehicleInfoController.updateVehicleInfo ids p) (fun _ _ => True) fun _ _ => True := by
  refine .bind (R := fun _ _ => True) (Quiet.spec (.look _)) fun c => ?_
  cases c with
  | none => exact .pure fun _ _ => trivial
  | some c =>
    dsimp only
    cases c.texts.validationError with
    | some message => exact .pure fun _ _ => trivial
    | none =>
      refine .tryCatch (F := fun _ _ => True)
        (.bind (R := fun _ w => c.texts.trimmed ∈ w.saved c.device.uid) (.change fun w hw _ => ?_)
          fun _ => .bind (R := fun _ _ => True) (spec_helper_updateVehicleInfo ids _ _) fun _ =>
            Quiet.spec (quiet_getVehicleInfo p c.device)) fun _ => .pure fun _ _ => trivial
      have more : ∀ driver, ∀ data ∈ w.saved driver, data ∈ Function.update w.saved c.device.uid
          (w.saved c.device.uid ++ [c.texts.trimmed]) driver := by
        intro driver data h
        rw [Function.update_apply]
        split
        case isTrue hd => exact List.mem_append_left _ (hd ▸ h)
        case isFalse => exact h
      refine ⟨⟨hw.kept, fun driver id doc h => ?_⟩, more, ?_⟩
      · obtain ⟨htexts, hid⟩ := hw.whole driver id doc h
        refine ⟨htexts.imp_right ?_, hid⟩
        rintro ⟨data, hdata, hdoc⟩
        exact ⟨data, more driver data hdata, hdoc⟩
      · simp only [Function.update_self]
        exact List.mem_append_right _ List.mem_cons_self

theorem wholeVehicles_handler (e : VehicleEvent) (w : VehicleWorld)
    (hw : WholeVehicles before w) : (vehicleHandler ids e).Safe (wholeVehicles before) g w := by
  cases e with
  | openVehicleInfo page d =>
    have quiet : Quiet (wholeVehicles before) (VehicleInfoController.openVehicleInfo page d) :=
      .bind (.change (keeps_pages _ (fun _ => rfl) fun _ => rfl)) fun _ =>
        quiet_getVehicleInfo page d
    exact quiet.safe hw
  | toggleEditing page field =>
    have quiet : Quiet (wholeVehicles before) (vehicleProgram ids (.toggleEditing page field)) :=
      .change (keeps_pages _ (fun _ => rfl) fun _ => rfl)
    exact quiet.safe hw
  | typeText page field text =>
    have quiet : Quiet (wholeVehicles before) (vehicleProgram ids (.typeText page field text)) :=
      .change (keeps_pages _ (fun _ => rfl) fun _ => rfl)
    exact quiet.safe hw
  | save page => exact (spec_updateVehicleInfo ids page).safe hw trivial

end Overlapping

/-- However saves overlap, no vehicle is lost, and each holds what it held before or all of what
    one save of its driver's has written. -/
theorem vehicles_whole {ids : IdSupply} {u v : Pool VehicleWorld VehicleAccess Bool}
    (hu : u.slots = [])
    (hnamed : ∀ driver (id : String) doc, (u.state.vehicles driver)[id]? = some doc →
      doc.vehicleID = none ∨ doc.vehicleID = some id)
    (hrun : Run (vehicleHandler ids) .free u v) (driver : Uid) (id : String) :
    (id ∈ u.state.vehicles driver → id ∈ v.state.vehicles driver) ∧
      ∀ doc, (v.state.vehicles driver)[id]? = some doc →
        (doc.vehicleID = none ∨ doc.vehicleID = some id) ∧
        ((∃ doc₀, (u.state.vehicles driver)[id]? = some doc₀ ∧ doc.texts = doc₀.texts) ∨
          ∃ data ∈ v.state.saved driver, doc.texts = data.write {}) := by
  have start : u.Safe (wholeVehicles u.state) (.free : Guard _ _ VehicleEvent) := by
    refine ⟨⟨fun _ _ h => h, fun driver id doc h => ?_⟩, fun x hx => ?_⟩
    · exact ⟨.inl ⟨doc, h, rfl⟩, .inl ⟨doc, h, rfl⟩⟩
    · rw [hu] at hx
      cases hx
  have hv := (hrun.safe (fun e s hs (_ : Guard.free.start e s) =>
    wholeVehicles_handler ids e s hs) start).1.1
  refine ⟨hv.kept driver id, fun doc hdoc => ?_⟩
  obtain ⟨htexts, hid⟩ := hv.whole driver id doc hdoc
  refine ⟨?_, htexts⟩
  rcases hid with ⟨doc₀, hdoc₀, hid⟩ | hid
  · rw [hid]
    exact hnamed driver id doc₀ hdoc₀
  · exact hid

theorem driver_ne_empty : "driver" ≠ "" := by decide

def aDriver : Device := ⟨⟨"driver", driver_ne_empty⟩, .driver, 0⟩

def twoForms : VehicleWorld where
  pages
    | 0 => some { device := aDriver, texts := ⟨"1234 ABC", "Toyota", "Hilux", "2020", "white"⟩ }
    | 1 => some { device := aDriver, texts := ⟨"5678 DEF", "Isuzu", "D-Max", "2022", "grey"⟩ }
    | _ => none

def savesBoth : List (Move VehicleEvent) :=
  [.start (.save 0), .start (.save 1), .serve 0, .serve 1, .resume 0, .resume 0, .serve 0, .serve 1,
    .resume 0, .resume 0, .serve 0, .serve 1, .resume 0, .resume 0]

def afterBoth : Pool VehicleWorld VehicleAccess Bool :=
  Pool.after (vehicleHandler IdSupply.longer) ⟨twoForms, []⟩ savesBoth

theorem vehicles_whole_twice : (afterBoth.state.vehicles aDriver.uid).size = 2 ∧
    ∀ (id : String) doc, (afterBoth.state.vehicles aDriver.uid)[id]? = some doc →
      ∃ data ∈ afterBoth.state.saved aDriver.uid, doc.texts = data.write {} := by
  refine ⟨by decide +kernel, fun id doc hdoc => ?_⟩
  obtain ⟨-, hwhole⟩ := @vehicles_whole .longer ⟨twoForms, []⟩ afterBoth rfl
    (fun driver id doc h => by simp [twoForms] at h) (.after_free (by decide +kernel)) aDriver.uid id
  rcases (hwhole doc hdoc).2 with ⟨doc₀, hdoc₀, -⟩ | h
  · simp [twoForms] at hdoc₀
  · exact h

def OneEach (w : VehicleWorld) : Prop := ∀ driver, (w.vehicles driver).size ≤ 1

section Alone

variable {ok : VehicleAccess → Bool} {w : VehicleWorld} (ids : IdSupply) (p : ℕ)

theorem ends_call {α ρ : Type} {l : VehicleAccess}
    {f : VehicleWorld → VehicleWorld × Except DartError α} {lost : DartError} (hw : OneEach w)
    (hf : OneEach (f w).1) :
    Ends ok (call l f lost : EventLoop.Async VehicleWorld VehicleAccess DartError ρ α) w
      fun _ t => OneEach t := by
  cases hl : ok l with
  | true => exact .call hl hf
  | false => exact .of_yields (.call_lost hl f lost) hw

theorem oneEach_insert (hw : OneEach w) (driver : Uid) (id : String) (doc : VehicleDetail)
    (h : id ∈ w.vehicles driver ∨ (w.vehicles driver).isEmpty = true) :
    OneEach (w.setVehicles driver fun docs => docs.insert id doc) := by
  intro driver'
  have hold := hw driver'
  simp only [VehicleWorld.setVehicles, Function.update_apply]
  split
  case isFalse => exact hold
  case isTrue hd =>
    subst hd
    rw [Std.TreeMap.size_insert]
    split
    · exact hold
    · rename_i hfresh
      rcases h with h | h
      · exact absurd (Std.TreeMap.contains_iff_mem.2 h) hfresh
      · rw [Std.TreeMap.isEmpty_eq_size_eq_zero, beq_iff_eq] at h
        omega

theorem oneEach_updateVehicle (hw : OneEach w) (driver : Uid) (id : String)
    (f : VehicleDetail → VehicleDetail) :
    OneEach (FirebaseHelper.updateVehicle driver id f w).1 := by
  unfold FirebaseHelper.updateVehicle
  split
  · rename_i doc hdoc
    refine oneEach_insert hw driver id (f doc) (.inl ?_)
    exact Std.TreeMap.mem_iff_isSome_getElem?.2 (by rw [hdoc]; rfl)
  · exact hw

theorem ends_helper_updateVehicleInfo (hw : OneEach w) (driver : Uid) (data : VehicleData) :
    Ends ok (FirebaseHelper.updateVehicleInfo ids driver data : VehicleProgram Unit) w
      fun _ t => OneEach t := by
  refine .tryCatch ?_
  cases hl : ok (.firstVehicle driver) with
  | false => exact .thrown (.call_lost hl _ _) hw
  | true =>
    refine .after (.call_answer hl rfl) ?_
    dsimp only
    cases hfirst : (w.vehicles driver).keys.head? with
    | some id => exact ends_call hw (oneEach_updateVehicle hw driver id _)
    | none =>
      rw [← Std.TreeMap.minKey?_eq_head?_keys] at hfirst
      have hempty := Std.TreeMap.minKey?_eq_none_iff.1 hfirst
      exact .seq (ends_call hw (oneEach_insert hw driver _ _ (.inr hempty))) fun id t ht =>
        ends_call ht (oneEach_updateVehicle ht driver id _)

theorem ends_getVehicleInfo (hw : OneEach w) (d : Device) :
    Ends ok (VehicleInfoController.getVehicleInfo p d : VehicleProgram Unit) w
      fun _ t => OneEach t := by
  have fetched : Ends ok (FirebaseHelper.fetchVehicleInfo d.uid :
      VehicleProgram (Option (List VehicleDetail))) w fun _ t => OneEach t := by
    refine .handled (.seq (ends_call hw hw) fun docs t ht => ?_) fun _ t ht => .of_yields (.pure _) ht
    split
    · exact .of_yields (.pure _) ht
    · exact .of_yields (.pure _) ht
  refine .tryCatch (.seq fetched fun response t ht => ?_)
  cases response with
  | some vehicleInfo => exact .of_yields (.change _) ht
  | none => exact .of_yields (.pure _) ht

theorem ends_updateVehicleInfo (hw : OneEach w) :
    Ends ok (VehicleInfoController.updateVehicleInfo ids p : VehicleProgram Unit) w
      fun _ t => OneEach t := by
  refine .after (.look _) ?_
  cases w.pages p with
  | none => exact .of_yields (.pure _) hw
  | some c =>
    dsimp only
    cases c.texts.validationError with
    | some message => exact .of_yields (.pure _) hw
    | none =>
      refine .tryCatch (.change (.seq (ends_helper_updateVehicleInfo ids ?_ _ _)
        fun _ t ht => ends_getVehicleInfo p ht _))
      exact hw

end Alone

/-- While no save starts before the one before it has ended, no driver has two vehicles, whichever
    calls fail. -/
theorem one_vehicle {ids : IdSupply} {w : VehicleWorld} (hw : OneEach w)
    (turns : List (VehicleEvent × (VehicleAccess → Bool))) :
    OneEach (runEach (vehicleHandler ids) w turns) := by
  induction turns generalizing w with
  | nil => exact hw
  | cons turn turns ih =>
    refine ih ?_
    obtain ⟨e, ok⟩ := turn
    cases e with
    | openVehicleInfo page d =>
      have opened : OneEach
          { w with pages := Function.update w.pages page (some { device := d }) } := hw
      exact Ends.task (.change (ends_getVehicleInfo page opened d))
    | toggleEditing page field => exact hw
    | typeText page field text => exact hw
    | save page => exact (ends_updateVehicleInfo ids page hw).task

theorem one_vehicle_saved : OneEach (runEach (vehicleHandler IdSupply.longer) twoForms
    [(.save 0, fun _ => true), (.save 1, fun l => l ≠ .readAll aDriver.uid)]) :=
  one_vehicle (fun driver => by simp [twoForms]) _

theorem toList_head {docs : Std.TreeMap String VehicleDetail} {id : String} {doc : VehicleDetail}
    (hfirst : docs.keys.head? = some id) (hdoc : docs[id]? = some doc) :
    ∃ rest, docs.toList = (id, doc) :: rest := by
  rw [← Std.TreeMap.map_fst_toList_eq_keys] at hfirst
  cases hlist : docs.toList with
  | nil =>
    rw [hlist] at hfirst
    cases hfirst
  | cons entry rest =>
    obtain ⟨id', doc'⟩ := entry
    rw [hlist] at hfirst
    obtain rfl : id' = id := Option.some.inj hfirst
    have hmem : (id', doc') ∈ docs.toList := hlist ▸ List.mem_cons_self
    have hstored := Std.TreeMap.mem_toList_iff_getElem?_eq_some.1 hmem
    rw [Option.some.inj (hdoc.symm.trans hstored)]
    exact ⟨rest, rfl⟩

theorem keys_head_insert {docs : Std.TreeMap String VehicleDetail} {id : String}
    (hfirst : docs.keys.head? = some id) (doc : VehicleDetail) :
    (docs.insert id doc).keys.head? = some id := by
  rw [← Std.TreeMap.minKey?_eq_head?_keys] at hfirst ⊢
  rw [Std.TreeMap.minKey?_insert, hfirst]
  simp

/-- The driver's first vehicle has the texts; the driver's others and those of other drivers are as
    they were. -/
structure Saved (w t : VehicleWorld) (driver : Uid) (data : VehicleData) (id : String) : Prop where
  first : (t.vehicles driver).keys.head? = some id
  texts : ∃ doc, (t.vehicles driver)[id]? = some doc ∧ doc.texts = data.write {}
  others : ∀ id' : String, id' ≠ id → (t.vehicles driver)[id']? = (w.vehicles driver)[id']?
  elsewhere : ∀ driver', driver' ≠ driver → t.vehicles driver' = w.vehicles driver'

section Saves

variable {w : VehicleWorld} (ids : IdSupply) (p : ℕ)

theorem saved_insert {driver : Uid} {id : String} {data : VehicleData} {doc : VehicleDetail}
    (hfirst : ((w.vehicles driver).insert id doc).keys.head? = some id)
    (hdoc : doc.texts = data.write {}) :
    Saved w (w.setVehicles driver fun docs => docs.insert id doc) driver data id := by
  have hsame : (w.setVehicles driver fun docs => docs.insert id doc).vehicles driver =
      (w.vehicles driver).insert id doc := Function.update_self ..
  refine ⟨hsame ▸ hfirst, ⟨doc, ?_, hdoc⟩, fun id' hne => ?_, fun driver' hne => ?_⟩
  · rw [hsame, Std.TreeMap.getElem?_insert_self]
  · rw [hsame, Std.TreeMap.getElem?_insert, if_neg]
    exact fun h => hne (Std.LawfulEqOrd.eq_of_compare h).symm
  · exact Function.update_of_ne hne ..

theorem Saved.trans {w t v : VehicleWorld} {driver : Uid} {data : VehicleData} {id : String}
    (h : Saved w t driver data id) (h' : Saved t v driver data id) : Saved w v driver data id :=
  ⟨h'.first, h'.texts, fun id' hne => (h'.others id' hne).trans (h.others id' hne),
    fun driver' hne => (h'.elsewhere driver' hne).trans (h.elsewhere driver' hne)⟩

theorem updateVehicle_stored {driver : Uid} {id : String} {doc : VehicleDetail}
    (hdoc : (w.vehicles driver)[id]? = some doc) (f : VehicleDetail → VehicleDetail) :
    FirebaseHelper.updateVehicle driver id f w =
      (w.setVehicles driver fun docs => docs.insert id (f doc), .ok ()) := by
  rw [FirebaseHelper.updateVehicle, hdoc]

theorem yields_helper_updateVehicleInfo (driver : Uid) (data : VehicleData) :
    ∃ t id, Yields (fun _ => true) (FirebaseHelper.updateVehicleInfo ids driver data :
      VehicleProgram Unit) w (.ok ()) t ∧ t.pages = w.pages ∧ Saved w t driver data id := by
  cases hfirst : (w.vehicles driver).keys.head? with
  | some id =>
    have hmem : id ∈ w.vehicles driver := Std.TreeMap.mem_keys.1 (List.mem_of_mem_head? hfirst)
    obtain ⟨doc, hdoc⟩ := Option.isSome_iff_exists.1 (Std.TreeMap.mem_iff_isSome_getElem?.1 hmem)
    refine ⟨w.setVehicles driver fun docs => docs.insert id (data.write doc), id,
      .tryCatch (.bind (.call_answer rfl rfl) ?_), rfl,
      saved_insert (keys_head_insert hfirst (data.write doc)) rfl⟩
    rw [hfirst]
    exact .call_eq rfl (updateVehicle_stored hdoc data.write)
  | none =>
    have hempty := hfirst
    rw [← Std.TreeMap.minKey?_eq_head?_keys, Std.TreeMap.minKey?_eq_none_iff] at hempty
    have hadded : ((w.vehicles driver).insert (FirebaseHelper.newId ids driver w)
        (data.write {})).keys.head? = some (FirebaseHelper.newId ids driver w) := by
      rw [← Std.TreeMap.minKey?_eq_head?_keys, Std.TreeMap.minKey?_insert_of_isEmpty hempty]
    have added : Saved w (FirebaseHelper.addVehicle ids driver data w).1 driver data
        (FirebaseHelper.newId ids driver w) := saved_insert hadded rfl
    obtain ⟨doc, hdoc, htexts⟩ := added.texts
    let named : VehicleDetail := { doc with vehicleID := some (FirebaseHelper.newId ids driver w) }
    refine ⟨(FirebaseHelper.addVehicle ids driver data w).1.setVehicles driver fun docs =>
        docs.insert (FirebaseHelper.newId ids driver w) named, FirebaseHelper.newId ids driver w,
      .tryCatch (.bind (.call_answer rfl rfl) ?_), rfl,
      added.trans (saved_insert (keys_head_insert added.first named) htexts)⟩
    rw [hfirst]
    exact .bind (.call_answer rfl rfl) (.call_eq rfl (updateVehicle_stored hdoc _))

theorem yields_getVehicleInfo (d : Device) {data : VehicleData} {id : String}
    (hsaved : Saved w w d.uid data id) : ∃ vehicleInfo,
      Yields (fun _ => true) (VehicleInfoController.getVehicleInfo p d : VehicleProgram Unit) w
        (.ok ()) (w.setPage p (.load vehicleInfo)) ∧
      ∃ doc rest, vehicleInfo = doc :: rest ∧ doc.texts = data.write {} := by
  obtain ⟨doc, hdoc, htexts⟩ := hsaved.texts
  obtain ⟨rest, hlist⟩ := toList_head hsaved.first hdoc
  have fetched : Yields (fun _ => true) (FirebaseHelper.fetchVehicleInfo d.uid :
      VehicleProgram (Option (List VehicleDetail))) w (.ok (some (doc :: rest.map (·.2)))) w := by
    refine .tryCatch (.bind (.call_answer rfl rfl) ?_)
    rw [hlist]
    exact .pure _
  exact ⟨doc :: rest.map (·.2), .tryCatch (.bind fetched (.change _)), doc, _, rfl, htexts⟩

end Saves

/-- A form that is filled in and saved alone is read back as it was stored: the driver's first
    vehicle has its trimmed texts, the form shows them, and all other vehicles are as before. -/
theorem save_shows {ids : IdSupply} {w : VehicleWorld} {p : ℕ} {c : VehicleInfoController}
    (hc : w.pages p = some c) (hvalid : c.texts.validationError = none) :
    let t := ((vehicleHandler ids (.save p)).alone (fun _ => true) w).2
    (∃ c', t.pages p = some c' ∧ c'.texts = c.texts.trimmed) ∧
      ∃ id, Saved w t c.device.uid c.texts.trimmed id := by
  let noted : VehicleWorld :=
    { w with
      saved := Function.update w.saved c.device.uid (w.saved c.device.uid ++ [c.texts.trimmed]) }
  obtain ⟨t, id, hhelper, hpages, hsaved⟩ :=
    yields_helper_updateVehicleInfo ids c.device.uid c.texts.trimmed (w := noted)
  obtain ⟨vehicleInfo, hload, doc, rest, hinfo, htexts⟩ :=
    yields_getVehicleInfo p c.device (w := t)
      ⟨hsaved.first, hsaved.texts, fun _ _ => rfl, fun _ _ => rfl⟩
  have program : Yields (fun _ => true) (vehicleProgram ids (.save p)) w (.ok ())
      (t.setPage p (.load vehicleInfo)) := by
    refine .bind (.look _) ?_
    rw [hc]
    dsimp only
    rw [hvalid]
    exact .tryCatch (.bind (.change _) (.bind hhelper hload))
  have hend : ((vehicleHandler ids (.save p)).alone (fun _ => true) w).2 =
      t.setPage p (.load vehicleInfo) := program.task
  rw [hend]
  refine ⟨⟨c.load vehicleInfo, ?_, ?_⟩, id, hsaved.first, hsaved.texts, hsaved.others,
    hsaved.elsewhere⟩
  · have hpage : t.pages p = some c := by rw [hpages]; exact hc
    simp [VehicleWorld.setPage, hpage]
  · have shown : VehicleData.ofDoc doc = VehicleData.ofDoc doc.texts := rfl
    rw [hinfo]
    change VehicleData.ofDoc doc = _
    rw [shown, htexts, VehicleData.ofDoc_write]

theorem save_shows_hilux :
    let t := ((vehicleHandler IdSupply.longer (.save 0)).alone (fun _ => true) twoForms).2
    (∃ c', t.pages 0 = some c' ∧ c'.texts = ⟨"1234 ABC", "Toyota", "Hilux", "2020", "white"⟩) ∧
      ∃ id, Saved twoForms t aDriver.uid ⟨"1234 ABC", "Toyota", "Hilux", "2020", "white"⟩ id := by
  have htrimmed : VehicleData.trimmed ⟨"1234 ABC", "Toyota", "Hilux", "2020", "white"⟩ =
      ⟨"1234 ABC", "Toyota", "Hilux", "2020", "white"⟩ := by decide +kernel
  have shown := @save_shows .longer twoForms 0
    { device := aDriver, texts := ⟨"1234 ABC", "Toyota", "Hilux", "2020", "white"⟩ } rfl rfl
  rwa [htrimmed] at shown

end Gherass.Vehicles
