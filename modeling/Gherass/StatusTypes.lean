import Gherass.EventLoopPrograms
import Gherass.MarketData

set_option autoImplicit false

/-!
# Loading the status lists

`fetchOrdeStatusList` of `home_controller.dart` fills two static lists from one document. It is
started with every visit of the home page, and nobody waits for it.
-/
namespace Gherass.StatusTypes

open EventLoop EventLoop.Async

inductive Entry where
  | text (s : String)
  | other
  deriving DecidableEq

inductive Field where
  | null
  | list (entries : List Entry)
  | other
  deriving DecidableEq

/-- The document `Delivery/DeliveryStatusTypes`. -/
structure DeliveryStatusTypes where
  sellerStatus : Field := .null
  driverStatus : Field := .null
  deriving DecidableEq

inductive Party where
  | seller
  | driver
  deriving DecidableEq

def DeliveryStatusTypes.status (doc : DeliveryStatusTypes) : Party → Field
  | .seller => doc.sellerStatus
  | .driver => doc.driverStatus

structure Constants where
  orderStatusListOfDriver : List String := []
  orderStatusListOfFarmer : List String := []
  deriving DecidableEq

namespace Constants

def list (c : Constants) : Party → List String
  | .seller => c.orderStatusListOfFarmer
  | .driver => c.orderStatusListOfDriver

def addAll (c : Constants) : Party → List String → Constants
  | .seller, statuses =>
    { c with orderStatusListOfFarmer := c.orderStatusListOfFarmer ++ statuses }
  | .driver, statuses =>
    { c with orderStatusListOfDriver := c.orderStatusListOfDriver ++ statuses }

theorem list_addAll (c : Constants) (party : Party) (statuses : List String) :
    (c.addAll party statuses).list party = c.list party ++ statuses := by
  cases party with
  | seller | driver => rfl

theorem list_addAll_of_ne (c : Constants) {party other : Party} (h : other ≠ party)
    (statuses : List String) : (c.addAll party statuses).list other = c.list other := by
  cases party with
  | seller | driver =>
    cases other with
    | seller | driver => first | rfl | exact absurd rfl h

end Constants

/-- The document and the app's lists. `answers` are the documents that have been read so far, kept
for the record. -/
structure StatusWorld where
  document : Option DeliveryStatusTypes := none
  constants : Constants := {}
  answers : List DeliveryStatusTypes := []
  deriving DecidableEq

abbrev StatusProgram (α : Type) := Async StatusWorld Unit DartError Unit α

def readDocument (w : StatusWorld) : StatusWorld × Except DartError (Option DeliveryStatusTypes) :=
  ({ w with answers := w.answers ++ w.document.toList }, .ok w.document)

def getOrderStatusFlowList : StatusProgram (Option DeliveryStatusTypes) := do
  try
    let snapshot ← call () readDocument .firestore
    return snapshot
  catch _ => return none

/-- `List<String>.from(entries)` -/
def fromEntries (entries : List Entry) : Except DartError (List String) :=
  entries.mapM fun
    | .text s => .ok s
    | .other => .error .type

def fillList (party : Party) (status : Option DeliveryStatusTypes) : StatusProgram Unit := do
  match (status.map fun doc => doc.status party : Option Field) with
  | some (.list entries) =>
    if (← look fun w => (w.constants.list party).isEmpty) then
      match fromEntries entries with
      | .ok statuses =>
        change fun w => { w with constants := w.constants.addAll party statuses }
      | .error e => throw e
  | _ => pure ()

def fetchOrdeStatusList : StatusProgram Unit := do
  try
    let status ← getOrderStatusFlowList
    fillList .seller status
    fillList .driver status
  catch _ => pure ()

inductive StatusEvent where
  | visitHome
  | store (document : Option DeliveryStatusTypes)

def statusHandler : StatusEvent → Task StatusWorld Unit Unit
  | .visitHome => fetchOrdeStatusList.task
  | .store document => (change fun w => { w with document := document } : StatusProgram Unit).task

abbrev StatusPool := Pool StatusWorld Unit Unit

def Started (u : StatusPool) : Prop := u.slots = [] ∧ u.state.constants = {}

def ListOf (party : Party) (statuses : List String) (answer : DeliveryStatusTypes) : Prop :=
  ∃ entries, answer.status party = .list entries ∧ fromEntries entries = .ok statuses

def LoadedWhole (party : Party) (w : StatusWorld) : Prop :=
  w.constants.list party = [] ∨ ∃ answer ∈ w.answers, ListOf party (w.constants.list party) answer

def statusContract : Contract StatusWorld Unit where
  inv w := ∀ party, LoadedWhole party w
  rel v w := v.answers ⊆ w.answers ∧
    ∀ party, v.constants.list party ≠ [] → w.constants.list party = v.constants.list party
  shows _ _ := True
  refl _ := ⟨List.Subset.refl _, fun _ _ => rfl⟩
  trans h h' := by
    refine ⟨List.Subset.trans h.1 h'.1, fun party hfilled => ?_⟩
    have first := h.2 party hfilled
    exact (h'.2 party (first ▸ hfilled)).trans first

section Load

variable {g : Guard StatusWorld Unit StatusEvent}

def Given (status : Option DeliveryStatusTypes) (w : StatusWorld) : Prop :=
  ∀ answer ∈ status, answer ∈ w.answers

theorem getOrderStatusFlowList_spec :
    Spec statusContract g (fun _ => True) getOrderStatusFlowList Given fun _ _ => True := by
  have handed : Spec statusContract g (fun _ => True)
      (call () readDocument .firestore : StatusProgram (Option DeliveryStatusTypes)) Given
      fun _ _ => True := by
    refine .call (fun s t _ _ ht _ _ => ⟨trivial, ?_, ?_, fun u _ hu answer h => ?_⟩)
      fun _ _ _ _ _ _ _ _ _ _ => trivial
    · exact fun party => (ht party).imp_right fun ⟨answer, hmem, hlist⟩ =>
        ⟨answer, List.mem_append_left _ hmem, hlist⟩
    · exact ⟨List.subset_append_left _ _, fun _ _ => rfl⟩
    · exact hu.1 (List.mem_append_right _ (Option.mem_toList.2 h))
  exact .tryCatch (.bind handed fun status => .pure fun _ h => h) fun _ => .pure fun _ _ _ h => by
    cases h

theorem addAll_keeps {w : StatusWorld} (hw : statusContract.inv w) {party : Party}
    {statuses : List String} {answer : DeliveryStatusTypes} (hmem : answer ∈ w.answers)
    (hlist : ListOf party statuses answer) (hempty : w.constants.list party = []) :
    statusContract.inv { w with constants := w.constants.addAll party statuses } ∧
      statusContract.rel w { w with constants := w.constants.addAll party statuses } := by
  refine ⟨fun other => ?_, List.Subset.refl _, fun other hfilled => ?_⟩
  · by_cases hother : other = party
    · subst hother
      refine .inr ⟨answer, hmem, ?_⟩
      rw [Constants.list_addAll, hempty, List.nil_append]
      exact hlist
    · have same := w.constants.list_addAll_of_ne hother statuses
      unfold LoadedWhole
      rw [same]
      exact hw other
  · have hother : other ≠ party := fun heq => hfilled (heq ▸ hempty)
    exact w.constants.list_addAll_of_ne hother statuses

theorem fillList_spec (party : Party) (status : Option DeliveryStatusTypes) :
    Spec statusContract g (Given status) (fillList party status) (fun _ => Given status)
      fun _ _ => True := by
  unfold fillList
  split
  case h_2 => exact .pure fun _ h => h
  rename_i entries hentries
  obtain ⟨answer, rfl, hstatus⟩ := Option.map_eq_some_iff.1 hentries
  have looked : Spec statusContract g (Given (some answer))
      (look fun w => (w.constants.list party).isEmpty : StatusProgram Bool)
      (fun empty w => Given (some answer) w ∧ empty = (w.constants.list party).isEmpty)
      fun _ _ => True := .look fun _ _ h => ⟨h, rfl⟩
  refine .bind looked fun empty => ?_
  cases empty with
  | false => exact .pure fun _ h => h.1
  | true =>
    cases hfrom : fromEntries entries with
    | error e => exact .throw fun _ _ => trivial
    | ok statuses =>
      refine .change fun w hw ⟨hgiven, hempty⟩ => ?_
      obtain ⟨hinv, hrel⟩ := addAll_keeps hw (hgiven answer rfl) ⟨entries, hstatus, hfrom⟩
        (List.isEmpty_iff.1 hempty.symm)
      exact ⟨hinv, hrel, hgiven⟩

theorem fetchOrdeStatusList_spec :
    Spec statusContract g (fun _ => True) fetchOrdeStatusList (fun _ _ => True) fun _ _ => True := by
  have filled (status : Option DeliveryStatusTypes) : Spec statusContract g (Given status)
      (do fillList .seller status; fillList .driver status) (fun _ _ => True) fun _ _ => True :=
    .bind (fillList_spec .seller status) fun _ =>
      (fillList_spec .driver status).weaken (fun _ h => h) (fun _ _ _ => trivial) fun _ _ h => h
  exact .tryCatch (.bind getOrderStatusFlowList_spec filled) fun _ => .pure fun _ _ => trivial

theorem statusHandler_safe (e : StatusEvent) (w : StatusWorld) (hw : statusContract.inv w) :
    (statusHandler e).Safe statusContract g w := by
  cases e with
  | visitHome => exact fetchOrdeStatusList_spec.safe hw trivial
  | store document => exact ⟨hw, statusContract.refl w, trivial⟩

end Load

/-- Any number of visits, with whatever answers in whatever order: the lists are always empty or
those of one answer, and never change once they are filled. -/
theorem status_lists_once {u v w : StatusPool} (hu : Started u)
    (huv : Run statusHandler .free u v) (hvw : Run statusHandler .free v w) (party : Party) :
    LoadedWhole party v.state ∧
      (v.state.constants.list party ≠ [] →
        w.state.constants.list party = v.state.constants.list party) := by
  have start : u.Safe statusContract (.free : Guard StatusWorld Unit StatusEvent) := by
    refine ⟨fun p => .inl ?_, fun x hx => ?_⟩
    · rw [hu.2]
      cases p with
      | seller | driver => rfl
    · rw [hu.1] at hx
      cases hx
  have safe := huv.safe (fun e s hs _ => statusHandler_safe e s hs) start
  have later := hvw.safe (fun e s hs _ => statusHandler_safe e s hs) safe.1
  exact ⟨safe.1.1 party, later.2.2 party⟩

def statusTypes (seller driver : List String) : DeliveryStatusTypes where
  sellerStatus := .list (seller.map .text)
  driverStatus := .list (driver.map .text)

def twoVisits : List (Move StatusEvent) :=
  [.start (.store (some { statusTypes ["Order Placed"] [] with driverStatus := .other })),
    .start .visitHome, .start .visitHome, .serve 0,
    .start (.store (some (statusTypes ["Placed", "Order Accepted"] ["Picked Up"]))), .serve 1,
    .resume 1]

theorem status_lists_once_two_visits :
    let u : StatusPool := ⟨{}, []⟩
    let v := u.after statusHandler twoVisits
    let w := v.after statusHandler [.resume 0]
    LoadedWhole .seller v.state ∧
      v.state.constants.list .seller = ["Placed", "Order Accepted"] ∧
      w.state.constants.list .seller = v.state.constants.list .seller := by
  have loaded : Run statusHandler .free ⟨{}, []⟩ (Pool.after statusHandler ⟨{}, []⟩ twoVisits) :=
    .after_free (by decide +kernel)
  have later : Run statusHandler .free (Pool.after statusHandler ⟨{}, []⟩ twoVisits)
      ((Pool.after statusHandler ⟨{}, []⟩ twoVisits).after statusHandler [.resume 0]) :=
    .after_free (by decide +kernel)
  have both := status_lists_once (u := ⟨{}, []⟩) ⟨rfl, rfl⟩ loaded later .seller
  exact ⟨both.1, by decide +kernel, both.2 (by decide +kernel)⟩

end Gherass.StatusTypes
