import Gherass.EventLoopRuns
import Gherass.EventLoopScripts
import Gherass.OrdersController

set_option autoImplicit false

/-!
# The driver's lists under reloads that overlap

Every reload clears its lists, awaits one query and adds what was found. Which reloads are in
flight, and with which answers, is all there is to know of a run of them.
-/
namespace Gherass.OrdersController

open EventLoop EventLoop.Async FirebaseHelper

/-- The reloads of the home page's lists, of the orders page's and of the orders on offer. -/
inductive Reload where
  | home
  | orders
  | offers
  deriving DecidableEq

variable (flow : StatusLists) (d : Device)

def reload : Reload → Program Unit
  | .home => fetchHomeOrders d
  | .orders => fetchDriverOrders d
  | .offers => getOrdersList flow d .driverId ""

def reloadHandler (r : Reload) : Task World Access Bool := (reload flow d r).task

def askedFor : Reload → String
  | .home => d.uid
  | .orders => d.uid
  | .offers => ""

def found (driverId : String) (w : World) : Option (List Order) :=
  if queryOrders .driverId driverId w ≠ [] then some (queryOrders .driverId driverId w) else none

def clearLists : Reload → World → World
  | .home => fun w => w.setHome d fun c =>
    { c with showCurrentOrders := false, showPastOrders := false, pastOrders := [], currentOrders := [] }
  | .orders => fun w => w.setDetails d fun c =>
    { c with pastOrders := [], currentOrders := [], pageName := "" }
  | .offers => fun w => w.setDetails d fun c => { c with allOrders := [], ordersList := [] }

def addHome (orders : List Order) (w : World) : World :=
  (w.setHome d fun c =>
    { c with
      pastOrders := c.pastOrders ++ orders.filter isDelivered
      currentOrders := c.currentOrders ++ orders.filter fun o => !isDelivered o }).setHome d fun c =>
    { c with
      showCurrentOrders := c.currentOrders ≠ []
      showPastOrders := c.pastOrders ≠ [] }

def addOrders (orders : List Order) (w : World) : World :=
  (w.setDetails d fun c =>
    { c with
      pastOrders := c.pastOrders ++ orders.filter isDelivered
      currentOrders := c.currentOrders ++ orders.filter fun o => !isDelivered o }).setDetails d
    fun c =>
    { c with
      showCurrentOrders := c.currentOrders ≠ []
      showPastOrders := c.pastOrders ≠ [] }

def filters (w : World) : Prop := d.logInType = .driver ∧ (w.details d).pageName = ""

instance (w : World) : Decidable (filters d w) := inferInstanceAs (Decidable (_ ∧ _))

def addOffers (response : List Order) (w : World) : World :=
  let loaded := w.setDetails d fun c => { c with allOrders := response }
  if filters d w then
    match decide (response ≠ []), flow.farmer[1]? with
    | true, some offered => loaded.setDetails d fun c =>
      { c with ordersList := c.ordersList ++ response.filter fun o => offered = o.status }
    | _, _ => loaded
  else loaded.setDetails d fun c => { c with ordersList := response }

def addFound : Reload → Option (List Order) → World → World
  | .home, orders => addHome d (orders.getD [])
  | .orders, orders => addOrders d (orders.getD [])
  | .offers, some response => addOffers flow d response
  | .offers, none => id

def reloadScript : Script World Reload Reload where
  start r w := (clearLists d r w, [r])
  effect _ := id
  rest r answer w := (addFound flow d r (answer.bind (found (askedFor d r))) w, [])

def listOffers : Option (List Order) → Program Unit
  | some response => do
    setDetails d fun c => { c with allOrders := response }
    let page ← look fun w => w.details d
    if d.logInType = .driver ∧ page.pageName = "" then
      if response ≠ [] then
        let offered ← statusAt flow.farmer 1
        setDetails d fun c =>
          { c with ordersList := c.ordersList ++ response.filter fun o => offered = o.status }
    else setDetails d fun c => { c with ordersList := response }
  | none => pure ()

def afterFound : Reload → Option (List Order) → Program Unit
  | .home, response => do
    let orders := response.getD []
    setHome d fun c =>
      { c with
        pastOrders := c.pastOrders ++ orders.filter isDelivered
        currentOrders := c.currentOrders ++ orders.filter fun o => !isDelivered o }
    setHome d fun c =>
      { c with
        showCurrentOrders := c.currentOrders ≠ []
        showPastOrders := c.pastOrders ≠ [] }
  | .orders, response => do
    let orders := response.getD []
    setDetails d fun c =>
      { c with
        pastOrders := c.pastOrders ++ orders.filter isDelivered
        currentOrders := c.currentOrders ++ orders.filter fun o => !isDelivered o }
    setDetails d fun c =>
      { c with
        showCurrentOrders := c.currentOrders ≠ []
        showPastOrders := c.pastOrders ≠ [] }
  | .offers, response => listOffers flow d response

def reloadCall (r : Reload) : Task World Access Bool :=
  .call .plain id (fun w => (afterFound flow d r (found (askedFor d r) w)).task)
    (afterFound flow d r none).task

variable {flow d}

theorem fetch_run (driverId : String) (k : Option (List Order) → Task World Access Bool)
    (h : DartError → Task World Access Bool) :
    fetchOrdersWithDriverId driverId k h =
      .call .plain id (fun w => k (found driverId w)) (k none) := by
  have answers : ∀ w : World, (if queryOrders .driverId driverId w ≠ [] then
        pure (some (queryOrders .driverId driverId w)) else pure none : Program _) k
          (fun _ => k none) = k (found driverId w) := by
    intro w
    unfold found
    split
    · rfl
    · rfl
  exact congrArg (fun next => Task.call Access.plain id next (k none)) (funext answers)

theorem listOffers_settle (response : List Order) (w : World) :
    (listOffers flow d (some response)).task.settle w =
      (addOffers flow d response w, []) := by
  let loaded := w.setDetails d fun c => { c with allOrders := response }
  have page : (loaded.details d).pageName = (w.details d).pageName := by
    simp only [loaded, World.setDetails, Function.update_self]
  change ((if d.logInType = .driver ∧ (loaded.details d).pageName = "" then _ else _ :
    Program Unit) _ _).settle loaded = _
  rw [page, addOffers]
  by_cases hfilters : filters d w
  · have driver : d.logInType = .driver ∧ (w.details d).pageName = "" := hfilters
    rw [if_pos driver, if_pos hfilters]
    by_cases hne : response ≠ []
    · rw [if_pos hne, decide_eq_true hne]
      unfold statusAt
      cases flow.farmer[1]? with
      | none | some offered => rfl
    · rw [if_neg hne, decide_eq_false hne]
      rfl
  · have other : ¬ (d.logInType = .driver ∧ (w.details d).pageName = "") := hfilters
    rw [if_neg other, if_neg hfilters]
    rfl

theorem afterFound_settle (r : Reload) (response : Option (List Order)) (w : World) :
    (afterFound flow d r response).task.settle w = (addFound flow d r response w, []) := by
  cases r with
  | home | orders => rfl
  | offers =>
    cases response with
    | none => rfl
    | some response => exact listOffers_settle response w

theorem reload_follows :
    Machine.Follows (reloadScript flow d) (reloadHandler flow d) (reloadCall flow d) where
  start r s := by
    cases r with
    | home =>
      change (fetchOrdersWithDriverId d.uid _ _).settle (clearLists d .home s) = _
      rw [fetch_run]
      rfl
    | orders =>
      change (fetchOrdersWithDriverId d.uid _ _).settle (clearLists d .orders s) = _
      rw [fetch_run]
      rfl
    | offers =>
      change (fetchOrdersWithDriverId "" _ _).settle (clearLists d .offers s) = _
      rw [fetch_run]
      rfl
  call r := ⟨_, _, _, rfl, fun _ s => afterFound_settle r _ s, fun s => afterFound_settle r none s⟩

variable (flow d)

def available (o : Order) : Bool := flow.farmer[1]? = some o.status

def ordersOf (driverId : String) (w : World) : List Order :=
  (w.orders.toList.map (·.2)).filter fun o => o.driverId = driverId

/-- Each of these orders is in one of the two lists, once, and in the former if it is delivered. -/
structure ListsExactly (past current orders : List Order) : Prop where
  once : (past ++ current).Perm orders
  delivered : ∀ o ∈ past, isDelivered o = true
  underWay : ∀ o ∈ current, isDelivered o = false

def exact : Reload → World → Prop
  | .home, w => ListsExactly (w.homes d).pastOrders (w.homes d).currentOrders (ordersOf d.uid w)
  | .orders, w =>
    ListsExactly (w.details d).pastOrders (w.details d).currentOrders (ordersOf d.uid w)
  | .offers, w => ((w.details d).ordersList.filter (available flow)).Perm
    ((ordersOf "" w).filter (available flow))

/-- What is on show; of the orders on offer those that are available. -/
def shown : Reload → World → List Order × List Order
  | .home, w => ((w.homes d).pastOrders, (w.homes d).currentOrders)
  | .orders, w => ((w.details d).pastOrders, (w.details d).currentOrders)
  | .offers, w => ([], (w.details d).ordersList.filter (available flow))

def parts : Reload → List Order → List Order × List Order
  | .home, docs => (docs.filter isDelivered, docs.filter fun o => !isDelivered o)
  | .orders, docs => (docs.filter isDelivered, docs.filter fun o => !isDelivered o)
  | .offers, docs => ([], docs.filter (available flow))

def due (r : Reload) (w : World) : List Order × List Order :=
  parts flow r (queryOrders .driverId (askedFor d r) w)

abbrev Reloading := Machine World Reload

def response (r : Reload) (answer : Option World) : Option (List Order) :=
  answer.bind (found (askedFor d r))

/-- What was found is added to empty lists, if there is anything to show, or takes the place of
    what is there; a reload that found nothing leaves full lists, or it had nothing to show, or
    another one is still under way. -/
def harmless (w : Reloading) : Move Reload → Bool
  | .resume i =>
    match w.calls[i]? with
    | some (r, some answer) =>
      if (response d r answer).isSome then shown flow d r w.state = ([], []) ∨
        due flow d r w.state = ([], []) ∨ r = .offers ∧ ¬ filters d w.state
      else shown flow d r w.state ≠ ([], []) ∨ due flow d r w.state = ([], []) ∨
        ∃ c ∈ w.calls.eraseIdx i, c.1 = r
    | _ => true
  | _ => true

variable {flow d} {r q : Reload} {w : World}

theorem clearLists_orders : (clearLists d r w).orders = w.orders := by
  cases r with
  | home | orders | offers => rfl

theorem shown_clearLists : shown flow d r (clearLists d r w) = ([], []) := by
  cases r with
  | home => simp [shown, clearLists, World.setHome]
  | orders => simp [shown, clearLists, World.setDetails]
  | offers => simp [shown, clearLists, World.setDetails]

variable (flow d w) in
theorem shown_clearLists_of_ne (h : q ≠ r) : shown flow d q (clearLists d r w) = shown flow d q w := by
  cases r with
  | home | orders | offers =>
    cases q with
    | home | orders | offers => first
      | exact absurd rfl h
      | simp [shown, clearLists, World.setHome, World.setDetails]

variable (flow d) in
theorem addOffers_eq (response : List Order) (w : World) :
    addOffers flow d response w = w.setDetails d fun c =>
      { c with
        allOrders := response
        ordersList := if filters d w then c.ordersList ++ response.filter (available flow)
          else response } := by
  unfold addOffers
  by_cases hfilters : filters d w
  case neg =>
    simp only [if_neg hfilters, World.setDetails, Function.update_self, Function.update_idem]
  simp only [if_pos hfilters]
  cases hoffered : flow.farmer[1]? with
  | none =>
    have nothing : response.filter (available flow) = [] := by simp [available, hoffered]
    split
    · contradiction
    · simp only [nothing, List.append_nil]
  | some offered =>
    have same : (fun o : Order => decide (offered = o.status)) = available flow := by
      funext o
      simp only [available, hoffered, Option.some.injEq]
    cases response with
    | nil => simp only [ne_eq, not_true_eq_false, decide_false, List.filter_nil, List.append_nil]
    | cons o response =>
      simp [World.setDetails, same]

variable (flow d r w) in
theorem addFound_orders (response : Option (List Order)) :
    (addFound flow d r response w).orders = w.orders := by
  cases r with
  | home | orders => rfl
  | offers =>
    cases response with
    | none => rfl
    | some response =>
      rw [addFound, addOffers_eq]
      rfl

variable (flow d w) in
theorem shown_addFound_of_ne (response : Option (List Order)) (h : q ≠ r) :
    shown flow d q (addFound flow d r response w) = shown flow d q w := by
  cases r with
  | home =>
    cases q with
    | home => exact absurd rfl h
    | orders | offers => rfl
  | orders =>
    cases q with
    | orders => exact absurd rfl h
    | home => rfl
    | offers => simp [shown, addFound, addOrders, World.setDetails]
  | offers =>
    cases response with
    | none => rfl
    | some response =>
      rw [addFound, addOffers_eq]
      cases q with
      | offers => exact absurd rfl h
      | home => rfl
      | orders => simp [shown, World.setDetails]

variable (flow d r w) in
theorem shown_addFound_none : shown flow d r (addFound flow d r none w) = shown flow d r w := by
  cases r with
  | home => simp [shown, addFound, addHome, World.setHome]
  | orders => simp [shown, addFound, addOrders, World.setDetails]
  | offers => rfl

variable (flow d r w) in
theorem shown_addFound_some (docs : List Order) :
    shown flow d r (addFound flow d r (some docs) w) =
      if r = .offers ∧ ¬ filters d w then parts flow r docs
      else ((shown flow d r w).1 ++ (parts flow r docs).1,
        (shown flow d r w).2 ++ (parts flow r docs).2) := by
  cases r with
  | home => simp [shown, parts, addFound, addHome, World.setHome]
  | orders => simp [shown, parts, addFound, addOrders, World.setDetails]
  | offers =>
    simp only [addFound, addOffers_eq, shown, parts, World.setDetails, Function.update_self,
      true_and]
    by_cases hfilters : filters d w
    · rw [if_pos hfilters, if_neg (not_not.2 hfilters), List.filter_append, List.filter_filter]
      simp only [Bool.and_self, List.nil_append]
    · rw [if_neg hfilters, if_pos hfilters]

theorem queryOrders_congr {w v : World} (h : v.orders = w.orders) (driverId : String) :
    queryOrders .driverId driverId v = queryOrders .driverId driverId w := by
  unfold queryOrders
  rw [h]

theorem due_congr {v : World} (h : v.orders = w.orders) : due flow d r v = due flow d r w := by
  rw [due, due, queryOrders_congr h]

theorem queryOrders_perm (driverId : String) (w : World) :
    (queryOrders .driverId driverId w).Perm (ordersOf driverId w) := List.perm_insertionSort ..

theorem exact_of_due (h : shown flow d r w = due flow d r w) : exact flow d r w := by
  obtain ⟨hpast, hcurrent⟩ := Prod.ext_iff.1 h
  have lists {past current : List Order} {docs : List Order}
      (hpast : past = docs.filter isDelivered)
      (hcurrent : current = docs.filter fun o => !isDelivered o) {orders : List Order}
      (hdocs : docs.Perm orders) : ListsExactly past current orders := by
    subst hpast hcurrent
    refine ⟨(List.filter_append_perm isDelivered docs).trans hdocs, fun o ho => ?_, fun o ho => ?_⟩
    · exact (List.mem_filter.1 ho).2
    · simpa only [Bool.not_eq_true'] using (List.mem_filter.1 ho).2
  cases r with
  | home => exact lists hpast hcurrent (queryOrders_perm _ w)
  | orders => exact lists hpast hcurrent (queryOrders_perm _ w)
  | offers =>
    have offers : (w.details d).ordersList.filter (available flow) = _ := hcurrent
    rw [exact, offers]
    exact (queryOrders_perm "" w).filter _

theorem exact_congr {v : World} (hshown : shown flow d r v = shown flow d r w)
    (horders : v.orders = w.orders) (h : exact flow d r w) : exact flow d r v := by
  obtain ⟨hpast, hcurrent⟩ := Prod.ext_iff.1 hshown
  have docs (driverId : String) : ordersOf driverId v = ordersOf driverId w := by
    rw [ordersOf, ordersOf, horders]
  cases r with
  | home =>
    have past : (v.homes d).pastOrders = (w.homes d).pastOrders := hpast
    have current : (v.homes d).currentOrders = (w.homes d).currentOrders := hcurrent
    rwa [exact, past, current, docs]
  | orders =>
    have past : (v.details d).pastOrders = (w.details d).pastOrders := hpast
    have current : (v.details d).currentOrders = (w.details d).currentOrders := hcurrent
    rwa [exact, past, current, docs]
  | offers =>
    have offers : (v.details d).ordersList.filter (available flow) =
      (w.details d).ordersList.filter (available flow) := hcurrent
    rwa [exact, offers, docs]

def tracks (flow : StatusLists) (d : Device) (r : Reload) (w : Reloading) : Prop :=
  exact flow d r w.state ∨ shown flow d r w.state = ([], []) ∧ ∃ c ∈ w.calls, c.1 = r

def sameOrders (w : Reloading) : Prop :=
  ∀ c ∈ w.calls, ∀ u, c.2 = some (some u) → u.orders = w.state.orders

variable {x y : Reloading} {m : Move Reload}

theorem found_eq {driverId : String} {docs : List Order} (h : found driverId w = some docs) :
    docs = queryOrders .driverId driverId w := by
  unfold found at h
  split at h
  · exact (Option.some_inj.1 h).symm
  · cases h

theorem step_sameOrders (hs : x.step (reloadScript flow d) m = some y) (hx : sameOrders x) :
    sameOrders y := by
  intro c hc u hu
  cases m with
  | start r =>
    cases hs
    have orders : (clearLists d r x.state).orders = x.state.orders := clearLists_orders
    rcases List.mem_append.1 hc with hc | hc
    · exact (hx c hc u hu).trans orders.symm
    · obtain rfl := List.mem_singleton.1 hc
      cases hu
  | serve i =>
    simp only [Machine.step] at hs
    split at hs
    case h_2 => cases hs
    cases hs
    rcases List.mem_or_eq_of_mem_set hc with hc | rfl
    · exact hx c hc u hu
    · cases hu
      rfl
  | lose i =>
    simp only [Machine.step] at hs
    split at hs
    case h_2 => cases hs
    cases hs
    rcases List.mem_or_eq_of_mem_set hc with hc | rfl
    · exact hx c hc u hu
    · cases hu
  | resume i =>
    simp only [Machine.step] at hs
    split at hs
    case h_2 => cases hs
    rename_i r answer _
    cases hs
    rcases List.mem_append.1 hc with hc | hc
    · exact (hx c (List.mem_of_mem_eraseIdx hc) u hu).trans (addFound_orders ..).symm
    · exact absurd hc List.not_mem_nil

theorem start_tracks (hs : x.step (reloadScript flow d) (.start r) = some y) :
    tracks flow d r y := by
  cases hs
  exact .inr ⟨shown_clearLists, (r, none), List.mem_append_right _ (List.mem_singleton_self _), rfl⟩

theorem tracks_other {i : ℕ} {answer : Option World} (hne : r ≠ q)
    (hi : x.calls[i]? = some (q, some answer)) (hx : tracks flow d r x) :
    tracks flow d r ⟨addFound flow d q (response d q answer) x.state, x.calls.eraseIdx i⟩ := by
  have same := shown_addFound_of_ne flow d x.state (response d q answer) hne
  rcases hx with hexact | ⟨hempty, hcall⟩
  · exact .inl (exact_congr same (addFound_orders ..) hexact)
  · exact .inr ⟨same.trans hempty, Machine.mem_eraseIdx hi hne hcall⟩

theorem tracks_found {calls : List (Reload × Option (Option World))} {docs : List Order}
    (hdocs : docs = queryOrders .driverId (askedFor d r) x.state)
    (h : shown flow d r x.state = ([], []) ∨ due flow d r x.state = ([], []) ∨
      r = .offers ∧ ¬ filters d x.state)
    (hx : tracks flow d r x) : tracks flow d r ⟨addFound flow d r (some docs) x.state, calls⟩ := by
  have added := shown_addFound_some flow d r x.state docs
  have found : parts flow r docs = due flow d r x.state := by rw [due, hdocs]
  have orders := addFound_orders flow d r x.state (some docs)
  rw [found] at added
  by_cases hreplaces : r = .offers ∧ ¬ filters d x.state
  · rw [if_pos hreplaces] at added
    exact .inl (exact_of_due (added.trans (due_congr orders).symm))
  rw [if_neg hreplaces] at added
  rcases h with hempty | hnothing | hreplaces'
  · rw [hempty] at added
    exact .inl (exact_of_due (added.trans (due_congr orders).symm))
  · rw [hnothing] at added
    simp only [List.append_nil] at added
    refine .inl ?_
    rcases hx with hexact | ⟨hempty, -⟩
    · exact exact_congr added orders hexact
    · refine exact_of_due ((added.trans hempty).trans ?_)
      rw [due_congr orders, hnothing]
  · exact absurd hreplaces' hreplaces

theorem tracks_lost {calls : List (Reload × Option (Option World))}
    (h : shown flow d r x.state ≠ ([], []) ∨ due flow d r x.state = ([], []) ∨
      ∃ c ∈ calls, c.1 = r)
    (hx : tracks flow d r x) : tracks flow d r ⟨addFound flow d r none x.state, calls⟩ := by
  have same := shown_addFound_none flow d r x.state
  have orders := addFound_orders flow d r x.state none
  rcases hx with hexact | ⟨hempty, -⟩
  · exact .inl (exact_congr same orders hexact)
  · rcases h with hfull | hnothing | hcall
    · exact absurd hempty hfull
    · refine .inl (exact_of_due ((same.trans hempty).trans ?_))
      rw [due_congr orders, hnothing]
    · exact .inr ⟨same.trans hempty, hcall⟩

theorem step_tracks (hsame : sameOrders x) (hm : harmless flow d x m = true)
    (hs : x.step (reloadScript flow d) m = some y) (hx : tracks flow d r x) :
    tracks flow d r y := by
  cases m with
  | start q =>
    by_cases hq : q = r
    · subst hq
      exact start_tracks hs
    · cases hs
      have same := shown_clearLists_of_ne flow d x.state (Ne.symm hq)
      rcases hx with hexact | ⟨hempty, c, hc, hr⟩
      · exact .inl (exact_congr same clearLists_orders hexact)
      · exact .inr ⟨same.trans hempty, c, List.mem_append_left _ hc, hr⟩
  | serve i | lose i =>
    simp only [Machine.step] at hs
    split at hs
    case h_2 => cases hs
    rename_i hi
    cases hs
    rcases hx with hexact | ⟨hempty, hcall⟩
    · exact .inl hexact
    · exact .inr ⟨hempty, Machine.mem_set hi hcall⟩
  | resume i =>
    simp only [Machine.step] at hs
    split at hs
    case h_2 => cases hs
    rename_i q answer hi
    cases hs
    simp only [Machine.launch, reloadScript, List.map_nil, List.append_nil]
    by_cases hq : r = q
    case neg => exact tracks_other hq hi hx
    subst hq
    simp only [harmless, hi] at hm
    change tracks flow d r ⟨addFound flow d r (response d r answer) x.state, x.calls.eraseIdx i⟩
    cases hresponse : response d r answer with
    | none =>
      rw [hresponse] at hm
      exact tracks_lost (of_decide_eq_true hm) hx
    | some docs =>
      rw [hresponse] at hm
      obtain ⟨u, hu, hfound⟩ := Option.bind_eq_some_iff.1 hresponse
      subst hu
      have orders := hsame _ (List.mem_of_getElem? hi) u rfl
      exact tracks_found ((found_eq hfound).trans (queryOrders_congr orders _))
        (of_decide_eq_true hm) hx

theorem run_tracks {ms : List (Move Reload)} (hsame : sameOrders x)
    (hx : tracks flow d r x ∨ .start r ∈ ms)
    (hm : x.meets (reloadScript flow d) (harmless flow d) ms = true)
    (hrun : x.exec (reloadScript flow d) ms = some y) : tracks flow d r y := by
  induction ms generalizing x with
  | nil =>
    cases hrun
    exact hx.resolve_right List.not_mem_nil
  | cons m ms ih =>
    obtain ⟨u, hu, hrun⟩ := Option.bind_eq_some_iff.1 hrun
    simp only [Machine.meets, hu, Option.all_some, Bool.and_eq_true] at hm
    refine ih (step_sameOrders hu hsame) ?_ hm.2 hrun
    rcases hx with hx | hstart
    · exact .inl (step_tracks hsame hm.1 hu hx)
    · rcases List.mem_cons.1 hstart with rfl | hlater
      · exact .inl (start_tracks hu)
      · exact .inr hlater

/-- Where all answers are harmless, the lists that were reloaded are exact as soon as no reload
    is under way. -/
theorem reloads_exact (flow : StatusLists) (d : Device) (r : Reload) {w : World}
    {ms : List (Move Reload)} {v : Pool World Access Bool}
    (hrun : exec (reloadHandler flow d) ⟨w, []⟩ ms = some v)
    (hm : Machine.meets (reloadScript flow d) (harmless flow d) ⟨w, []⟩ ms = true)
    (hstart : .start r ∈ ms) (hrest : v.slots = []) : exact flow d r v.state := by
  obtain ⟨y, hy, hv⟩ := Machine.exec_matches reload_follows (Machine.matches_idle w) hrun
  have fresh : sameOrders (⟨w, []⟩ : Reloading) := fun c hc => absurd hc List.not_mem_nil
  rw [hv.1]
  rcases run_tracks fresh (.inr hstart) hm hy with hexact | ⟨-, c, hc, -⟩
  · exact hexact
  · rw [hv.idle hrest] at hc
    exact absurd hc List.not_mem_nil

theorem omar_ne_empty : "omar" ≠ "" := by decide

def omar : Device := ⟨⟨"omar", omar_ne_empty⟩, .driver, 0⟩

def acceptedFirst : StatusLists := ⟨["Placed", "Accepted"], ["On the way", "Successfully Delivered"]⟩

def omarsOrders : World where
  orders := (((∅ : Std.TreeMap String Order).insert "1" {
    date := 1, driverId := "omar", status := "Successfully Delivered" }).insert "2" {
      date := 2, driverId := "omar", status := "On the way" }).insert "3" {
        date := 3, status := "Accepted" }

def reloadsAll : List (Move Reload) :=
  [.start .home, .start .orders, .start .offers, .serve 2, .serve 0, .serve 1, .resume 1, .resume 1,
    .resume 0]

def afterReloads (ms : List (Move Reload)) : Pool World Access Bool :=
  Pool.after (reloadHandler acceptedFirst omar) ⟨omarsOrders, []⟩ ms

theorem omars_orders_exact : exact acceptedFirst omar .orders (afterReloads reloadsAll).state :=
  reloads_exact acceptedFirst omar .orders (exec_after (w := ⟨omarsOrders, []⟩)
    (by decide +kernel : (exec (reloadHandler acceptedFirst omar) ⟨omarsOrders, []⟩
      reloadsAll).isSome)) (by decide +kernel) (by decide +kernel) (by decide +kernel)

def reloadsTwice : List (Move Reload) :=
  [.start .orders, .start .orders, .serve 0, .serve 1, .resume 0, .resume 0]

/-- All orders are listed twice. -/
theorem omars_orders_doubled : ¬ ∀ (flow : StatusLists) (d : Device) (r : Reload) (w : World)
    (ms : List (Move Reload)) (v : Pool World Access Bool), d.logInType = .driver →
    exec (reloadHandler flow d) ⟨w, []⟩ ms = some v → .start r ∈ ms → v.slots = [] →
      exact flow d r v.state := by
  intro h
  have lists : exact acceptedFirst omar .orders (afterReloads reloadsTwice).state :=
    h acceptedFirst omar .orders omarsOrders reloadsTwice _ rfl
      (exec_after (by decide +kernel)) (by decide +kernel) (by decide +kernel)
  have shown : ((afterReloads reloadsTwice).state.details omar).pastOrders.length +
      ((afterReloads reloadsTwice).state.details omar).currentOrders.length = 4 := by decide +kernel
  have stored : (ordersOf omar.uid (afterReloads reloadsTwice).state).length = 2 := by
    decide +kernel
  have once := lists.once.length_eq
  rw [List.length_append, shown, stored] at once
  cases once

end Gherass.OrdersController
