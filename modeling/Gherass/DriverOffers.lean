import Gherass.DriverSession

set_option autoImplicit false

/-!
# The orders a driver is offered

The list goes by the second status of the farmer's list, and only while no details are open; the
button goes by the last one. Neither of the two looks at both the status and the rejection.
-/
namespace Gherass.OrdersController

open EventLoop EventLoop.Async FirebaseHelper

variable (flow : StatusLists) (d : Device)

def takeable (o : Order) : Prop :=
  flow.farmer[1]? = some o.status ∧ o.isRejected = false ∧ o.driverId = ""

instance (o : Order) : Decidable (takeable flow o) := inferInstanceAs (Decidable (_ ∧ _ ∧ _))

/-- Of the orders that were loaded, those that can be taken are on offer. -/
def offersTakeable (w : World) : Prop :=
  ∀ o, o ∈ (w.details d).ordersList ↔ o ∈ (w.details d).allOrders ∧ takeable flow o

/-- The orders were loaded in an earlier state of the run. -/
def loadedIn (w : World) (ms : List (Move DriverEvent)) (v : World) : Prop :=
  (v.details d).allOrders = [] ∨ ∃ pre u, pre <+: ms ∧
    exec (driverHandler flow d) ⟨w, []⟩ pre = some u ∧
    (v.details d).allOrders = queryOrders .driverId "" u.state

/-- The button of the order that a tap opens is there exactly if the order can be taken. -/
def buttonRight (v : Pool World Access Bool) (index : ℕ) (o : Order) : Prop :=
  ∀ u, step (driverHandler flow d) v (.start (.selectOrder false index)) = some u →
    ((u.state.details d).showAcceptBtn = true ↔ takeable flow o)

/-- The page without details takes the loaded orders if it lists none but them, and none of those
    that the farmer has accepted is rejected; the page with details, if all of them can be taken. -/
def fits (docs : List Order) (w : World) : Prop :=
  if filters d w then (∀ o ∈ (w.details d).ordersList, o ∈ docs) ∧
    ∀ o ∈ docs, flow.farmer[1]? = some o.status → o.isRejected = false
  else ∀ o ∈ docs, takeable flow o

instance (docs : List Order) (w : World) : Decidable (fits flow d docs w) :=
  inferInstanceAs (Decidable (ite _ _ _))

/-- Whenever orders are loaded the page can take them. -/
def loadsWell (w : Machine World DriverCall) : Move DriverEvent → Bool
  | .resume i =>
    match w.calls[i]? with
    | some (.reload .offers, some answer) =>
      (response d .offers answer).all fun docs => fits flow d docs w.state
    | _ => true
  | _ => true

/-- The orders that were loaded, and those on offer. -/
def offers (w : World) : List Order × List Order :=
  ((w.details d).allOrders, (w.details d).ordersList)

variable {flow d} {w v : World}

theorem offers_clearLists (r : Reload) :
    offers d (clearLists d r w) = if r = .offers then ([], []) else offers d w := by
  cases r with
  | home => rfl
  | orders | offers => simp [offers, clearLists, World.setDetails]

theorem offers_openFound (order : Option Order) :
    offers d (openFound flow d order w) = offers d w := by
  cases order with
  | none => rfl
  | some order =>
    rw [openFound, openDetails]
    split
    · simp [offers, World.setDetails]
    · split
      · simp [offers, World.setDetails]
      · simp [offers, World.setDetails]

theorem offers_accepted : offers d (accepted flow d w).1 = ([], []) :=
  (offers_clearLists (d := d) (w := w.setDetails d fun c =>
    { c with showAcceptBtn := false, showRejectBtn := false }) .offers).trans (if_pos rfl)

theorem offers_start (e : DriverEvent) : offers d (startDriver flow d e w).1 = offers d w ∨
    offers d (startDriver flow d e w).1 = ([], []) := by
  cases e with
  | stored orders => exact .inl rfl
  | getOrders =>
    refine .inr ((offers_clearLists .orders).trans ?_)
    rw [if_neg nofun, offers_clearLists, if_pos rfl]
  | getOrdersList => exact .inr ((offers_clearLists .offers).trans (if_pos rfl))
  | fetchDriverOrders => exact .inl ((offers_clearLists .orders).trans (if_neg nofun))
  | leaveDetails => exact .inl (by simp [offers, startDriver, World.setDetails])
  | selectOrder history index => exact .inl (offers_openFound _)
  | openNotification orderId => exact .inl rfl
  | pressAccept =>
    simp only [startDriver]
    by_cases hpage : (w.details d).pageName = "detailPage" ∧ (w.details d).showAcceptBtn
    case neg =>
      rw [if_neg hpage]
      exact .inl rfl
    rw [if_pos hpage]
    split
    · split
      · exact .inr offers_accepted
      · exact .inl rfl
    · exact .inl rfl

theorem offers_acceptWrite (orderId status : String) :
    offers d (acceptWrite d orderId status w).1 = offers d w := by
  unfold acceptWrite updateOrder
  split
  · rfl
  · rfl

theorem offers_effect (c : DriverCall) :
    offers d ((driverScript flow d).effect c w) = offers d w := by
  cases c with
  | accept orderId status => exact offers_acceptWrite orderId status
  | reload | notified | loadMap => rfl

theorem offers_rest (c : DriverCall) (answer : Option World)
    (h : c = .reload .offers → response d .offers answer = none) :
    offers d ((driverScript flow d).rest c answer w).1 = offers d w ∨
      offers d ((driverScript flow d).rest c answer w).1 = ([], []) := by
  cases c with
  | reload r =>
    refine .inl ?_
    change offers d (addFound flow d r (response d r answer) w) = offers d w
    cases r with
    | home => rfl
    | orders => simp [offers, addFound, addOrders, World.setDetails]
    | offers =>
      rw [h rfl]
      rfl
  | notified orderId => exact .inl (offers_openFound _)
  | accept orderId status => exact .inr offers_accepted
  | loadMap page orderId =>
    refine .inl ?_
    change offers d (mapFound flow page (answer.bind (·.orders[orderId]?)) w) = _
    cases answer.bind (·.orders[orderId]?) with
    | none | some order => rfl

def offered (flow : StatusLists) (d : Device) (x : Machine World DriverCall)
    (ms : List (Move DriverEvent)) (y : Machine World DriverCall) : Prop :=
  offersTakeable flow d y.state ∧ ((y.state.details d).allOrders = [] ∨
    ∃ pre z, pre <+: ms ∧ x.exec (driverScript flow d) pre = some z ∧
      (y.state.details d).allOrders = queryOrders .driverId "" z.state)

variable {x y z : Machine World DriverCall} {ms : List (Move DriverEvent)} {m : Move DriverEvent}

theorem offersTakeable_congr (h : offers d v = offers d w) :
    offersTakeable flow d v ↔ offersTakeable flow d w := by
  obtain ⟨hall, hlist⟩ := Prod.mk.inj h
  rw [offersTakeable, offersTakeable, hall, hlist]

theorem offered_cleared (h : offers d y.state = ([], [])) : offered flow d x ms y := by
  obtain ⟨hall, hlist⟩ := Prod.mk.inj h
  refine ⟨fun o => ?_, .inl hall⟩
  rw [hall, hlist]
  simp

theorem offered_of_offers (h : offers d z.state = offers d y.state ∨ offers d z.state = ([], []))
    (hy : offered flow d x ms y) : offered flow d x (ms ++ [m]) z := by
  rcases h with hsame | hcleared
  · have hall : (z.state.details d).allOrders = (y.state.details d).allOrders :=
      (Prod.mk.inj hsame).1
    refine ⟨(offersTakeable_congr hsame).2 hy.1, ?_⟩
    rw [hall]
    rcases hy.2 with hnone | ⟨pre, u, hpre, hu, horders⟩
    · exact .inl hnone
    · exact .inr ⟨pre, u, hpre.trans (List.prefix_append ..), hu, horders⟩
  · exact offered_cleared hcleared

theorem mem_queryOrders {driverId : String} {o : Order}
    (h : o ∈ queryOrders .driverId driverId w) : o.driverId = driverId := by
  have found : o ∈ ordersOf driverId w := (queryOrders_perm driverId w).subset h
  exact of_decide_eq_true (List.mem_filter.1 found).2

theorem offersTakeable_addOffers {docs : List Order} (hdocs : ∀ o ∈ docs, o.driverId = "")
    (hfits : fits flow d docs w) (hw : offersTakeable flow d w) :
    offersTakeable flow d (addOffers flow d docs w) := by
  rw [addOffers_eq]
  unfold fits at hfits
  intro o
  simp only [World.setDetails, Function.update_self]
  by_cases hfilters : filters d w
  · rw [if_pos hfilters] at hfits ⊢
    rw [List.mem_append, List.mem_filter, available, decide_eq_true_eq]
    constructor
    · rintro (hold | ⟨hmem, hstatus⟩)
      · exact ⟨hfits.1 o hold, ((hw o).1 hold).2⟩
      · exact ⟨hmem, hstatus, hfits.2 o hmem hstatus, hdocs o hmem⟩
    · rintro ⟨hmem, hstatus, -⟩
      exact .inr ⟨hmem, hstatus⟩
  · rw [if_neg hfilters] at hfits ⊢
    exact ⟨fun hmem => ⟨hmem, hfits o hmem⟩, fun h => h.1⟩

theorem step_offered (hserved : Machine.ServedIn (driverScript flow d) x ms y)
    (hm : loadsWell flow d y m = true) (hs : y.step (driverScript flow d) m = some z)
    (hy : offered flow d x ms y) : offered flow d x (ms ++ [m]) z := by
  cases m with
  | start e =>
    cases hs
    exact offered_of_offers (offers_start e) hy
  | serve i =>
    simp only [Machine.step] at hs
    split at hs
    case h_2 => cases hs
    cases hs
    rename_i c _
    have same : offers d ((driverScript flow d).effect c y.state) = offers d y.state :=
      offers_effect c
    exact offered_of_offers (.inl same) hy
  | lose i =>
    simp only [Machine.step] at hs
    split at hs
    case h_2 => cases hs
    cases hs
    exact offered_of_offers (.inl rfl) hy
  | resume i =>
    simp only [Machine.step] at hs
    split at hs
    case h_2 => cases hs
    rename_i c answer hcall
    cases hs
    by_cases hload : c = .reload .offers ∧ (response d .offers answer).isSome
    case neg =>
      refine offered_of_offers (offers_rest c answer fun hc => ?_) hy
      exact Option.not_isSome_iff_eq_none.1 fun hsome => hload ⟨hc, hsome⟩
    obtain ⟨rfl, hsome⟩ := hload
    obtain ⟨docs, hdocs⟩ := Option.isSome_iff_exists.1 hsome
    obtain ⟨u, rfl, hfound⟩ := Option.bind_eq_some_iff.1 hdocs
    have loaded : docs = queryOrders .driverId "" u := found_eq hfound
    simp only [loadsWell, hcall, hdocs, Option.all_some, decide_eq_true_eq] at hm
    change offered flow d x (ms ++ [.resume i])
      ⟨addFound flow d .offers (response d .offers (some u)) y.state, _⟩
    rw [hdocs]
    have driverless (o : Order) (ho : o ∈ docs) : o.driverId = "" := by
      rw [loaded] at ho
      exact mem_queryOrders ho
    refine ⟨offersTakeable_addOffers driverless hm hy.1, .inr ?_⟩
    obtain ⟨pre, v, hpre, hv, rfl⟩ := hserved _ u (List.mem_of_getElem? hcall)
    refine ⟨pre, v, hpre.trans (List.prefix_append ..), hv, ?_⟩
    change ((addOffers flow d docs y.state).details d).allOrders = _
    rw [addOffers_eq, ← loaded]
    simp only [World.setDetails, Function.update_self]

theorem run_offered {w : World} (hempty : offers d w = ([], []))
    (hm : Machine.meets (driverScript flow d) (loadsWell flow d) ⟨w, []⟩ ms = true)
    (hx : Machine.exec (driverScript flow d) ⟨w, []⟩ ms = some y) :
    offered flow d ⟨w, []⟩ ms y := by
  have start : Machine.ServedIn (driverScript flow d) ⟨w, []⟩ [] ⟨w, []⟩ ∧
      offered flow d ⟨w, []⟩ [] ⟨w, []⟩ :=
    ⟨fun c u hc => absurd hc List.not_mem_nil, offered_cleared hempty⟩
  refine (Machine.exec_keeps (P := fun ms y => Machine.ServedIn (driverScript flow d) ⟨w, []⟩ ms y ∧
    offered flow d ⟨w, []⟩ ms y) (fun ms y z m hy hj hm hs => ?_) rfl start hm hx).2
  exact ⟨Machine.step_served hy hj.1 hs, step_offered hj.1 hm hs hj.2⟩

theorem opened_button (hd : d.logInType = .driver) {v u : Pool World Access Bool} {index : ℕ}
    {o : Order} {last : String} (ho : (v.state.details d).ordersList[index]? = some o)
    (hrejected : o.isRejected = false) (hlast : flow.farmer.getLast? = some last)
    (hu : step (driverHandler flow d) v (.start (.selectOrder false index)) = some u) :
    (u.state.details d).showAcceptBtn = decide (last = o.status) := by
  have opened : u.state = openDetails flow d o v.state := by
    cases hu
    change ((driverHandler flow d (.selectOrder false index)).settle v.state).1 = _
    rw [(driver_follows hd).start]
    change openFound flow d (v.state.details d).ordersList[index]? v.state = _
    rw [ho]
    rfl
  rw [opened, openDetails, hrejected, if_neg nofun, hlast]
  simp only [World.setDetails, Function.update_self]

theorem buttonRight_iff (hd : d.logInType = .driver) {v : Pool World Access Bool} {index : ℕ}
    {o : Order} (ho : (v.state.details d).ordersList[index]? = some o) (htake : takeable flow o) :
    buttonRight flow d v index o ↔ flow.farmer.getLast? = flow.farmer[1]? := by
  have hstatus : flow.farmer[1]? = some o.status := htake.1
  obtain ⟨last, hlast⟩ : ∃ last, flow.farmer.getLast? = some last := by
    cases hfarmer : flow.farmer with
    | nil =>
      rw [hfarmer] at hstatus
      cases hstatus
    | cons first rest => exact ⟨_, List.getLast?_cons⟩
  rw [hlast, hstatus, Option.some_inj]
  constructor
  · intro h
    have shown := (h _ rfl).2 htake
    rw [opened_button hd ho htake.2.1 hlast rfl] at shown
    exact of_decide_eq_true shown
  · intro hsame u hu
    rw [opened_button hd ho htake.2.1 hlast hu, decide_eq_true hsame]
    exact iff_of_true rfl htake

/-- Where the page can take all that is loaded, those of the loaded orders that can be taken are
    on offer, and they can be accepted if the farmer's second status is the last one. -/
theorem driver_offers (flow : StatusLists) (d : Device) (hd : d.logInType = .driver) {w : World}
    {ms : List (Move DriverEvent)} {v : Pool World Access Bool} (hempty : offers d w = ([], []))
    (hrun : exec (driverHandler flow d) ⟨w, []⟩ ms = some v)
    (hm : Machine.meets (driverScript flow d) (loadsWell flow d) ⟨w, []⟩ ms = true) :
    offersTakeable flow d v.state ∧ loadedIn flow d w ms v.state ∧
      ∀ index o, (v.state.details d).ordersList[index]? = some o →
        (buttonRight flow d v index o ↔ flow.farmer.getLast? = flow.farmer[1]?) := by
  have follows : Machine.Follows (driverScript flow d) (driverHandler flow d) (driverCall flow d) :=
    driver_follows hd
  obtain ⟨y, hy, hv⟩ := Machine.exec_matches follows (Machine.matches_idle w) hrun
  have kept : offered flow d ⟨w, []⟩ ms y := run_offered hempty hm hy
  have listed : offersTakeable flow d v.state := by
    rw [hv.1]
    exact kept.1
  refine ⟨listed, ?_, fun index o ho => buttonRight_iff hd ho ?_⟩
  · rw [loadedIn, hv.1]
    rcases kept.2 with hnone | ⟨pre, z, hpre, hz, hloaded⟩
    · exact .inl hnone
    · obtain ⟨u, hu⟩ := Machine.exec_prefix hrun hpre
      obtain ⟨z', hz', hmatches⟩ := Machine.exec_matches follows (Machine.matches_idle w) hu
      obtain rfl : z' = z := Option.some_inj.1 (hz'.symm.trans hz)
      refine .inr ⟨pre, u, hpre, hu, ?_⟩
      rw [hmatches.1]
      exact hloaded
  · exact ((listed o).1 (List.mem_of_getElem? ho)).2

def twoOrders (status : String) : World where
  orders := ((∅ : Std.TreeMap String Order).insert "1" {
    date := 2, orderID := some "1", status := "Accepted" }).insert "2" {
      date := 1, orderID := some "2", status := status }

def acceptsFirst : List (Move DriverEvent) :=
  [.start .getOrdersList, .serve 0, .resume 0, .start (.selectOrder false 0), .start .pressAccept,
    .serve 0, .resume 0, .serve 0, .resume 0]

def afterMoves (w : World) (ms : List (Move DriverEvent)) : Pool World Access Bool :=
  Pool.after (driverHandler acceptedFirst omar) ⟨w, []⟩ ms

theorem other_offered :
    offersTakeable acceptedFirst omar (afterMoves (twoOrders "Accepted") acceptsFirst).state ∧
      buttonRight acceptedFirst omar (afterMoves (twoOrders "Accepted") acceptsFirst) 0
        { date := 1, orderID := some "2", status := "Accepted" } := by
  obtain ⟨hlist, -, hbuttons⟩ := driver_offers acceptedFirst omar rfl (w := twoOrders "Accepted")
    (by decide +kernel) (exec_after (by decide +kernel :
      (exec (driverHandler acceptedFirst omar) ⟨twoOrders "Accepted", []⟩ acceptsFirst).isSome))
    (by decide +kernel)
  exact ⟨hlist, (hbuttons 0 _ (by decide +kernel)).2 rfl⟩

/-- An order that its farmer has not accepted yet is offered. -/
theorem placed_offered : ¬ ∀ (flow : StatusLists) (d : Device) (w : World)
    (ms : List (Move DriverEvent)) (v : Pool World Access Bool), 2 ≤ flow.farmer.length →
    d.logInType = .driver → offers d w = ([], []) →
    exec (driverHandler flow d) ⟨w, []⟩ ms = some v →
      offersTakeable flow d v.state ∧ ∀ index o, (v.state.details d).ordersList[index]? = some o →
        buttonRight flow d v index o := by
  intro h
  have lists := (h acceptedFirst omar (twoOrders "Placed") acceptsFirst _ (by decide) rfl
    (by decide +kernel) (exec_after (by decide +kernel))).1
  have listed : ({ date := 1, orderID := some "2", status := "Placed" } : Order) ∈
      ((afterMoves (twoOrders "Placed") acceptsFirst).state.details omar).ordersList := by
    decide +kernel
  exact absurd ((lists _).1 listed).2.1 (by decide)

end Gherass.OrdersController
