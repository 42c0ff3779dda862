import Gherass.StatusOrder

set_option autoImplicit false

/-!
# What the countdown decides

A poll that is answered late decides although the ticker is cancelled, and a poll that
misses the one status it looks for leaves the order to be rejected at zero.
-/
namespace Gherass

open EventLoop EventLoop.Async FirebaseHelper OrdersTimerController

/-- A rejection by the countdown lands on an order that no one has accepted. -/
def rejectsUnaccepted (flow : StatusLists) : Access → World → Bool
  | .autoReject _ id, w => w.orders[id]?.all fun o => flow.farmer.head? = some o.status
  | _, _ => true

/-- Some countdown page has run out on the order. -/
def World.ranOut (w : World) (id : String) : Bool :=
  w.timers.toList.any fun page => page.2.orderId = id && page.2.outcomes.contains .autoRejected

/-- A poll is only answered with the order decided while its page's ticker is not
    cancelled; the countdown runs out on an order still at its first status; and no order
    is accepted or delivered after that. -/
def countdownHeeded (flow : StatusLists) : Access → World → Bool
  | .polled page status isRejected, w =>
    !(flow.farmer[1]? = some status || isRejected) || (w.timer page).ticking
  | .zeroTick page, w =>
    w.orders[(w.timer page).orderId]?.all fun o => flow.farmer.head? = some o.status
  | .acceptStatus _ id _ _, w => !w.ranOut id
  | .deliveryStatus _ id _ _, w => !w.ranOut id
  | _, _ => true

/-- One outcome at most, and none while the page ticks or before it is opened. -/
structure OneOutcome (c : OrdersTimerController) : Prop where
  le_one : c.outcomes.length ≤ 1
  ticking : c.ticking → c.outcomes = []
  unopened : c.opened = false → c.ticking = false ∧ c.outcomes = []

theorem OneOutcome.opened {c : OrdersTimerController} (h : OneOutcome c) (ht : c.ticking) :
    c.opened := by
  by_contra hc
  have := (h.unopened (by simpa using hc)).1
  rw [ht] at this
  cases this

def Untaken (flow : StatusLists) (s : World) (c : OrdersTimerController) : Prop :=
  .autoRejected ∈ c.outcomes → ∀ o, s.orders[c.orderId]? = some o →
    flow.farmer.head? = some o.status

def Follows (c c' : OrdersTimerController) : Prop :=
  c.opened → c'.opened ∧ c'.orderId = c.orderId ∧ c.outcomes ⊆ c'.outcomes

theorem Follows.refl (c : OrdersTimerController) : Follows c c := fun h => ⟨h, rfl, fun _ h => h⟩

theorem Follows.trans {a b c : OrdersTimerController} (h : Follows a b) (h' : Follows b c) :
    Follows a c := by
  intro ha
  obtain ⟨hb, hid, hout⟩ := h ha
  obtain ⟨hc, hid', hout'⟩ := h' hb
  exact ⟨hc, hid'.trans hid, fun x hx => hout' (hout hx)⟩

theorem ranOut_of_mem {w : World} {page : ℕ} (h : .autoRejected ∈ (w.timer page).outcomes) :
    w.ranOut (w.timer page).orderId := by
  unfold World.timer at h ⊢
  rw [Std.TreeMap.getD_eq_getD_getElem?] at h ⊢
  cases hc : w.timers[page]? with
  | none =>
    rw [hc] at h
    cases h
  | some c =>
    rw [hc] at h
    refine List.any_eq_true.2 ⟨(page, c), Std.TreeMap.mem_toList_iff_getElem?_eq_some.2 hc, ?_⟩
    simpa using h

theorem Untaken.put {flow : StatusLists} {s : World} {c : OrdersTimerController} {id : String}
    {o : Order} (h : Untaken flow s c) (ho : .autoRejected ∈ c.outcomes → c.orderId = id →
      flow.farmer.head? = some o.status) : Untaken flow (s.putOrder id o) c := by
  intro hout p hp
  rw [World.putOrder_get] at hp
  split at hp
  case isTrue e =>
    obtain rfl := Option.some.inj hp
    exact ho hout e.symm
  case isFalse => exact h hout p hp

structure CountdownInv (flow : StatusLists) (s : World) : Prop where
  one : ∀ page, OneOutcome (s.timer page)
  untaken : ∀ page, Untaken flow s (s.timer page)

def CountdownRel (s t : World) : Prop := ∀ page, Follows (s.timer page) (t.timer page)

theorem CountdownInv.put {flow : StatusLists} {s : World} (h : CountdownInv flow s)
    {id : String} {o : Order} (ho : ∀ page, .autoRejected ∈ (s.timer page).outcomes →
      (s.timer page).orderId = id → flow.farmer.head? = some o.status) :
    CountdownInv flow (s.putOrder id o) ∧ CountdownRel s (s.putOrder id o) :=
  ⟨⟨h.one, fun page => (h.untaken page).put (ho page)⟩, fun _ => Follows.refl _⟩

theorem CountdownInv.putSame {flow : StatusLists} {s : World} (h : CountdownInv flow s)
    {id : String} {o p : Order} (ho : s.orders[id]? = some o) (hp : p.status = o.status) :
    CountdownInv flow (s.putOrder id p) ∧ CountdownRel s (s.putOrder id p) :=
  h.put fun page hout hid => by
    rw [hp]
    exact h.untaken page hout o (hid ▸ ho)

def countdownPolicy (flow : StatusLists) : OrderPolicy flow where
  access l s := countdownHeeded flow l s
  inv := CountdownInv flow
  rel := CountdownRel
  shows l s := rejectsUnaccepted flow l s
  held _ _ _ := True
  refl _ _ := Follows.refl _
  trans h h' page := (h page).trans (h' page)
  held_later _ _ := trivial
  shows_other l s h := by
    cases l with
    | autoReject page id => exact absurd rfl (h page id)
    | _ => rfl
  frame {s t} ho ht h := by
    have same : ∀ page, t.timer page = s.timer page := fun page => by rw [World.timer, ht]; rfl
    refine ⟨⟨fun page => same page ▸ h.one page, fun page => ?_⟩, fun page => ?_⟩
    · rw [same]
      unfold Untaken
      rw [ho]
      exact h.untaken page
    · rw [same]
      exact Follows.refl _
  write {l id o s} hl ht ha _ h ho := by
    have taken : s.ranOut id = false → ∀ p : Order,
        CountdownInv flow (s.putOrder id p) ∧ CountdownRel s (s.putOrder id p) := fun hout _ =>
      h.put fun page hmem hid => by
        rw [← hid, ranOut_of_mem hmem] at hout
        cases hout
    cases l with
    | acceptStatus d i status isDriver =>
      obtain rfl : i = id := Option.some.inj ht
      exact taken (by simpa [countdownHeeded] using ha) _
    | deliveryStatus d i status shown =>
      obtain rfl : i = id := Option.some.inj ht
      exact taken (by simpa [countdownHeeded] using ha) _
    | rejectButton d i => exact h.putSame ho rfl
    | _ => cases hl
  add hstatus _ _ hfree h := h.put fun _ _ _ => by rw [List.head?_eq_getElem?]; exact hstatus
  setID ho h := h.putSame ho rfl
  own _ _ _ := trivial

namespace CountdownInv

variable {flow : StatusLists}

theorem setTimer {s : World} (h : CountdownInv flow s) {page : ℕ}
    {f : OrdersTimerController → OrdersTimerController} (one : OneOutcome (f (s.timer page)))
    (untaken : Untaken flow s (f (s.timer page))) (follows : Follows (s.timer page) (f (s.timer page))) :
    CountdownInv flow (s.setTimer page f) ∧ CountdownRel s (s.setTimer page f) := by
  refine ⟨⟨fun p => ?_, fun p => ?_⟩, fun p => ?_⟩
  · rw [World.timer_setTimer]
    split
    · exact one
    · exact h.one p
  · rw [World.timer_setTimer]
    split
    · exact untaken
    · exact h.untaken p
  · rw [World.timer_setTimer]
    split
    case isTrue e => exact e ▸ follows
    case isFalse => exact Follows.refl _

theorem conclude {s : World} (h : CountdownInv flow s) {page : ℕ}
    (ticking : (s.timer page).ticking) {outcome : Outcome} (hzero : outcome = .autoRejected →
      ∀ o, s.orders[(s.timer page).orderId]? = some o → flow.farmer.head? = some o.status) :
    CountdownInv flow (s.setTimer page (conclude outcome)) ∧
      CountdownRel s (s.setTimer page (conclude outcome)) := by
  have opened := (h.one page).opened ticking
  have none := (h.one page).ticking ticking
  refine h.setTimer ⟨?_, fun hc => (by cases hc), fun hc => ?_⟩ (fun hmem => ?_) fun _ =>
    ⟨opened, rfl, fun _ hx => List.mem_append_left _ hx⟩
  · simp [OrdersTimerController.conclude, none]
  · exact absurd (opened.symm.trans hc) (by decide)
  · simp only [OrdersTimerController.conclude, none, List.nil_append, List.mem_singleton] at hmem
    exact hzero hmem.symm

end CountdownInv

section Timers

variable {flow : StatusLists} {A : World → Prop} {page : ℕ}

theorem allows_setTimer {f : OrdersTimerController → OrdersTimerController}
    (h : ∀ s, CountdownInv flow s → A s →
      CountdownInv flow (s.setTimer page f) ∧ CountdownRel s (s.setTimer page f)) :
    (countdownPolicy flow).Allows A (setTimer page f) :=
  .change fun s hs hp => by
    obtain ⟨hi, hr⟩ := OrderPolicy.Inv.later hs (h s hs.orders hp) hs.keyed rfl rfl rfl rfl
    exact ⟨hi, hr, trivial⟩

theorem allows_openTimer (orderId : String) :
    (countdownPolicy flow).Allows A (openTimer page orderId) := by
  refine allows_setTimer fun s h _ => ?_
  have hone := h.one page
  refine h.setTimer ?_ ?_ ?_
  · split
    · exact hone
    · rename_i hc
      obtain ⟨-, hout⟩ := hone.unopened (by simpa using hc)
      exact ⟨hone.le_one, fun _ => hout, fun hc => (by cases hc)⟩
  · split
    · exact h.untaken page
    · rename_i hc
      obtain ⟨-, hout⟩ := hone.unopened (by simpa using hc)
      intro hmem
      rw [show _ = [] from hout] at hmem
      cases hmem
  · split
    · exact Follows.refl _
    · rename_i hc
      exact fun ho => absurd ho hc

theorem allows_closeTimer : (countdownPolicy flow).Allows A (closeTimer page) :=
  allows_setTimer fun s h _ =>
    have hone := h.one page
    h.setTimer ⟨hone.le_one, fun hc => (by cases hc), fun hc => ⟨rfl, (hone.unopened hc).2⟩⟩
      (h.untaken page) fun ho => ⟨ho, rfl, fun _ hx => hx⟩

theorem allows_checkOrderStatus : (countdownPolicy flow).Allows A (checkOrderStatus flow page) := by
  have plain := (countdownPolicy flow).plain
  refine .tryCatch (F := fun _ _ => True) (.bind (R := fun _ _ => True) (.look fun _ _ _ => trivial)
    fun id => .bind (R := fun _ _ => True) (quiet_getOrderStatusByid plain _).spec fun status =>
      .bind (R := fun _ _ => True) (quiet_getOrderIsRejectByid plain _).spec fun isRejected =>
        OrderPolicy.allows_bind_statusAt fun accepted haccepted =>
          .bind (R := fun _ s => accepted = status ∨ isRejected = true → (s.timer page).ticking)
            (.note fun s _ _ ha => ⟨rfl, fun hterm => ?_⟩) fun _ => ?_)
    fun _ => .pure fun _ _ => trivial
  · change countdownHeeded flow _ s at ha
    simp only [countdownHeeded, haccepted] at ha
    grind
  · split
    case isTrue e =>
      exact allows_setTimer fun s h ht => h.conclude (ht (.inl e)) fun hc => by cases hc
    case isFalse =>
      split
      · rename_i hr
        exact allows_setTimer fun s h ht => h.conclude (ht (.inr hr)) fun hc => by cases hc
      · exact .pure fun _ _ => trivial

def RanOut (page : ℕ) (id : String) (s : World) : Prop :=
  (s.timer page).opened ∧ (s.timer page).orderId = id ∧ .autoRejected ∈ (s.timer page).outcomes

theorem RanOut.later {id : String} {s t : World} (hr : CountdownRel s t)
    (h : RanOut page id s) : RanOut page id t := by
  obtain ⟨ho, hid, hout⟩ := h
  obtain ⟨ho', hid', hsub⟩ := hr page ho
  exact ⟨ho', hid'.trans hid, hsub hout⟩

theorem allows_autoRejectOrder :
    (countdownPolicy flow).Allows (fun s => ∃ id, RanOut page id s) (autoRejectOrder page) := by
  refine .bind (R := fun id s => RanOut page id s) (.look fun s _ hp => ?_) fun id =>
    OrderPolicy.allows_caught fun _ => .call (fun s t _ hp ht hr _ => ?_)
      fun _ _ _ _ _ _ _ _ _ _ => trivial
  · obtain ⟨id, ho, rfl, hout⟩ := hp
    exact ⟨ho, rfl, hout⟩
  obtain ⟨-, rfl, hout⟩ := hp.later hr.1
  have untaken := ht.orders.untaken page hout
  have hput : (countdownPolicy flow).Inv (updateOrder (t.timer page).orderId
        (fun o => { o with isRejected := true }) t).1 ∧ (countdownPolicy flow).contract.rel t
      (updateOrder (t.timer page).orderId (fun o => { o with isRejected := true }) t).1 := by
    unfold updateOrder
    cases ho : t.orders[(t.timer page).orderId]? with
    | none => exact ⟨ht, (countdownPolicy flow).contract.refl t⟩
    | some o => exact OrderPolicy.Inv.put ht (ht.keyed _ o ho) (ht.orders.putSame ho rfl)
  refine ⟨?_, hput.1, hput.2, fun u _ _ => by split <;> trivial⟩
  change rejectsUnaccepted flow _ t
  simp only [rejectsUnaccepted, Option.all_eq_true, decide_eq_true_eq]
  exact untaken

theorem allows_tick : (countdownPolicy flow).Allows A (tick flow page) := by
  refine .bind (R := fun c s => s.timer page = c) (.look fun _ _ _ => rfl) fun c => ?_
  split
  case isFalse => exact .pure fun _ _ => trivial
  case isTrue hticking =>
  split
  · refine .bind (R := fun _ s => s.timer page = c ∧ countdownHeeded flow (.zeroTick page) s)
      (.note fun s _ hp ha => ⟨rfl, hp, ha⟩) fun _ =>
      .bind (R := fun _ s => ∃ id, RanOut page id s) (.change fun s hs hp => ?_) fun _ =>
        .spawn (fun s hs hp => allows_autoRejectOrder.safe hs hp) fun _ _ _ _ _ => trivial
    obtain ⟨rfl, hzero⟩ := hp
    simp only [countdownHeeded, Option.all_eq_true, decide_eq_true_eq] at hzero
    obtain ⟨hi, hr⟩ := OrderPolicy.Inv.later (t := s.setTimer page (conclude .autoRejected)) hs
      (hs.orders.conclude hticking fun _ => hzero) hs.keyed rfl rfl rfl rfl
    refine ⟨hi, hr, (s.timer page).orderId, ?_⟩
    rw [RanOut, World.timer_setTimer, if_pos rfl]
    exact ⟨(hs.orders.one page).opened hticking, rfl, List.mem_append_right _ (List.mem_singleton.2 rfl)⟩
  · refine .bind (R := fun _ _ => True) (allows_setTimer fun s h hp => ?_) fun _ =>
      .spawn (fun s hs _ => (allows_checkOrderStatus (A := fun _ => True)).safe hs trivial)
        fun _ _ _ _ _ => trivial
    exact h.setTimer ⟨(h.one page).le_one, (h.one page).ticking, (h.one page).unopened⟩
      (h.untaken page) fun ho => ⟨ho, rfl, fun _ hx => hx⟩

theorem countdownPolicy_timers (ids : IdSupply) (e : Event) (he : e.OfTimer) :
    (countdownPolicy flow).Allows (fun _ => True) (program flow ids e) := by
  cases e with
  | openTimer page orderId => exact allows_openTimer orderId
  | tick page => exact allows_tick
  | closeTimer page => exact allows_closeTimer
  | _ => cases he

end Timers

/-- Every page carries out one outcome at most and no accepted order is rejected by a
    countdown, in every run in which no answer comes late and the orders on which a
    countdown runs out have not been accepted. -/
theorem countdown_outcome {flow : StatusLists} {ids : IdSupply} {u v : Market}
    {ms : List (Move Event)} (hu : Opening u) (hpages : ∀ page, u.state.timer page = {})
    (hm : Meeting (handler flow ids) (.landing (countdownHeeded flow)) u ms)
    (hx : exec (handler flow ids) u ms = some v) :
    (∀ page, (v.state.timer page).outcomes.length ≤ 1) ∧
      Meeting (handler flow ids) (.landing (rejectsUnaccepted flow)) u ms := by
  have start : CountdownInv flow u.state :=
    ⟨fun page => by rw [hpages]; exact ⟨by decide, fun _ => rfl, fun _ => ⟨rfl, rfl⟩⟩,
      fun page hmem => by rw [hpages] at hmem; cases hmem⟩
  obtain ⟨hv, -, hshow⟩ := Meeting.safe (g := (countdownPolicy flow).guard)
    (fun e s hs _ => (countdownPolicy flow).handler_safe ids (countdownPolicy_timers ids) e s hs)
    hm hx (hu.safe (countdownPolicy flow) start)
  exact ⟨fun page => (hv.1.orders.one page).le_one, hshow⟩

def confirmedAtOnce : List (Move Event) :=
  [.start (.openTimer 0 "1")] ++ farmerLoads ++ [.start (.pressAccept aFarmer), .serve 0,
    .start (.tick 0), .serve 1, .resume 1, .serve 1, .resume 1, .start (.tick 0)]

theorem countdown_outcome_confirmed :
    (∀ page, (((orderMarket newOrder).after smallHandler confirmedAtOnce).state.timer
        page).outcomes.length ≤ 1) ∧
      Meeting smallHandler (.landing (rejectsUnaccepted smallFlow.toStatusLists))
        (orderMarket newOrder) confirmedAtOnce :=
  countdown_outcome (opening_orderMarket _) (fun _ => rfl) (by decide +kernel)
    (exec_after (by decide +kernel))

def pickedUpUnseen : List (Move Event) :=
  [.start (.openTimer 0 "1")] ++ acceptedAndTaken ++
    (List.replicate 300 [.start (.tick 0), .serve 1, .resume 1, .serve 1, .resume 1]).flatten ++
    [.start (.tick 0), .serve 1]

theorem countdown_rejects_picked_up : ¬ ∀ (u v : Market) (ms : List (Move Event)), Opening u →
    (∀ page, u.state.timer page = {}) → exec smallHandler u ms = some v →
    (∀ page, (v.state.timer page).outcomes.length ≤ 1) ∧
      Meeting smallHandler (.landing (rejectsUnaccepted smallFlow.toStatusLists)) u ms := by
  intro h
  have run : (exec smallHandler (orderMarket newOrder) pickedUpUnseen).isSome ∧
      ¬ Meeting smallHandler (.landing (rejectsUnaccepted smallFlow.toStatusLists))
        (orderMarket newOrder) pickedUpUnseen := by decide +kernel
  exact run.2 (h _ _ _ (opening_orderMarket _) (fun _ => rfl) (exec_after run.1)).2

end Gherass
