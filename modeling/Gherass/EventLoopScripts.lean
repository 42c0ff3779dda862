import Gherass.EventLoopSimulation

set_option autoImplicit false

/-!
# Programs in flight as data

A script names the calls that the programs of a handler may await, and says what each of them
does when it takes effect and when it is answered. The pool of programs then moves as a machine
does whose state is plain data.
-/
namespace EventLoop

variable {σ ι ρ κ η : Type}

/-- What an event and an answer do to the state, and the calls that are awaited then. The answer
    to a call is the state in which it took effect, or nothing if it was lost. -/
structure Script (σ κ η : Type) where
  start : η → σ → σ × List κ
  effect : κ → σ → σ
  rest : κ → Option σ → σ → σ × List κ

/-- The state, and the calls in flight, with the answer of those that are answered. -/
structure Machine (σ κ : Type) where
  state : σ
  calls : List (κ × Option (Option σ))

namespace Machine

def launch (rest : List (κ × Option (Option σ))) (r : σ × List κ) : Machine σ κ :=
  ⟨r.1, rest ++ r.2.map (·, none)⟩

variable (S : Script σ κ η)

def step (w : Machine σ κ) : Move η → Option (Machine σ κ)
  | .start e => some (launch w.calls (S.start e w.state))
  | .serve i =>
    match w.calls[i]? with
    | some (c, none) => some ⟨S.effect c w.state, w.calls.set i (c, some (some w.state))⟩
    | _ => none
  | .lose i =>
    match w.calls[i]? with
    | some (c, none) => some ⟨w.state, w.calls.set i (c, some none)⟩
    | _ => none
  | .resume i =>
    match w.calls[i]? with
    | some (c, some a) => some (launch (w.calls.eraseIdx i) (S.rest c a w.state))
    | _ => none

def exec (w : Machine σ κ) : List (Move η) → Option (Machine σ κ)
  | [] => some w
  | m :: ms => (w.step S m).bind fun v => v.exec ms

/-- Every move meets the condition in the state that it is made in. -/
def meets (allowed : Machine σ κ → Move η → Bool) : Machine σ κ → List (Move η) → Bool
  | _, [] => true
  | w, m :: ms => allowed w m && (w.step S m).all fun v => v.meets allowed ms

variable {S}

variable {calls : List (κ × Option (Option σ))} {i : ℕ} {c c' : κ} {a b : Option (Option σ)}

theorem mem_set (hi : calls[i]? = some (c, a)) (h : ∃ x ∈ calls, x.1 = c') :
    ∃ x ∈ calls.set i (c, b), x.1 = c' := by
  obtain ⟨x, hx, hc⟩ := h
  obtain ⟨j, hj⟩ := List.mem_iff_getElem?.1 hx
  by_cases hij : i = j
  · subst hij
    have key : c = c' := by
      rw [hi] at hj
      rw [← hc, ← Option.some_inj.1 hj]
    have bound : i < calls.length := (List.getElem?_eq_some_iff.1 hi).1
    exact ⟨(c, b), List.mem_set bound _, key⟩
  · exact ⟨x, List.mem_iff_getElem?.2 ⟨j, by rw [List.getElem?_set_ne hij, hj]⟩, hc⟩

theorem mem_eraseIdx (hi : calls[i]? = some (c, a)) (hne : c' ≠ c)
    (h : ∃ x ∈ calls, x.1 = c') : ∃ x ∈ calls.eraseIdx i, x.1 = c' := by
  obtain ⟨x, hx, hc⟩ := h
  obtain ⟨j, hj⟩ := List.mem_iff_getElem?.1 hx
  refine ⟨x, List.mem_eraseIdx_iff_getElem?.2 ⟨j, fun hij => hne ?_, hj⟩, hc⟩
  rw [hij, hi] at hj
  rw [← hc, ← Option.some_inj.1 hj]

/-- The programs of the handler follow the script; `tasks` are the calls as they are awaited. -/
structure Follows (S : Script σ κ η) (handler : η → Task σ ι ρ) (tasks : κ → Task σ ι ρ) :
    Prop where
  start (e : η) (s : σ) :
    (handler e).settle s = ((S.start e s).1, (S.start e s).2.map tasks)
  call (c : κ) : ∃ l k lost, tasks c = .call l (S.effect c) k lost ∧
    (∀ u s, (k u).settle s = ((S.rest c (some u) s).1, (S.rest c (some u) s).2.map tasks)) ∧
    ∀ s, lost.settle s = ((S.rest c none s).1, (S.rest c none s).2.map tasks)

def IsCall (S : Script σ κ η) (tasks : κ → Task σ ι ρ) :
    Slot σ ι ρ → κ × Option (Option σ) → Prop
  | .asked t, (c, none) => t = tasks c
  | .answered t, (c, some a) => ∀ s, t.settle s = ((S.rest c a s).1, (S.rest c a s).2.map tasks)
  | _, _ => False

def Matches (S : Script σ κ η) (tasks : κ → Task σ ι ρ) (w : Pool σ ι ρ) (r : Machine σ κ) :
    Prop :=
  w.state = r.state ∧ List.Forall₂ (IsCall S tasks) w.slots r.calls

variable {tasks : κ → Task σ ι ρ} {handler : η → Task σ ι ρ} {w v : Pool σ ι ρ}
  {r : Machine σ κ}

theorem isCall_asked {t : Task σ ι ρ} {x : κ × Option (Option σ)}
    (h : IsCall S tasks (.asked t) x) : x = (x.1, none) ∧ t = tasks x.1 := by
  obtain ⟨c, a⟩ := x
  cases a with
  | none => exact ⟨rfl, h⟩
  | some a => exact h.elim

theorem isCall_answered {t : Task σ ι ρ} {x : κ × Option (Option σ)}
    (h : IsCall S tasks (.answered t) x) : ∃ a, x = (x.1, some a) ∧
      ∀ s, t.settle s = ((S.rest x.1 a s).1, (S.rest x.1 a s).2.map tasks) := by
  obtain ⟨c, a⟩ := x
  cases a with
  | none => exact h.elim
  | some a => exact ⟨a, rfl, h⟩

theorem matches_launch {xs : List (Slot σ ι ρ)} {cs : List (κ × Option (Option σ))}
    (h : List.Forall₂ (IsCall S tasks) xs cs) (hstate : w.state = r.state) {t : Task σ ι ρ}
    {q : σ × List κ} (ht : t.settle r.state = (q.1, q.2.map tasks)) :
    Matches S tasks (w.launch xs t) (launch cs q) := by
  rw [Matches, Pool.launch, launch, hstate, ht]
  refine ⟨rfl, List.rel_append h ?_⟩
  dsimp only
  induction q.2 with
  | nil => exact .nil
  | cons c l ih => exact .cons rfl ih

theorem step_matches (hS : Follows S handler tasks) (hw : Matches S tasks w r) {m : Move η}
    (hs : EventLoop.step handler w m = some v) :
    ∃ r', r.step S m = some r' ∧ Matches S tasks v r' := by
  obtain ⟨hstate, hslots⟩ := hw
  cases m with
  | start e =>
    cases hs
    exact ⟨_, rfl, matches_launch hslots hstate (hS.start e r.state)⟩
  | serve i =>
    simp only [EventLoop.step] at hs
    split at hs
    case h_2 => cases hs
    rename_i l f k lost hx
    cases hs
    obtain ⟨x, hx', hcall, -, hset⟩ := forall₂_at hslots hx
    obtain ⟨hasked, htask⟩ := isCall_asked hcall
    rw [hasked] at hx'
    obtain ⟨l', k', lost', hc, hk, -⟩ := hS.call x.1
    obtain ⟨-, rfl, rfl, -⟩ := Task.call.inj (htask.trans hc)
    refine ⟨⟨S.effect x.1 r.state, r.calls.set i (x.1, some (some r.state))⟩, ?_, ?_, hset _ _ ?_⟩
    · simp only [step, hx']
    · rw [hstate]
    · rw [hstate]
      exact hk r.state
  | lose i =>
    simp only [EventLoop.step] at hs
    split at hs
    case h_2 => cases hs
    rename_i l f k lost hx
    cases hs
    obtain ⟨x, hx', hcall, -, hset⟩ := forall₂_at hslots hx
    obtain ⟨hasked, htask⟩ := isCall_asked hcall
    rw [hasked] at hx'
    obtain ⟨l', k', lost', hc, -, hlost⟩ := hS.call x.1
    obtain ⟨-, -, -, rfl⟩ := Task.call.inj (htask.trans hc)
    refine ⟨⟨r.state, r.calls.set i (x.1, some none)⟩, ?_, hstate, hset _ _ hlost⟩
    simp only [step, hx']
  | resume i =>
    simp only [EventLoop.step] at hs
    split at hs
    case h_2 => cases hs
    rename_i t hx
    cases hs
    obtain ⟨x, hx', hcall, herase, -⟩ := forall₂_at hslots hx
    obtain ⟨a, hanswered, hends⟩ := isCall_answered hcall
    rw [hanswered] at hx'
    refine ⟨launch (r.calls.eraseIdx i) (S.rest x.1 a r.state), ?_,
      matches_launch herase hstate (hends r.state)⟩
    simp only [step, hx']

theorem exec_matches (hS : Follows S handler tasks) {ms : List (Move η)}
    (hw : Matches S tasks w r) (hx : EventLoop.exec handler w ms = some v) :
    ∃ r', r.exec S ms = some r' ∧ Matches S tasks v r' := by
  induction ms generalizing w r with
  | nil =>
    cases hx
    exact ⟨r, rfl, hw⟩
  | cons m ms ih =>
    obtain ⟨u, hu, hx⟩ := Option.bind_eq_some_iff.1 hx
    obtain ⟨r₁, hr₁, hu'⟩ := step_matches hS hw hu
    obtain ⟨r₂, hr₂, hv⟩ := ih hu' hx
    exact ⟨r₂, Option.bind_eq_some_iff.2 ⟨r₁, hr₁, hr₂⟩, hv⟩

theorem exec_append {x y : Machine σ κ} {ms ms' : List (Move η)} (h : x.exec S ms = some y) :
    x.exec S (ms ++ ms') = y.exec S ms' := by
  induction ms generalizing x with
  | nil =>
    cases h
    rfl
  | cons m ms ih =>
    obtain ⟨u, hu, h⟩ := Option.bind_eq_some_iff.1 h
    rw [List.cons_append, exec, hu, Option.bind_some, ih h]

theorem exec_keeps {allowed : Machine σ κ → Move η → Bool}
    {P : List (Move η) → Machine σ κ → Prop} {x y z : Machine σ κ} {ms ms' : List (Move η)}
    (hstep : ∀ ms y z m, x.exec S ms = some y → P ms y → allowed y m = true →
      y.step S m = some z → P (ms ++ [m]) z)
    (hx : x.exec S ms = some y) (hy : P ms y) (hm : y.meets S allowed ms' = true)
    (hz : y.exec S ms' = some z) : P (ms ++ ms') z := by
  induction ms' generalizing y ms with
  | nil =>
    cases hz
    rw [List.append_nil]
    exact hy
  | cons m ms' ih =>
    obtain ⟨u, hu, hz⟩ := Option.bind_eq_some_iff.1 hz
    simp only [meets, hu, Option.all_some, Bool.and_eq_true] at hm
    have next : x.exec S (ms ++ [m]) = some u := by
      rw [exec_append hx, exec, hu]
      rfl
    have later := ih next (hstep ms y u m hx hy hm.1 hu) hm.2 hz
    rwa [List.append_assoc, List.singleton_append] at later

def ServedIn (S : Script σ κ η) (x : Machine σ κ) (ms : List (Move η)) (y : Machine σ κ) : Prop :=
  ∀ c u, (c, some (some u)) ∈ y.calls →
    ∃ pre z, pre <+: ms ∧ x.exec S pre = some z ∧ z.state = u

theorem step_served {x y z : Machine σ κ} {ms : List (Move η)} {m : Move η}
    (hx : x.exec S ms = some y) (hy : ServedIn S x ms y) (hs : y.step S m = some z) :
    ServedIn S x (ms ++ [m]) z := by
  have earlier (c : κ) (u : σ) (h : (c, some (some u)) ∈ y.calls) :
      ∃ pre z, pre <+: ms ++ [m] ∧ x.exec S pre = some z ∧ z.state = u := by
    obtain ⟨pre, v, hpre, hv⟩ := hy c u h
    exact ⟨pre, v, hpre.trans (List.prefix_append ..), hv⟩
  have asked (l : List κ) (c : κ) (u : σ) : (c, some (some u)) ∉ l.map (·, none) := by
    simp only [List.mem_map, Prod.mk.injEq, reduceCtorEq, and_false, exists_false,
      not_false_eq_true]
  intro c u hc
  cases m with
  | start e =>
    cases hs
    exact earlier c u ((List.mem_append.1 hc).resolve_right (asked _ c u))
  | serve i =>
    simp only [step] at hs
    split at hs
    case h_2 => cases hs
    cases hs
    rcases List.mem_or_eq_of_mem_set hc with hc | heq
    · exact earlier c u hc
    · cases heq
      exact ⟨ms, y, List.prefix_append .., hx, rfl⟩
  | lose i =>
    simp only [step] at hs
    split at hs
    case h_2 => cases hs
    cases hs
    rcases List.mem_or_eq_of_mem_set hc with hc | heq
    · exact earlier c u hc
    · cases heq
  | resume i =>
    simp only [step] at hs
    split at hs
    case h_2 => cases hs
    cases hs
    exact earlier c u (List.mem_of_mem_eraseIdx ((List.mem_append.1 hc).resolve_right (asked _ c u)))

theorem exec_prefix {ms pre : List (Move η)} (hx : EventLoop.exec handler w ms = some v)
    (hpre : pre <+: ms) : ∃ u, EventLoop.exec handler w pre = some u := by
  induction pre generalizing w ms with
  | nil => exact ⟨w, rfl⟩
  | cons m pre ih =>
    obtain ⟨ms', rfl⟩ := hpre
    obtain ⟨u, hu, hx⟩ := Option.bind_eq_some_iff.1 hx
    obtain ⟨u', hu'⟩ := ih hx (List.prefix_append ..)
    exact ⟨u', Option.bind_eq_some_iff.2 ⟨u, hu, hu'⟩⟩

theorem matches_idle (s : σ) : Matches S tasks (⟨s, []⟩ : Pool σ ι ρ) ⟨s, []⟩ := ⟨rfl, .nil⟩

theorem Matches.idle (h : Matches S tasks w r) (hw : w.slots = []) : r.calls = [] := by
  obtain ⟨-, hslots⟩ := h
  rw [hw] at hslots
  exact List.forall₂_nil_left_iff.1 hslots

end Machine

end EventLoop
