import Gherass.EventLoopRuns

set_option autoImplicit false

/-!
# Invariants and stable facts of interleaved programs

`inv` holds of every state and `rel` relates every state to the later ones, so that a
program may use after an await what it saw before it, as far as `rel` carries it.
Each program is checked alone; the run rule puts any number of them together.
-/
namespace EventLoop

variable {σ ι ρ η α : Type}

/-- What all programs of a system promise one another. `shows` is what their calls
    and notes meet when they take effect. -/
structure Contract (σ ι : Type) where
  inv : σ → Prop
  rel : σ → σ → Prop
  shows : ι → σ → Prop
  refl : ∀ s, rel s s
  trans : ∀ {s t u}, rel s t → rel t u → rel s u

namespace Contract

variable (C : Contract σ ι)

/-- `f` keeps the invariant and takes a state to one that may come later. -/
def Keeps (f : σ → σ) : Prop := ∀ s, C.inv s → C.inv (f s) ∧ C.rel s (f s)

/-- The contract that only says that what `p` sees of the state does not change. -/
def ofFrame (p : σ → α) : Contract σ ι :=
  ⟨fun _ => True, fun s t => p t = p s, fun _ _ => True, fun _ => rfl, fun h h' => h'.trans h⟩

/-- What the contract's calls are shown to meet, as a guard. -/
def shown : Guard σ ι η := ⟨fun _ _ => True, C.shows, fun _ _ => True⟩

theorem keeps_id : C.Keeps id := fun s hs => ⟨hs, C.refl s⟩

end Contract

variable (C : Contract σ ι) (g : Guard σ ι η)

namespace Task

/-- Run from `s` among programs that keep the contract, the task keeps it too, as
    long as its moves meet the guard. -/
def Safe : Task σ ι ρ → σ → Prop
  | .done _, _ => True
  | .stop, _ => True
  | .seg f k, s => C.inv (f s) ∧ C.rel s (f s) ∧ (k s).Safe (f s)
  | .note l k, s => g.access l s → C.shows l s ∧ k.Safe s
  | .fork p q, s => p.Safe s ∧ (C.inv (p.settle s).1 → C.rel s (p.settle s).1 →
      q.Safe (p.settle s).1)
  | .call l f k lost, s => ∀ t, C.inv t → C.rel s t →
      (g.access l t → C.shows l t ∧ C.inv (f t) ∧ C.rel t (f t) ∧
        ∀ u, C.inv u → C.rel (f t) u → (k t).Safe u) ∧
      (g.lost l t → ∀ u, C.inv u → C.rel t u → lost.Safe u)

variable {C g}

theorem Safe.later {t : Task σ ι ρ} {s : σ} {u : Task σ ι ρ} (hu : u ∈ (t.settle s).2)
    {a b : σ} (h : u.Safe C g a) (hab : C.rel a b) : u.Safe C g b := by
  induction t generalizing s with
  | done | stop => cases hu
  | seg f k ih => exact ih s hu
  | note l k ih => exact ih hu
  | fork p q ihp ihq =>
    rcases List.mem_append.1 hu with hp | hq
    · exact ihp hp
    · exact ihq hq
  | call l f k lost =>
    obtain rfl := List.mem_singleton.1 hu
    exact fun t ht hr => h t ht (C.trans hab hr)

theorem Safe.settle {t : Task σ ι ρ} {s : σ} (h : t.Safe C g s) (hs : C.inv s)
    (hn : t.Notes g.access s) : C.inv (t.settle s).1 ∧ C.rel s (t.settle s).1 ∧
      t.Notes C.shows s ∧ ∀ u ∈ (t.settle s).2, u.Safe C g (t.settle s).1 := by
  induction t generalizing s with
  | done | stop => exact ⟨hs, C.refl s, trivial, fun u hu => by cases hu⟩
  | seg f k ih =>
    obtain ⟨hi, hr, hk⟩ := h
    obtain ⟨ti, tr, tn, tk⟩ := ih s hk hi hn
    exact ⟨ti, C.trans hr tr, tn, tk⟩
  | note l k ih =>
    obtain ⟨hl, hk⟩ := h hn.1
    obtain ⟨ti, tr, tn, tk⟩ := ih hk hs hn.2
    exact ⟨ti, tr, ⟨hl, tn⟩, tk⟩
  | fork p q ihp ihq =>
    obtain ⟨pi, pr, pn, pk⟩ := ihp h.1 hs hn.1
    obtain ⟨qi, qr, qn, qk⟩ := ihq (h.2 pi pr) pi hn.2
    refine ⟨qi, C.trans pr qr, ⟨pn, qn⟩, fun u hu => ?_⟩
    rcases List.mem_append.1 hu with hp | hq
    · exact Safe.later hp (pk u hp) qr
    · exact qk u hq
  | call l f k lost =>
    refine ⟨hs, C.refl s, trivial, fun u hu => ?_⟩
    obtain rfl := List.mem_singleton.1 hu
    exact h

end Task

/-- Whatever the state, every effect of the task keeps the contract, as far as its leaves.
    What it starts on the way does so to the end. -/
inductive Task.Keeping (C : Contract σ ι) : (Task σ ι ρ → Prop) → Task σ ι ρ → Prop where
  | leaf {leaf : Task σ ι ρ → Prop} {t : Task σ ι ρ} (ht : leaf t) : Keeping C leaf t
  | seg {leaf : Task σ ι ρ → Prop} {f : σ → σ} {k : σ → Task σ ι ρ} (hf : C.Keeps f)
    (hk : ∀ s, Keeping C leaf (k s)) : Keeping C leaf (.seg f k)
  | note {leaf : Task σ ι ρ → Prop} {l : ι} {k : Task σ ι ρ} (hl : ∀ s, C.inv s → C.shows l s)
    (hk : Keeping C leaf k) : Keeping C leaf (.note l k)
  | call {leaf : Task σ ι ρ → Prop} {l : ι} {f : σ → σ} {k : σ → Task σ ι ρ} {lost : Task σ ι ρ}
    (hf : C.Keeps f) (hl : ∀ s, C.inv s → C.shows l s) (hk : ∀ s, Keeping C leaf (k s))
    (hlost : Keeping C leaf lost) : Keeping C leaf (.call l f k lost)
  | fork {leaf : Task σ ι ρ → Prop} {p q : Task σ ι ρ} (hp : Keeping C (· = .stop) p)
    (hq : Keeping C leaf q) : Keeping C leaf (.fork p q)

namespace Task.Keeping

variable {C g} {leaf leaf' : Task σ ι ρ → Prop}

theorem trans {t : Task σ ι ρ} (h : t.Keeping C leaf)
    (hleaf : ∀ u, leaf u → u.Keeping C leaf') : t.Keeping C leaf' := by
  induction h generalizing leaf' with
  | leaf ht => exact hleaf _ ht
  | seg hf _ ih => exact .seg hf fun s => ih s hleaf
  | note hl _ ih => exact .note hl (ih hleaf)
  | call hf hl _ _ ihk ihl => exact .call hf hl (fun s => ihk s hleaf) (ihl hleaf)
  | fork hp _ _ ihq => exact .fork hp (ihq hleaf)

theorem safe {t : Task σ ι ρ} (h : t.Keeping C leaf) {s : σ} (hs : C.inv s)
    (hleaf : ∀ u v, leaf u → C.inv v → C.rel s v → u.Safe C g v) : t.Safe C g s := by
  induction h generalizing s with
  | leaf ht => exact hleaf _ s ht hs (C.refl s)
  | seg hf _ ih =>
    obtain ⟨hi, hr⟩ := hf s hs
    exact ⟨hi, hr, ih s hi fun u v hu hv hr' => hleaf u v hu hv (C.trans hr hr')⟩
  | note hl _ ih => exact fun _ => ⟨hl s hs, ih hs hleaf⟩
  | call hf hl _ _ ihk ihl =>
    refine fun t ht hr => ⟨fun _ => ?_, fun _ u hu hr' => ihl hu fun p v hp hv hr'' =>
      hleaf p v hp hv (C.trans (C.trans hr hr') hr'')⟩
    obtain ⟨hi, hr'⟩ := hf t ht
    exact ⟨hl t ht, hi, hr', fun u hu hr'' => ihk t hu fun p v hp hv hr₃ =>
      hleaf p v hp hv (C.trans (C.trans (C.trans hr hr') hr'') hr₃)⟩
  | fork _ _ ihp ihq =>
    refine ⟨ihp hs fun u _ hu _ _ => ?_, fun ht hr => ihq ht fun u v hu hv hr' =>
      hleaf u v hu hv (C.trans hr hr')⟩
    rw [hu]
    trivial

theorem alone {ok : ι → Bool} {t : Task σ ι ρ} (h : t.Keeping C leaf)
    (hleaf : ∀ u, leaf u → u = .stop) {s : σ} (hs : C.inv s) :
    C.inv (t.alone ok s).2 ∧ C.rel s (t.alone ok s).2 := by
  induction h generalizing s with
  | leaf ht =>
    rw [hleaf _ ht]
    exact ⟨hs, C.refl s⟩
  | seg hf _ ih =>
    obtain ⟨hi, hr⟩ := hf s hs
    have tail := ih s hleaf hi
    exact ⟨tail.1, C.trans hr tail.2⟩
  | note _ _ ih => exact ih hleaf hs
  | call hf _ _ _ ihk ihl =>
    simp only [Task.alone]
    split
    · obtain ⟨hi, hr⟩ := hf s hs
      have tail := ihk s hleaf hi
      exact ⟨tail.1, C.trans hr tail.2⟩
    · exact ihl hleaf hs
  | fork _ _ ihp ihq =>
    have head := ihp (fun _ hu => hu) hs
    have tail := ihq hleaf head.1
    exact ⟨tail.1, C.trans head.2 tail.2⟩

end Task.Keeping

def Slot.Safe : Slot σ ι ρ → σ → Prop
  | .asked t, s => ∀ u, C.inv u → C.rel s u → t.Safe C g u
  | .answered t, s => ∀ u, C.inv u → C.rel s u → t.Safe C g u

def Pool.Safe (w : Pool σ ι ρ) : Prop := C.inv w.state ∧ ∀ x ∈ w.slots, x.Safe C g w.state

variable {C g}

theorem Slot.Safe.later {x : Slot σ ι ρ} {s t : σ} (h : x.Safe C g s) (hst : C.rel s t) :
    x.Safe C g t := by
  cases x with
  | asked p | answered p => exact fun u hu hr => h u hu (C.trans hst hr)

theorem Pool.Safe.launch {w : Pool σ ι ρ} {rest : List (Slot σ ι ρ)} {t : Task σ ι ρ}
    (hi : C.inv w.state) (hrest : ∀ x ∈ rest, x.Safe C g w.state)
    (ht : t.Safe C g w.state) (hn : t.Notes g.access w.state) :
    (w.launch rest t).Safe C g ∧ C.rel w.state (w.launch rest t).state ∧
      t.Notes C.shows w.state := by
  obtain ⟨ti, tr, tn, tk⟩ := ht.settle hi hn
  refine ⟨⟨ti, fun x hx => ?_⟩, tr, tn⟩
  rcases List.mem_append.1 hx with hx | hx
  · exact (hrest x hx).later tr
  · obtain ⟨p, hp, rfl⟩ := List.mem_map.1 hx
    exact fun u _ hr => Task.Safe.later hp (tk p hp) hr

theorem Pool.Safe.step {handler : η → Task σ ι ρ} {w v : Pool σ ι ρ} {m : Move η}
    (handlers : ∀ e s, C.inv s → g.start e s → (handler e).Safe C g s)
    (h : w.Safe C g) (hm : Meets handler g w m) (hs : step handler w m = some v) :
    v.Safe C g ∧ C.rel w.state v.state ∧ Meets handler C.shown w m := by
  obtain ⟨hi, hslots⟩ := h
  cases m with
  | start e =>
    cases hs
    obtain ⟨hv, hr, hn⟩ := Pool.Safe.launch hi hslots (handlers e _ hi hm.1) hm.2
    exact ⟨hv, hr, trivial, hn⟩
  | serve i =>
    simp only [EventLoop.step] at hs
    split at hs
    case h_2 => cases hs
    rename_i l f k lost hx
    simp only [Meets, hx] at hm ⊢
    cases hs
    obtain ⟨hl, fi, fr, fk⟩ :=
      (hslots _ (List.mem_of_getElem? hx) _ hi (C.refl _) _ hi (C.refl _)).1 hm
    refine ⟨⟨fi, fun x hx' => ?_⟩, fr, hl⟩
    rcases List.mem_or_eq_of_mem_set hx' with hx' | rfl
    · exact (hslots x hx').later fr
    · exact fk
  | lose i =>
    simp only [EventLoop.step] at hs
    split at hs
    case h_2 => cases hs
    rename_i l f k lost hx
    simp only [Meets, hx] at hm ⊢
    cases hs
    have fk := (hslots _ (List.mem_of_getElem? hx) _ hi (C.refl _) _ hi (C.refl _)).2 hm
    refine ⟨⟨hi, fun x hx' => ?_⟩, C.refl _, trivial⟩
    rcases List.mem_or_eq_of_mem_set hx' with hx' | rfl
    · exact hslots x hx'
    · exact fk
  | resume i =>
    simp only [EventLoop.step] at hs
    split at hs
    case h_2 => cases hs
    rename_i t hx
    simp only [Meets, hx] at hm ⊢
    cases hs
    exact Pool.Safe.launch hi (fun x hx' => hslots x (List.mem_of_mem_eraseIdx hx'))
      (hslots _ (List.mem_of_getElem? hx) _ hi (C.refl _)) hm

/-- The run rule: if every handler is safe, every state of a run that meets the guard
    keeps the invariant and stands in `rel` to the states before it. -/
theorem Run.safe {handler : η → Task σ ι ρ} {w v : Pool σ ι ρ}
    (handlers : ∀ e s, C.inv s → g.start e s → (handler e).Safe C g s)
    (h : Run handler g w v) (hw : w.Safe C g) : v.Safe C g ∧ C.rel w.state v.state := by
  induction h with
  | refl => exact ⟨hw, C.refl _⟩
  | next m _ hm hs ih =>
    obtain ⟨hv, hr⟩ := ih
    obtain ⟨hw', hr', -⟩ := hv.step handlers hm hs
    exact ⟨hw', C.trans hr hr'⟩

/-- The same along a list of moves, with what its calls and notes meet. -/
theorem Meeting.safe {handler : η → Task σ ι ρ} {w v : Pool σ ι ρ} {ms : List (Move η)}
    (handlers : ∀ e s, C.inv s → g.start e s → (handler e).Safe C g s)
    (hm : Meeting handler g w ms) (hx : exec handler w ms = some v) (hw : w.Safe C g) :
    v.Safe C g ∧ C.rel w.state v.state ∧ Meeting handler C.shown w ms := by
  induction ms generalizing w with
  | nil =>
    cases hx
    exact ⟨hw, C.refl _, trivial⟩
  | cons m ms ih =>
    obtain ⟨u, hu, hx⟩ := Option.bind_eq_some_iff.1 hx
    simp only [Meeting, hu] at hm ⊢
    obtain ⟨hsafe, hr, hshow⟩ := hw.step handlers hm.1 hu
    obtain ⟨hv, hr', hrest⟩ := ih hm.2 hx hsafe
    exact ⟨hv, C.trans hr hr', hshow, hrest⟩

/-- The state after events whose programs run alone, one after another; each comes with the
    calls that go through. -/
def runEach (handler : η → Task σ ι ρ) : σ → List (η × (ι → Bool)) → σ
  | s, [] => s
  | s, turn :: turns => runEach handler ((handler turn.1).alone turn.2 s).2 turns

def EachMeets (handler : η → Task σ ι ρ) (p : η → (ι → Bool) → σ → Prop) :
    σ → List (η × (ι → Bool)) → Prop
  | _, [] => True
  | s, turn :: turns => p turn.1 turn.2 s ∧
    EachMeets handler p ((handler turn.1).alone turn.2 s).2 turns

/-- Whether each event meets `p` can be checked by running them. -/
def decidableEachMeets (handler : η → Task σ ι ρ) {p : η → (ι → Bool) → σ → Prop}
    (hp : ∀ e ok s, Decidable (p e ok s)) :
    (s : σ) → (turns : List (η × (ι → Bool))) → Decidable (EachMeets handler p s turns)
  | _, [] => .isTrue trivial
  | s, turn :: turns => @instDecidableAnd _ _ (hp turn.1 turn.2 s)
      (decidableEachMeets handler hp ((handler turn.1).alone turn.2 s).2 turns)

instance (handler : η → Task σ ι ρ) (p : η → (ι → Bool) → σ → Prop)
    [hp : ∀ e ok s, Decidable (p e ok s)] (s : σ) (turns : List (η × (ι → Bool))) :
    Decidable (EachMeets handler p s turns) := decidableEachMeets handler hp s turns

theorem EachMeets.mono {handler : η → Task σ ι ρ} {p q : η → (ι → Bool) → σ → Prop}
    (hpq : ∀ e ok s, p e ok s → q e ok s) {turns : List (η × (ι → Bool))} {s : σ}
    (h : EachMeets handler p s turns) : EachMeets handler q s turns := by
  induction turns generalizing s with
  | nil => trivial
  | cons turn turns ih => exact ⟨hpq _ _ _ h.1, ih h.2⟩

end EventLoop
