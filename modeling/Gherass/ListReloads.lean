import Mathlib.Tactic.ByContra
import Mathlib.Tactic.TypeStar

set_option autoImplicit false

/-!
# Pages that are loaded again

A page shows what it last fetched. A reload first clears the collection of what is out of date,
and then fills the page, unless nothing is left.
-/
namespace ListReloads

variable {σ α β ε : Type*}

/-- A page over a collection. `left` says before a reload whether it will find anything. -/
structure Reload (σ α β : Type*) where
  run : σ → σ
  stored : σ → List α
  shown : σ → β
  view : σ → List α → β
  blank : β
  left : σ → Prop
  view_nil : ∀ s, view s [] = blank
  left_iff : ∀ s, left s ↔ stored (run s) ≠ []
  fills : ∀ s, left s → shown (run s) = view (run s) (stored (run s))
  keeps : ∀ s, ¬ left s → shown (run s) = shown s

/-- What happens to the collection and the page: an event of the owner's, or a reload. -/
inductive Turn (ε : Type*) where
  | own (e : ε)
  | reload

namespace Reload

variable (R : Reload σ α β) (op : ε → σ → σ)

/-- After the reload, the page shows what is stored then. -/
def ShowsStored (s : σ) : Prop := R.shown (R.run s) = R.view (R.run s) (R.stored (R.run s))

/-- The reload finds something, or there was nothing on show. -/
def Fresh (s : σ) : Prop := R.left s ∨ R.shown s = R.blank

theorem showsStored_iff (s : σ) : R.ShowsStored s ↔ R.Fresh s := by
  by_cases hleft : R.left s
  · exact iff_of_true (R.fills s hleft) (.inl hleft)
  · have nothing : R.stored (R.run s) = [] := by
      by_contra h
      exact hleft ((R.left_iff s).2 h)
    rw [ShowsStored, R.keeps s hleft, nothing, R.view_nil]
    exact ⟨.inr, fun h => h.resolve_left hleft⟩

def EveryReload (P : σ → Prop) : σ → List (Turn ε) → Prop
  | _, [] => True
  | s, .own e :: turns => EveryReload P (op e s) turns
  | s, .reload :: turns => P s ∧ EveryReload P (R.run s) turns

theorem everyReload_iff (turns : List (Turn ε)) (s : σ) :
    R.EveryReload op R.ShowsStored s turns ↔ R.EveryReload op R.Fresh s turns := by
  induction turns generalizing s with
  | nil => exact Iff.rfl
  | cons turn turns ih =>
    cases turn with
    | own e => exact ih (op e s)
    | reload => exact and_congr (R.showsStored_iff s) (ih (R.run s))

end Reload

end ListReloads
