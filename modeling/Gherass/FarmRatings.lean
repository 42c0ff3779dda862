import Mathlib.Algebra.Order.Round
import Mathlib.Algebra.Order.Archimedean.Basic
import Mathlib.Data.Rat.Floor
import Mathlib.Tactic.Linarith
import Mathlib.Tactic.Positivity

set_option autoImplicit false

/-!
# A farm's rating

The inventory page and the farm's page work out the same average, each with a loop of its own.
-/
namespace Gherass.Ratings

/-- A `double`, in exact arithmetic; nothing if it is not a number. -/
abbrev Double := Option ℚ

def divide (sum : ℚ) (length : ℕ) : Double := if length = 0 then none else some (sum / length)

/-- `double.parse(x.toStringAsFixed(1))` -/
def toFixedOne (x : ℚ) : ℚ :=
  if x < 0 then -(round (10 * -x) : ℚ) / 10 else (round (10 * x) : ℚ) / 10

structure InventoryController where
  farmerRatings : List ℚ := []
  farmRatings : Double := some 0

/-- A farmer's profile, as far as the farm's page writes it. -/
structure FarmerProfile where
  farmRatings : Double := some 0

def addRatings (farmerRatings : List ℚ) : ℚ :=
  farmerRatings.foldl (fun farmRating rating => farmRating + rating) 0

/-- `results` is what `fetchFarmerRatings` returns. -/
def InventoryController.getFarmerRatings (results : List ℚ) (c : InventoryController) :
    InventoryController :=
  { c with
    farmerRatings := results
    farmRatings := (divide (addRatings results) results.length).map toFixedOne }

def ProductController.getFarmerRatings (results : List ℚ) (profile : FarmerProfile) :
    FarmerProfile :=
  if addRatings results ≠ 0 then
    { profile with farmRatings := (divide (addRatings results) results.length).map toFixedOne }
  else { profile with farmRatings := some 0 }

/-- Both are one number between 0 and 5. -/
def OneAverage (results : List ℚ) (c : InventoryController) (profile : FarmerProfile) : Prop :=
  ∃ average, 0 ≤ average ∧ average ≤ 5 ∧ (c.getFarmerRatings results).farmRatings = some average ∧
    (ProductController.getFarmerRatings results profile).farmRatings = some average

theorem addRatings_bounds {ratings : List ℚ} (h : ∀ rating ∈ ratings, 0 ≤ rating ∧ rating ≤ 5) :
    0 ≤ addRatings ratings ∧ addRatings ratings ≤ 5 * ratings.length := by
  have loop (total : ℚ) : total ≤ ratings.foldl (fun sum rating => sum + rating) total ∧
      ratings.foldl (fun sum rating => sum + rating) total ≤ total + 5 * ratings.length := by
    induction ratings generalizing total with
    | nil => simp
    | cons rating ratings ih =>
      obtain ⟨hlow, hhigh⟩ := h rating List.mem_cons_self
      obtain ⟨ilow, ihigh⟩ := ih (fun r hr => h r (List.mem_cons_of_mem _ hr)) (total + rating)
      rw [List.foldl_cons, List.length_cons]
      push_cast
      constructor
      · linarith
      · linarith
  simpa [addRatings] using loop 0

theorem toFixedOne_bounds {x : ℚ} (hlow : 0 ≤ x) (hhigh : x ≤ 5) :
    0 ≤ toFixedOne x ∧ toFixedOne x ≤ 5 := by
  have low : 0 ≤ round (10 * x) := by
    rw [round_eq]
    apply Int.floor_nonneg.2
    linarith
  have high : round (10 * x) ≤ 50 := by
    rw [round_eq, Int.floor_le_iff]
    push_cast
    linarith
  have low' : (0 : ℚ) ≤ round (10 * x) := by exact_mod_cast low
  have high' : (round (10 * x) : ℚ) ≤ 50 := by exact_mod_cast high
  rw [toFixedOne, if_neg (not_lt.2 hlow)]
  constructor
  · linarith
  · linarith

theorem toFixedOne_zero : toFixedOne 0 = 0 := by simp [toFixedOne]

theorem divide_bounds {ratings : List ℚ} (h : ∀ rating ∈ ratings, 0 ≤ rating ∧ rating ≤ 5)
    (hne : ratings ≠ []) : ∃ average, 0 ≤ average ∧ average ≤ 5 ∧
      divide (addRatings ratings) ratings.length = some average := by
  have hlength : ratings.length ≠ 0 := fun hzero => hne (List.length_eq_zero_iff.1 hzero)
  have hpos : (0 : ℚ) < ratings.length := by exact_mod_cast Nat.pos_of_ne_zero hlength
  obtain ⟨hlow, hhigh⟩ := addRatings_bounds h
  refine ⟨addRatings ratings / ratings.length, ?_, ?_, if_neg hlength⟩
  · positivity
  · rwa [div_le_iff₀ hpos]

/-- There is one average, unless there are no ratings: the inventory page then shows what is not a
    number. -/
theorem oneAverage_iff (results : List ℚ) (h : ∀ rating ∈ results, 0 ≤ rating ∧ rating ≤ 5)
    (c : InventoryController) (profile : FarmerProfile) :
    OneAverage results c profile ↔ results ≠ [] := by
  constructor
  · rintro ⟨average, -, -, hshown, -⟩ rfl
    cases hshown
  · intro hne
    obtain ⟨average, hlow, hhigh, hdivide⟩ := divide_bounds h hne
    obtain ⟨low, high⟩ := toFixedOne_bounds hlow hhigh
    refine ⟨toFixedOne average, low, high, ?_, ?_⟩
    · rw [InventoryController.getFarmerRatings, hdivide]
      rfl
    · rw [ProductController.getFarmerRatings]
      split
      case isTrue => rw [hdivide, Option.map_some]
      case isFalse hzero =>
        have none : average = 0 := by
          rw [divide, if_neg fun hz => hne (List.length_eq_zero_iff.1 hz), not_not.1 hzero,
            zero_div] at hdivide
          exact (Option.some_inj.1 hdivide).symm
        rw [none, toFixedOne_zero]

theorem oneAverage_three : OneAverage [5, 4, 4] {} {} :=
  (oneAverage_iff [5, 4, 4] (by decide +kernel) {} {}).2 (by decide)

/-- A farm that nobody has rated. -/
theorem noAverage : ¬ ∀ (results : List ℚ), (∀ rating ∈ results, 0 ≤ rating ∧ rating ≤ 5) →
    ∀ (c : InventoryController) (profile : FarmerProfile), OneAverage results c profile := by
  intro h
  obtain ⟨average, -, -, hshown, -⟩ := h [] (by simp) {} {}
  cases hshown

end Gherass.Ratings
