import Gherass.TextNumbers
import Gherass.FarmRatings
import Mathlib.Tactic.IntervalCases
import Mathlib.Tactic.NormNum
import Mathlib.Tactic.Ring

set_option autoImplicit false

/-!
# The shares of the stars

The inventory page shows beside each row of stars how many of a hundred ratings have them. Every
row is rounded by itself.
-/
namespace Gherass.Ratings

/-- `x.toStringAsFixed(0)` of what is not negative -/
def toFixedZero (x : ℚ) : String := toString (round x)

namespace InventoryController

variable (c : InventoryController)

def fetchRatingPercentage (rating : ℚ) : String :=
  if c.farmerRatings ≠ [] then
    toFixedZero (((c.farmerRatings.filter fun r => r = rating).length : ℚ) /
      c.farmerRatings.length * 100)
  else "0"

/-- A row with the half stars above it; `int.parse` throws where there is no number. -/
def starRow (stars : ℚ) : Option String := do
  let whole ← intTryParse (c.fetchRatingPercentage stars)
  let half ← intTryParse (c.fetchRatingPercentage (stars + 1 / 2))
  pure (toString (whole + half) ++ "%")

def starRows : Option (List String) := do
  let rows ← [4, 3, 2, 1].mapM c.starRow
  pure ((c.fetchRatingPercentage 5 ++ "%") :: rows)

def share (rating : ℚ) : ℚ := ((c.farmerRatings.count rating : ℚ) / c.farmerRatings.length) * 100

/-- How many of a hundred ratings have at least one star. -/
def starred : ℚ :=
  ((c.farmerRatings.countP fun r => r ≠ 0 : ℚ) / c.farmerRatings.length) * 100

variable {c}

theorem fetchRatingPercentage_eq (rating : ℚ) :
    c.fetchRatingPercentage rating = toString (round (c.share rating)) := by
  have hcount : (c.farmerRatings.filter fun r => r = rating).length =
      c.farmerRatings.count rating := List.countP_eq_length_filter.symm
  unfold fetchRatingPercentage
  split
  case isTrue => rw [hcount]; rfl
  case isFalse hnil =>
    have hzero : c.share rating = 0 := by simp [share, not_not.1 hnil]
    rw [hzero, round_zero]
    rfl

theorem share_zero {rating : ℚ} (h : rating ∉ c.farmerRatings) : c.share rating = 0 := by
  simp [share, List.count_eq_zero_of_not_mem h]

theorem round_share_fits (rating : ℚ) : fitsInt64 (round (c.share rating)) := by
  have count_le : (c.farmerRatings.count rating : ℚ) ≤ c.farmerRatings.length := by
    exact_mod_cast List.count_le_length
  have hlow : 0 ≤ c.share rating := by
    unfold share
    positivity
  have hhigh : c.share rating ≤ 100 := by
    have := div_le_one_of_le₀ count_le (Nat.cast_nonneg _)
    unfold share
    linarith
  have near := abs_le.1 (abs_sub_round (c.share rating))
  have low : -1 ≤ round (c.share rating) := by
    have : ((-1 : ℤ) : ℚ) ≤ round (c.share rating) := by push_cast; linarith
    exact_mod_cast this
  have high : round (c.share rating) ≤ 101 := by
    have : (round (c.share rating) : ℚ) ≤ (101 : ℤ) := by push_cast; linarith
    exact_mod_cast this
  unfold fitsInt64
  omega

def WholeStars (ratings : List ℚ) : Prop := ∀ r ∈ ratings, ∃ n : ℕ, n ≤ 5 ∧ r = n

theorem half_not_mem {ratings : List ℚ} (h : WholeStars ratings) (n : ℕ) :
    (n : ℚ) + 1 / 2 ∉ ratings := by
  intro hmem
  obtain ⟨m, -, hm⟩ := h _ hmem
  have : 2 * n + 1 = 2 * m := by
    have hq : (2 * n + 1 : ℚ) = 2 * m := by linarith
    exact_mod_cast hq
  omega

theorem starRow_eq (h : WholeStars c.farmerRatings) (n : ℕ) :
    c.starRow n = some (toString (round (c.share n)) ++ "%") := by
  simp only [starRow, fetchRatingPercentage_eq, intTryParse_toString (round_share_fits _),
    share_zero (half_not_mem h n), round_zero, intTryParse_toString fits_zero, Option.bind_eq_bind,
    Option.bind_some, add_zero]
  rfl

def rounded (c : InventoryController) : List ℤ := [5, 4, 3, 2, 1].map fun n => round (c.share n)

theorem starRows_eq (h : WholeStars c.farmerRatings) :
    c.starRows = some (c.rounded.map fun n => toString n ++ "%") := by
  have four := starRow_eq h 4
  have three := starRow_eq h 3
  have two := starRow_eq h 2
  have one := starRow_eq h 1
  push_cast at four three two one
  simp only [starRows, List.mapM_cons, List.mapM_nil, four, three, two, one,
    fetchRatingPercentage_eq, Option.pure_def, Option.bind_eq_bind, Option.bind_some]
  rfl

theorem count_stars {ratings : List ℚ} (h : WholeStars ratings) :
    ratings.count 5 + ratings.count 4 + ratings.count 3 + ratings.count 2 + ratings.count 1 =
      ratings.countP fun r => r ≠ 0 := by
  induction ratings with
  | nil => rfl
  | cons r ratings ih =>
    have ih := ih fun r hr => h r (List.mem_cons_of_mem _ hr)
    obtain ⟨n, hn, rfl⟩ := h r List.mem_cons_self
    simp only [List.count_cons, List.countP_cons, ← ih]
    interval_cases n
    all_goals norm_num
    all_goals omega

theorem sum_shares (h : WholeStars c.farmerRatings) :
    c.share 5 + c.share 4 + c.share 3 + c.share 2 + c.share 1 = c.starred := by
  have hcount : (c.farmerRatings.count 5 + c.farmerRatings.count 4 + c.farmerRatings.count 3 +
      c.farmerRatings.count 2 + c.farmerRatings.count 1 : ℚ) =
      c.farmerRatings.countP fun r => r ≠ 0 := by exact_mod_cast count_stars h
  rw [starred, ← hcount]
  simp only [share]
  ring

/-- The five rows together are right up to what rounding each of them may cost. -/
theorem rows_add_up (h : WholeStars c.farmerRatings) :
    ∃ shown : List ℤ, c.starRows = some (shown.map fun n => toString n ++ "%") ∧
      shown.length = 5 ∧ |(shown.sum : ℚ) - c.starred| ≤ 5 / 2 := by
  refine ⟨c.rounded, starRows_eq h, rfl, ?_⟩
  rw [← sum_shares h]
  have five := abs_sub_round (c.share 5)
  have four := abs_sub_round (c.share 4)
  have three := abs_sub_round (c.share 3)
  have two := abs_sub_round (c.share 2)
  have one := abs_sub_round (c.share 1)
  simp only [rounded, List.map_cons, List.map_nil, List.sum_cons, List.sum_nil, Int.cast_add,
    Int.cast_zero, abs_le] at *
  constructor
  · linarith
  · linarith

theorem rows_add_up_three : ∃ shown : List ℤ,
    starRows { farmerRatings := [5, 4, 4] } = some (shown.map fun n => toString n ++ "%") ∧
      shown.length = 5 ∧ |(shown.sum : ℚ) - starred { farmerRatings := [5, 4, 4] }| ≤ 5 / 2 :=
  rows_add_up (c := { farmerRatings := [5, 4, 4] }) fun r hr => by
    rcases List.mem_cons.1 hr with rfl | hr
    · exact ⟨5, by decide, rfl⟩
    · exact ⟨4, by decide, List.eq_of_mem_replicate (n := 2) hr⟩

end InventoryController

end Gherass.Ratings
