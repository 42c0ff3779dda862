import Mathlib.Algebra.Group.Nat.Defs
import Mathlib.Data.Char
import Mathlib.Data.List.Lex
import Mathlib.Data.Nat.Notation
import Mathlib.Order.Lattice

set_option autoImplicit false

/-!
# The order of texts and the order of numbers

Texts of one length are compared part by part, and numbers written with the same number of
digits stand in the order of the numbers.
-/
namespace TextOrder

variable {α : Type} [LinearOrder α]

theorem append_lt_iff {a b : List α} (h : a.length = b.length) (s t : List α) :
    a ++ s < b ++ t ↔ a < b ∨ a = b ∧ s < t := by
  induction a generalizing b with
  | nil =>
    obtain rfl : b = [] := List.length_eq_zero_iff.1 h.symm
    simp
  | cons x a ih =>
    cases b with
    | nil => cases h
    | cons y b =>
      have tails := ih (Nat.succ_injective h)
      rw [List.cons_append, List.cons_append, List.cons_lt_cons_iff, List.cons_lt_cons_iff, tails,
        List.cons.injEq]
      tauto

theorem append_lt_left {a : List α} {s t : List α} : a ++ s < a ++ t ↔ s < t := by
  rw [append_lt_iff rfl]
  simp

def digits : ℕ → ℕ → List Char
  | 0, _ => []
  | w + 1, n => digits w (n / 10) ++ [Nat.digitChar (n % 10)]

theorem length_digits (w n : ℕ) : (digits w n).length = w := by
  induction w generalizing n with
  | zero => rfl
  | succ w ih => rw [digits, List.length_append, ih, List.length_singleton]

theorem digitChar_lt {m n : ℕ} (hm : m < 10) (hn : n < 10) :
    Nat.digitChar m < Nat.digitChar n ↔ m < n := by
  have all : ∀ m < 10, ∀ n < 10, Nat.digitChar m < Nat.digitChar n ↔ m < n := by decide
  exact all m hm n hn

theorem digitChar_inj {m n : ℕ} (hm : m < 10) (hn : n < 10)
    (h : Nat.digitChar m = Nat.digitChar n) : m = n := by
  have low : ¬ m < n := fun hlt => ((digitChar_lt hm hn).2 hlt).ne h
  have high : ¬ n < m := fun hlt => ((digitChar_lt hn hm).2 hlt).ne' h
  omega

theorem digits_inj {w m n : ℕ} (hm : m < 10 ^ w) (hn : n < 10 ^ w)
    (h : digits w m = digits w n) : m = n := by
  induction w generalizing m n with
  | zero => omega
  | succ w ih =>
    rw [Nat.pow_succ] at hm hn
    have lengths : (digits w (m / 10)).length = (digits w (n / 10)).length := by
      rw [length_digits, length_digits]
    obtain ⟨hinit, hlast⟩ := List.append_inj h lengths
    have init : m / 10 = n / 10 := ih (by omega) (by omega) hinit
    have last : m % 10 = n % 10 :=
      digitChar_inj (by omega) (by omega) (List.singleton_inj.1 hlast)
    omega

theorem digits_lt {w m n : ℕ} (hm : m < 10 ^ w) (hn : n < 10 ^ w) :
    digits w m < digits w n ↔ m < n := by
  induction w generalizing m n with
  | zero =>
    have same : m = n := by omega
    simp [same]
  | succ w ih =>
    rw [Nat.pow_succ] at hm hn
    have hm' : m / 10 < 10 ^ w := by omega
    have hn' : n / 10 < 10 ^ w := by omega
    have lengths : (digits w (m / 10)).length = (digits w (n / 10)).length := by
      rw [length_digits, length_digits]
    have init : digits w (m / 10) = digits w (n / 10) ↔ m / 10 = n / 10 :=
      ⟨digits_inj hm' hn', fun h => by rw [h]⟩
    have last : [Nat.digitChar (m % 10)] < [Nat.digitChar (n % 10)] ↔ m % 10 < n % 10 := by
      rw [List.cons_lt_cons_iff, digitChar_lt (by omega) (by omega)]
      simp
    rw [digits, digits, append_lt_iff lengths, ih hm' hn', init, last]
    omega

theorem toDigits_eq {w n : ℕ} (hlow : 10 ^ w ≤ n) (hhigh : n < 10 ^ (w + 1)) :
    Nat.toDigits 10 n = digits (w + 1) n := by
  induction w generalizing n with
  | zero =>
    rw [Nat.toDigits_of_lt_base (by omega), digits, digits, Nat.mod_eq_of_lt (by omega)]
    rfl
  | succ w ih =>
    rw [Nat.pow_succ] at hlow hhigh
    have pos : 0 < 10 ^ w := Nat.pow_pos (by omega)
    rw [Nat.toDigits_of_base_le (by omega) (by omega), digits, ih (by omega) (by omega)]

theorem digits_succ_of_lt {w n : ℕ} (h : n < 10 ^ w) :
    digits (w + 1) n = '0' :: digits w n := by
  induction w generalizing n with
  | zero =>
    have hn : n = 0 := by omega
    rw [hn]
    rfl
  | succ w ih =>
    rw [Nat.pow_succ] at h
    rw [digits, ih (by omega), digits, List.cons_append]

theorem toDigits_pad {w n : ℕ} (h : n < 10 ^ (w + 1)) :
    List.replicate (w + 1 - (Nat.toDigits 10 n).length) '0' ++ Nat.toDigits 10 n =
      digits (w + 1) n := by
  induction w with
  | zero =>
    have hn : n < 10 := by omega
    rw [Nat.toDigits_of_lt_base hn, digits, digits, Nat.mod_eq_of_lt hn]
    rfl
  | succ w ih =>
    by_cases hlow : n < 10 ^ (w + 1)
    · have shorter := ih hlow
      have fits : (Nat.toDigits 10 n).length ≤ w + 1 := by
        have lengths := congrArg List.length shorter
        rw [List.length_append, length_digits] at lengths
        omega
      rw [Nat.succ_sub fits, List.replicate_succ, List.cons_append, shorter]
      exact (digits_succ_of_lt hlow).symm
    · rw [toDigits_eq (by omega) h, length_digits, Nat.sub_self]
      rfl

theorem ofDigitChars_digits {w n : ℕ} (h : n < 10 ^ w) :
    Nat.ofDigitChars 10 (digits w n) 0 = n := by
  induction w generalizing n with
  | zero =>
    rw [Nat.lt_one_iff.1 h]
    rfl
  | succ w ih =>
    rw [Nat.pow_succ] at h
    rw [digits, Nat.ofDigitChars_append, ih (by omega),
      Nat.ofDigitChars_cons_digitChar_of_lt_ten (by omega), Nat.ofDigitChars_nil]
    omega

end TextOrder
