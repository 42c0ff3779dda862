import Mathlib.Algebra.Group.Int.Defs
import Mathlib.Algebra.Group.Nat.Defs
import Mathlib.Tactic.Coe

set_option autoImplicit false

/-! # Trimmed texts and the integers that are read from them -/
namespace Gherass

def isBlank (c : Char) : Bool :=
  let n := c.toNat
  (9 ≤ n ∧ n ≤ 13) ∨ (0x2000 ≤ n ∧ n ≤ 0x200A) ∨
    n ∈ [0x20, 0x85, 0xA0, 0x1680, 0x2028, 0x2029, 0x202F, 0x205F, 0x3000, 0xFEFF]

def trimmed (cs : List Char) : List Char :=
  ((cs.dropWhile isBlank).reverse.dropWhile isBlank).reverse

/-- `trim()` -/
def trim (text : String) : String := String.ofList (trimmed text.toList)

theorem trim_within (text : String) : (trim text).toList <:+: text.toList := by
  let front := text.toList.dropWhile isBlank
  have head : front <:+: text.toList := (List.dropWhile_suffix isBlank).isInfix
  have tail : (front.reverse.dropWhile isBlank).reverse <:+: front := by
    rw [← List.reverse_infix, List.reverse_reverse]
    exact (List.dropWhile_suffix isBlank).isInfix
  rw [trim, trimmed, String.toList_ofList]
  exact tail.trans head

theorem trimmed_of_not_blank {cs : List Char} (h : ∀ c ∈ cs, isBlank c = false) :
    trimmed cs = cs := by
  have keep : ∀ xs : List Char, (∀ c ∈ xs, isBlank c = false) → xs.dropWhile isBlank = xs := by
    intro xs hxs
    cases xs with
    | nil => rfl
    | cons x xs => exact List.dropWhile_cons_of_neg (by simp [hxs x])
  rw [trimmed, keep cs h, keep _ fun c hc => h c (List.mem_reverse.1 hc), List.reverse_reverse]

def decimalDigits (digits : List Char) : Option ℕ :=
  if digits ≠ [] ∧ digits.all (·.isDigit) then some (Nat.ofDigitChars 10 digits 0) else none

def hexValue (c : Char) : Option ℕ :=
  if c.isDigit then some (c.toNat - '0'.toNat)
  else if 'a' ≤ c ∧ c ≤ 'f' then some (c.toNat - 'a'.toNat + 10)
  else if 'A' ≤ c ∧ c ≤ 'F' then some (c.toNat - 'A'.toNat + 10)
  else none

def hexDigits (digits : List Char) : Option ℕ :=
  if digits = [] then none
  else digits.foldl (fun n c => do pure (16 * (← n) + (← hexValue c))) (some 0)

def unsignedLiteral : List Char → Option ℕ
  | '0' :: 'x' :: digits => hexDigits digits
  | '0' :: 'X' :: digits => hexDigits digits
  | digits => decimalDigits digits

/-- `int.tryParse`, were it not for the size of an integer. -/
def readInteger (source : String) : Option ℤ :=
  match trimmed source.toList with
  | '-' :: cs => (unsignedLiteral cs).map fun n => -(n : ℤ)
  | '+' :: cs => (unsignedLiteral cs).map (↑)
  | cs => (unsignedLiteral cs).map (↑)

def fitsInt64 (n : ℤ) : Prop := -2 ^ 63 ≤ n ∧ n < 2 ^ 63

instance (n : ℤ) : Decidable (fitsInt64 n) := inferInstanceAs (Decidable (_ ∧ _))

/-- What a sum or a difference comes to in 64 bits. -/
def int64 (n : ℤ) : ℤ := n.bmod (2 ^ 64)

/-- `int.tryParse`. Hexadecimal digits without a minus sign may stand for 64 bits. -/
def intTryParse (source : String) : Option ℤ := do
  let n ← readInteger source
  if fitsInt64 n then pure n
  else if 0 ≤ n ∧ n < 2 ^ 64 ∧ source.toList.any (fun c => c = 'x' ∨ c = 'X') then pure (int64 n)
  else none

theorem fits_zero : fitsInt64 0 := by
  unfold fitsInt64
  omega

theorem int64_of_fits {n : ℤ} (h : fitsInt64 n) : int64 n = n := by
  obtain ⟨hlow, hhigh⟩ := h
  exact Int.bmod_eq_of_le (by omega) (by omega)

/-- A number that is too large by less than there are numbers of 64 bits comes out that much
    less, and one that is too small that much more. -/
theorem int64_of_lt {n : ℤ} (hlow : 2 ^ 63 ≤ n) (hhigh : n < 2 ^ 64) : int64 n = n - 2 ^ 64 :=
  (Int.bmod_eq_iff (by decide)).2 ⟨by omega, by omega, by omega⟩

theorem int64_of_neg {n : ℤ} (hlow : -2 ^ 64 ≤ n) (hhigh : n < -2 ^ 63) : int64 n = n + 2 ^ 64 :=
  (Int.bmod_eq_iff (by decide)).2 ⟨by omega, by omega, by omega⟩

theorem int64_add_int64 (n m : ℤ) : int64 (n + int64 m) = int64 (n + m) := Int.add_bmod_bmod

theorem fits_int64 (n : ℤ) : fitsInt64 (int64 n) := by
  have hlow := Int.le_bmod (x := n) (m := 2 ^ 64) (by decide)
  have hhigh := Int.bmod_lt (x := n) (m := 2 ^ 64) (by decide)
  unfold fitsInt64 int64
  omega

theorem fits_of_tryParse {source : String} {n : ℤ} (h : intTryParse source = some n) :
    fitsInt64 n := by
  obtain ⟨m, -, hm⟩ := Option.bind_eq_some_iff.1 h
  split at hm
  case isTrue hfits => exact Option.some.inj hm ▸ hfits
  case isFalse =>
    split at hm
    case isTrue => exact Option.some.inj hm ▸ fits_int64 m
    case isFalse => cases hm

theorem fits_pred {source : String} {n : ℤ} (h : intTryParse source = some n) (hpos : 0 < n) :
    fitsInt64 (n - 1) := by
  have hfits := fits_of_tryParse h
  unfold fitsInt64 at hfits ⊢
  omega

theorem digit_of_toDigits {n : ℕ} {c : Char} (h : c ∈ Nat.toDigits 10 n) : c.isDigit = true :=
  Nat.isDigit_of_mem_toDigits (by decide) (by decide) h

theorem unsignedLiteral_toDigits (n : ℕ) : unsignedLiteral (Nat.toDigits 10 n) = some n := by
  have hdigits : ∀ c ∈ Nat.toDigits 10 n, c.isDigit = true := fun c hc => digit_of_toDigits hc
  have hvalue : decimalDigits (Nat.toDigits 10 n) = some n := by
    rw [decimalDigits, if_pos ⟨by simp, List.all_eq_true.2 hdigits⟩]
    simp
  unfold unsignedLiteral
  split
  · rename_i digits heq
    have : ('x' : Char).isDigit = true := hdigits _ (by simp [heq])
    exact absurd this (by decide)
  · rename_i digits heq
    have : ('X' : Char).isDigit = true := hdigits _ (by simp [heq])
    exact absurd this (by decide)
  · exact hvalue

theorem digit_not_blank {c : Char} (h : c.isDigit = true) : isBlank c = false := by
  simp only [Char.isDigit, Bool.and_eq_true, decide_eq_true_eq, ge_iff_le,
    UInt32.le_iff_toNat_le] at h
  obtain ⟨hlow, hhigh⟩ := h
  have hlow : 48 ≤ c.toNat := hlow
  have hhigh : c.toNat ≤ 57 := hhigh
  simp only [isBlank, List.mem_cons, List.not_mem_nil, or_false, decide_eq_false_iff_not]
  omega

theorem toList_toString_int (n : ℤ) : ∃ m : ℕ,
    (n = m ∧ (toString n).toList = Nat.toDigits 10 m) ∨
      (n = -(m : ℤ) ∧ (toString n).toList = '-' :: Nat.toDigits 10 m) := by
  cases n with
  | ofNat m => exact ⟨m, .inl ⟨rfl, Nat.toList_repr⟩⟩
  | negSucc m =>
    refine ⟨m + 1, .inr ⟨rfl, ?_⟩⟩
    change ("-" ++ Nat.repr (m + 1)).toList = _
    rw [String.toList_append, Nat.toList_repr]
    rfl

theorem mem_toString {n : ℤ} {c : Char} (h : c ∈ (toString n).toList) :
    c = '-' ∨ c.isDigit = true := by
  obtain ⟨m, ⟨-, htext⟩ | ⟨-, htext⟩⟩ := toList_toString_int n
  · rw [htext] at h
    exact .inr (digit_of_toDigits h)
  · rw [htext] at h
    exact (List.mem_cons.1 h).imp id digit_of_toDigits

@[simp] theorem readInteger_toString (n : ℤ) : readInteger (toString n) = some n := by
  have blanks : trimmed (toString n).toList = (toString n).toList :=
    trimmed_of_not_blank fun c hc => (mem_toString hc).elim (fun h => by rw [h]; decide)
      digit_not_blank
  rw [readInteger, blanks]
  obtain ⟨m, ⟨rfl, htext⟩ | ⟨rfl, htext⟩⟩ := toList_toString_int n
  · have digits : ∀ c ∈ Nat.toDigits 10 m, c.isDigit = true := fun c hc => digit_of_toDigits hc
    rw [htext]
    split
    · rename_i cs heq
      exact absurd (digits '-' (by simp [heq])) (by decide)
    · rename_i cs heq
      exact absurd (digits '+' (by simp [heq])) (by decide)
    · rw [unsignedLiteral_toDigits]
      rfl
  · simp only [htext, unsignedLiteral_toDigits]
    rfl

theorem intTryParse_toString_eq (n : ℤ) :
    intTryParse (toString n) = if fitsInt64 n then some n else none := by
  have decimal : ¬ (toString n).toList.any (fun c => c = 'x' ∨ c = 'X') := by
    simp only [List.any_eq_true, decide_eq_true_eq, not_exists, not_and]
    rintro c hc (rfl | rfl)
    · exact absurd (mem_toString hc) (by decide)
    · exact absurd (mem_toString hc) (by decide)
  have beyond : ¬ (0 ≤ n ∧ n < 2 ^ 64 ∧
      (toString n).toList.any (fun c => c = 'x' ∨ c = 'X') = true) := fun h => decimal h.2.2
  rw [intTryParse, readInteger_toString, Option.bind_eq_bind, Option.bind_some, if_neg beyond]
  rfl

theorem intTryParse_toString {n : ℤ} (h : fitsInt64 n) : intTryParse (toString n) = some n := by
  rw [intTryParse_toString_eq, if_pos h]

end Gherass
