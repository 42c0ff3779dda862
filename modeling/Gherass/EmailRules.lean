import Gherass.RegistrationData
import Gherass.TextPatterns

set_option autoImplicit false

/-!
# The form of an e-mail address

`signUp` and `updateUserData` match addresses against a regular expression; the model reads them
from both ends.
-/
namespace Gherass.Account

open EventLoop EventLoop.Async Gherass.Shop Gherass.Account.FirebaseHelper TextPatterns
open RegularExpression

def letters : List Char := charRange 'a' 'z' ++ charRange 'A' 'Z'

def localChars : List Char := letters ++ charRange '0' '9' ++ ['.', '_', '%', '+', '-']

def domainChars : List Char := letters ++ charRange '0' '9' ++ ['.', '-']

/-- `^[a-zA-Z0-9._%+-]+@[a-zA-Z0-9.-]+\.[a-zA-Z]{2,}$` -/
def emailRegex : RegularExpression Char :=
  oneOrMore (oneOf localChars) * (char '@' * (oneOrMore (oneOf domainChars) *
    (char '.' * atLeast 2 (oneOf letters))))

theorem mem_letters {c : Char} : c ∈ letters ↔ c.isAlpha = true := by
  have hz : 'z'.toNat < 0xd800 := by decide
  have hZ : 'Z'.toNat < 0xd800 := by decide
  rw [letters, List.mem_append, mem_charRange hz, mem_charRange hZ]
  unfold Char.isAlpha Char.isUpper Char.isLower
  simp only [Bool.or_eq_true, Bool.and_eq_true, decide_eq_true_eq, ge_iff_le,
    UInt32.le_iff_toNat_le, Char.toNat]
  exact or_comm

theorem mem_digits {c : Char} : c ∈ charRange '0' '9' ↔ c.isDigit = true := by
  have h9 : '9'.toNat < 0xd800 := by decide
  rw [mem_charRange h9]
  simp only [Char.isDigit, Bool.and_eq_true, decide_eq_true_eq, ge_iff_le,
    UInt32.le_iff_toNat_le, Char.toNat]

theorem mem_localChars {c : Char} : c ∈ localChars ↔ isLocal c = true := by
  simp only [localChars, isLocal, List.mem_append, mem_letters, mem_digits, Char.isAlphanum,
    Bool.or_eq_true, List.contains_iff_mem]

theorem mem_domainChars {c : Char} : c ∈ domainChars ↔ isDomain c = true := by
  simp only [domainChars, isDomain, List.mem_append, mem_letters, mem_digits, Char.isAlphanum,
    Bool.or_eq_true, List.contains_iff_mem]

theorem mem_emailRegex {s : List Char} : s ∈ emailRegex.matches' ↔ ∃ user host top : List Char,
    s = user ++ '@' :: (host ++ '.' :: top) ∧ (user ≠ [] ∧ ∀ c ∈ user, isLocal c) ∧
      (host ≠ [] ∧ ∀ c ∈ host, isDomain c) ∧ 2 ≤ top.length ∧ ∀ c ∈ top, c.isAlpha := by
  simp only [emailRegex, mem_seq (p := oneOrMore _), mem_char_seq, mem_oneOrMore_oneOf,
    mem_atLeast_oneOf, mem_localChars, mem_domainChars, mem_letters]
  constructor
  · rintro ⟨user, huser, _, ⟨_, ⟨host, hhost, _, ⟨top, htop, rfl⟩, rfl⟩, rfl⟩, rfl⟩
    exact ⟨user, host, top, rfl, huser, hhost, htop⟩
  · rintro ⟨user, host, top, rfl, huser, hhost, htop⟩
    exact ⟨user, huser, _, ⟨_, ⟨host, hhost, _, ⟨top, htop, rfl⟩, rfl⟩, rfl⟩, rfl⟩

/-- The check reads an address from both ends, and accepts just what the expression matches. -/
theorem emailMatches_iff {email : String} :
    emailMatches email = true ↔ email.toList ∈ emailRegex.matches' := by
  rw [mem_emailRegex]
  simp only [emailMatches, decide_eq_true_eq, List.all_eq_true]
  constructor
  · rintro ⟨huser, hlocal, hhost, hdomain, hlength, htop⟩
    -- Both cuts are made: without the letter nothing would be left behind it.
    have hat : '@' ∈ email.toList := by
      by_contra h
      rw [dropWhile_nil_of_notMem h] at hlength
      exact absurd hlength (by decide)
    set rest := (email.toList.dropWhile (· ≠ '@')).drop 1 with hrest
    have hdot : '.' ∈ rest.reverse := by
      by_contra h
      rw [dropWhile_nil_of_notMem h] at hhost
      exact hhost rfl
    refine ⟨email.toList.takeWhile (· ≠ '@'), _, _, ?_, ⟨huser, hlocal⟩,
      ⟨List.reverse_ne_nil_iff.2 hhost, fun c hc => hdomain c (List.mem_reverse.1 hc)⟩, ?_,
      fun c hc => htop c (List.mem_reverse.1 hc)⟩
    · have hback := congrArg List.reverse (eq_cut hdot)
      simp only [List.reverse_reverse, List.reverse_append, List.reverse_cons,
        List.append_assoc, List.singleton_append] at hback
      rw [← hback, hrest]
      exact eq_cut hat
    · rwa [List.length_reverse]
  · rintro ⟨user, host, top, hemail, ⟨huser, hlocal⟩, ⟨hhost, hdomain⟩, hlength, htop⟩
    have hat : '@' ∉ user := fun h => absurd (hlocal _ h) (by decide)
    have hdot : '.' ∉ top.reverse := fun h => absurd (htop _ (List.mem_reverse.1 h)) (by decide)
    have hback : (host ++ '.' :: top).reverse = top.reverse ++ '.' :: host.reverse := by simp
    rw [hemail, takeWhile_cut hat, drop_cut hat, hback, takeWhile_cut hdot, drop_cut hdot]
    exact ⟨huser, hlocal, List.reverse_ne_nil_iff.2 hhost,
      fun c hc => hdomain c (List.mem_reverse.1 hc), by rwa [List.length_reverse],
      fun c hc => htop c (List.mem_reverse.1 hc)⟩

end Gherass.Account
