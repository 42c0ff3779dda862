import Mathlib.Computability.RegularExpressions
import Mathlib.Data.List.TakeWhile

set_option autoImplicit false

/-!
# Patterns of classes of letters

What the regular expressions match that are built from classes, repetitions of a class and single
letters.
-/
namespace TextPatterns

open RegularExpression

variable {α : Type*}

/-- `[...]` -/
def oneOf : List α → RegularExpression α
  | [] => 0
  | c :: cs => char c + oneOf cs

/-- `r{n,}` -/
def atLeast (n : ℕ) (r : RegularExpression α) : RegularExpression α := r ^ n * r.star

/-- `r+` -/
def oneOrMore (r : RegularExpression α) : RegularExpression α := atLeast 1 r

variable {cs s : List α} {c : α} {p q : RegularExpression α}

theorem mem_seq : s ∈ (p * q).matches' ↔ ∃ a ∈ p.matches', ∃ b ∈ q.matches', a ++ b = s := by
  rw [matches'_mul]
  exact Language.mem_mul

theorem mem_char_seq : s ∈ (char c * q).matches' ↔ ∃ b ∈ q.matches', s = c :: b := by
  rw [mem_seq]
  constructor
  · rintro ⟨a, ha, b, hb, rfl⟩
    obtain rfl : a = [c] := ha
    exact ⟨b, hb, rfl⟩
  · rintro ⟨b, hb, rfl⟩
    exact ⟨[c], rfl, b, hb, rfl⟩

theorem mem_oneOf : s ∈ (oneOf cs).matches' ↔ ∃ c ∈ cs, s = [c] := by
  induction cs with
  | nil =>
    constructor
    · intro h
      cases h
    · rintro ⟨c, hc, -⟩
      cases hc
  | cons c cs ih =>
    rw [oneOf, matches'_add, Language.mem_add, ih, List.exists_mem_cons_iff]
    exact Iff.rfl

theorem mem_pow_oneOf {n : ℕ} :
    s ∈ (oneOf cs ^ n).matches' ↔ s.length = n ∧ ∀ c ∈ s, c ∈ cs := by
  rw [matches'_pow]
  induction n generalizing s with
  | zero =>
    rw [pow_zero, Language.mem_one, List.length_eq_zero_iff]
    constructor
    · rintro rfl
      exact ⟨rfl, fun c hc => by cases hc⟩
    · exact And.left
  | succ n ih =>
    rw [pow_succ', Language.mem_mul]
    constructor
    · rintro ⟨a, ha, b, hb, rfl⟩
      obtain ⟨c, hc, rfl⟩ := mem_oneOf.1 ha
      obtain ⟨hlength, hall⟩ := ih.1 hb
      refine ⟨congrArg (· + 1) hlength, fun x hx => ?_⟩
      rcases List.mem_cons.1 hx with rfl | hx
      · exact hc
      · exact hall x hx
    · rintro ⟨hlength, hall⟩
      cases s with
      | nil => cases hlength
      | cons c s =>
        exact ⟨[c], mem_oneOf.2 ⟨c, hall c List.mem_cons_self, rfl⟩, s,
          ih.2 ⟨Nat.succ.inj hlength, fun x hx => hall x (List.mem_cons_of_mem c hx)⟩, rfl⟩

theorem mem_star_oneOf : s ∈ (oneOf cs).star.matches' ↔ ∀ c ∈ s, c ∈ cs := by
  rw [matches'_star, Language.mem_kstar]
  constructor
  · rintro ⟨parts, rfl, hparts⟩ c hc
    obtain ⟨part, hpart, hc⟩ := List.mem_flatten.1 hc
    obtain ⟨x, hx, rfl⟩ := mem_oneOf.1 (hparts part hpart)
    obtain rfl := List.mem_singleton.1 hc
    exact hx
  · intro h
    refine ⟨s.map ([·]), ?_, fun part hpart => ?_⟩
    · rw [← List.flatMap_def, List.flatMap_singleton']
    · obtain ⟨c, hc, rfl⟩ := List.mem_map.1 hpart
      exact mem_oneOf.2 ⟨c, h c hc, rfl⟩

theorem mem_atLeast_oneOf {n : ℕ} :
    s ∈ (atLeast n (oneOf cs)).matches' ↔ n ≤ s.length ∧ ∀ c ∈ s, c ∈ cs := by
  rw [atLeast, mem_seq]
  constructor
  · rintro ⟨a, ha, b, hb, rfl⟩
    obtain ⟨rfl, hall⟩ := mem_pow_oneOf.1 ha
    refine ⟨by simp, fun c hc => ?_⟩
    rcases List.mem_append.1 hc with hc | hc
    · exact hall c hc
    · exact mem_star_oneOf.1 hb c hc
  · rintro ⟨hlength, hall⟩
    refine ⟨s.take n, mem_pow_oneOf.2 ⟨List.length_take_of_le hlength, fun c hc => ?_⟩, s.drop n,
      mem_star_oneOf.2 fun c hc => ?_, List.take_append_drop n s⟩
    · exact hall c (List.mem_of_mem_take hc)
    · exact hall c (List.mem_of_mem_drop hc)

theorem mem_oneOrMore_oneOf :
    s ∈ (oneOrMore (oneOf cs)).matches' ↔ s ≠ [] ∧ ∀ c ∈ s, c ∈ cs := by
  rw [oneOrMore, mem_atLeast_oneOf, Nat.one_le_iff_ne_zero, ne_eq, List.length_eq_zero_iff]

/-- `a-b` -/
def charRange (a b : Char) : List Char := (List.range' a.toNat (b.toNat + 1 - a.toNat)).map Char.ofNat

theorem mem_charRange {a b c : Char} (hb : b.toNat < 0xd800) :
    c ∈ charRange a b ↔ a.toNat ≤ c.toNat ∧ c.toNat ≤ b.toNat := by
  rw [charRange, List.mem_map]
  constructor
  · rintro ⟨n, hn, rfl⟩
    rw [List.mem_range'_1] at hn
    have hvalid : n.isValidChar := .inl (by omega)
    have htoNat : (Char.ofNat n).toNat = n := by
      rw [Char.ofNat, dif_pos hvalid]
      rfl
    omega
  · rintro ⟨hac, hcb⟩
    refine ⟨c.toNat, ?_, Char.ofNat_toNat c⟩
    rw [List.mem_range'_1]
    omega

variable [DecidableEq α] {l a b : List α}

theorem takeWhile_cut (h : c ∉ a) : (a ++ c :: b).takeWhile (· ≠ c) = a := by
  have ha : ∀ x ∈ a, decide (x ≠ c) = true := fun x hx => decide_eq_true fun e => h (e ▸ hx)
  rw [List.takeWhile_append_of_pos ha, List.takeWhile_cons_of_neg (by simp), List.append_nil]

theorem drop_cut (h : c ∉ a) : ((a ++ c :: b).dropWhile (· ≠ c)).drop 1 = b := by
  have ha : ∀ x ∈ a, decide (x ≠ c) = true := fun x hx => decide_eq_true fun e => h (e ▸ hx)
  rw [List.dropWhile_append_of_pos ha, List.dropWhile_cons_of_neg (by simp), List.drop_one,
    List.tail_cons]

theorem eq_cut (h : c ∈ l) :
    l = l.takeWhile (· ≠ c) ++ c :: (l.dropWhile (· ≠ c)).drop 1 := by
  induction l with
  | nil => cases h
  | cons x l ih =>
    by_cases hx : x = c
    · subst hx
      simp
    · have hmem : c ∈ l := (List.mem_cons.1 h).resolve_left (Ne.symm hx)
      simpa [hx] using ih hmem

theorem dropWhile_nil_of_notMem (h : c ∉ l) : l.dropWhile (· ≠ c) = [] :=
  List.dropWhile_eq_nil_iff.2 fun _ hx => decide_eq_true fun e => h (e ▸ hx)

end TextPatterns
