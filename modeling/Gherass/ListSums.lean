import Mathlib.Algebra.BigOperators.Group.List.Basic
import Mathlib.Algebra.Ring.Int.Defs
import Mathlib.Data.List.Nodup

set_option autoImplicit false

/-! # Sums over a list, split by a key, and over the values of a map -/
namespace ListSums

variable {α κ R : Type} [DecidableEq κ] [AddCommMonoid R]

theorem sum_single {ks : List κ} (hks : ks.Nodup) {k : κ} (hk : k ∈ ks) (a : R) :
    (ks.map fun i => if k = i then a else 0).sum = a := by
  have others : ∀ i, i ≠ k → i ∈ ks → (if k = i then a else 0) = 0 := fun i hi _ =>
    if_neg (Ne.symm hi)
  rw [List.sum_map_eq_nsmul_single k _ others, List.count_eq_one_of_mem hks hk, one_nsmul,
    if_pos rfl]

theorem sum_keyed (key : α → κ) (f : α → R) {ks : List κ} (hks : ks.Nodup) {xs : List α}
    (hxs : ∀ x ∈ xs, key x ∈ ks) :
    (xs.map f).sum = (ks.map fun k => ((xs.filter fun x => key x = k).map f).sum).sum := by
  induction xs with
  | nil => simp
  | cons x xs ih =>
    have head : key x ∈ ks := hxs x List.mem_cons_self
    have tail := ih fun y hy => hxs y (List.mem_cons_of_mem _ hy)
    have split (k : κ) : (((x :: xs).filter fun x => key x = k).map f).sum =
        (if key x = k then f x else 0) + ((xs.filter fun x => key x = k).map f).sum := by
      by_cases hk : key x = k
      · simp [hk]
      · simp [hk]
    rw [List.map_congr_left fun k _ => split k, List.sum_map_add, sum_single hks head, ← tail]
    rfl

omit [DecidableEq κ] in
theorem sum_split (p : α → Bool) (f : α → R) (xs : List α) :
    (xs.map f).sum = ((xs.filter p).map f).sum + ((xs.filter fun x => !p x).map f).sum := by
  induction xs with
  | nil => simp
  | cons x xs ih =>
    by_cases hx : p x
    · simp [hx, ih, add_assoc]
    · simp [hx, ih, add_left_comm]

theorem foldl_add_if (p : α → Bool) (f : α → R) (xs : List α) (total : R) :
    xs.foldl (fun total x => if p x then total + f x else total) total =
      total + ((xs.filter p).map f).sum := by
  induction xs generalizing total with
  | nil => simp
  | cons x xs ih =>
    rw [List.foldl_cons, ih, List.filter_cons]
    by_cases hx : p x
    · rw [if_pos hx, if_pos hx, List.map_cons, List.sum_cons, add_assoc]
    · rw [if_neg hx, if_neg hx]

theorem sum_toList_insert {α : Type} (t : Std.TreeMap String α) (f : α → ℤ) (k : String) (v : α) :
    ((t.insert k v).toList.map fun x => f x.2).sum =
      f v + ((t.toList.filter (¬ k == ·.1)).map fun x => f x.2).sum :=
  ((Std.TreeMap.toList_insert_perm (t := t)).map _).sum_eq

theorem sum_toList_fresh {α : Type} {t : Std.TreeMap String α} (f : α → ℤ) {k : String} (v : α)
    (h : t[k]? = none) : ((t.insert k v).toList.map fun x => f x.2).sum =
      f v + (t.toList.map fun x => f x.2).sum := by
  rw [sum_toList_insert, List.filter_eq_self.2 fun x hx => ?_]
  have hget := Std.TreeMap.mem_toList_iff_getElem?_eq_some.1 hx
  have : k ≠ x.1 := fun e => by
    rw [← e, h] at hget
    cases hget
  simpa using this

theorem sum_toList_same {α : Type} {t : Std.TreeMap String α} (f : α → ℤ) {k : String} {u v : α}
    (h : t[k]? = some u) (hv : f v = f u) : ((t.insert k v).toList.map fun x => f x.2).sum =
      (t.toList.map fun x => f x.2).sum := by
  have same : (t.insert k u).toList = t.toList := by
    refine Std.TreeMap.Equiv.toList_eq (.of_forall_constGet?_eq fun i => ?_)
    simp only [Std.TreeMap.getElem?_insert, Std.LawfulEqCmp.compare_eq_iff_eq]
    split
    case isTrue e => rw [← e, h]
    case isFalse => rfl
  rw [← same, sum_toList_insert, sum_toList_insert, hv]

end ListSums
