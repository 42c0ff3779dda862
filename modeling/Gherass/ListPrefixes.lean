import Mathlib.Data.List.Nodup
import Mathlib.Data.List.Sort
import Mathlib.Data.Prod.Lex

set_option autoImplicit false

/-!
# Selections that stand in front

When a selection from a list, or any sorted arrangement of it, is the beginning of the list.
-/
namespace ListPrefixes

variable {α D : Type}

theorem prefix_iff {l l' : List α} :
    l <+: l' ↔ ∀ (i : ℕ) (a : α), l[i]? = some a → l'[i]? = some a := by
  rw [List.prefix_iff_getElem?]
  constructor
  · intro h i a hi
    obtain ⟨hlt, rfl⟩ := List.getElem?_eq_some_iff.1 hi
    exact h i hlt
  · exact fun h i hlt => h i _ (List.getElem?_eq_getElem hlt)

theorem filter_prefix_iff (p : α → Bool) (l : List α) :
    l.filter p <+: l ↔ l.Pairwise fun a b => p b = true → p a = true := by
  induction l with
  | nil => simp
  | cons x l ih =>
    rw [List.pairwise_cons]
    by_cases hx : p x = true
    · rw [List.filter_cons_of_pos hx, List.cons_prefix_cons, ih]
      simp [hx]
    · rw [List.filter_cons_of_neg hx]
      constructor
      · intro h
        have none : l.filter p = [] := by
          cases hl : l.filter p with
          | nil => rfl
          | cons y ys =>
            rw [hl, List.cons_prefix_cons] at h
            have hy : y ∈ l.filter p := hl ▸ List.mem_cons_self
            exact absurd (List.mem_filter.1 hy).2 (h.1 ▸ hx)
        rw [List.filter_eq_nil_iff] at none
        refine ⟨fun b hb hp => absurd hp (none b hb), ?_⟩
        exact List.pairwise_of_forall_mem_list fun a _ b hb hp => absurd hp (none b hb)
      · rintro ⟨hfirst, -⟩
        have none : l.filter p = [] :=
          List.filter_eq_nil_iff.2 fun b hb hp => hx (hfirst b hb hp)
        rw [none]
        exact List.nil_prefix

/-- An arrangement of those elements of `l` that are selected, by an ascending key. -/
structure Arranges [LE D] (P : α → Prop) (key : α → D) (l arranged : List α) : Prop where
  nodup : arranged.Nodup
  mem : ∀ a, a ∈ arranged ↔ a ∈ l ∧ P a
  sorted : arranged.Pairwise fun a b => key a ≤ key b

variable [LinearOrder D] {P : α → Prop} {key : α → D} {l : List α}

theorem Arranges.eq_filter [DecidablePred P] {arranged : List α} (h : Arranges P key l arranged)
    (hl : l.Nodup) (strict : l.Pairwise fun a b => P b → P a ∧ key a < key b) :
    arranged = l.filter P := by
  have ascending : (l.filter P).Pairwise fun a b => key a < key b := by
    refine List.pairwise_filter.2 (strict.imp ?_)
    exact fun h _ hb => (h (of_decide_eq_true hb)).2
  have same : arranged.Perm (l.filter P) := by
    refine (List.perm_ext_iff_of_nodup h.nodup (hl.filter _)).2 fun a => ?_
    rw [h.mem, List.mem_filter, decide_eq_true_iff]
  have keys : ((l.filter P).map key).Nodup := List.pairwise_map.2 (ascending.imp ne_of_lt)
  refine same.eq_of_pairwise (fun a b ha hb hab hba => ?_) h.sorted (ascending.imp le_of_lt)
  exact List.inj_on_of_nodup_map keys (same.mem_iff.1 ha) hb (le_antisymm hab hba)

theorem exists_arranges (hl : l.Nodup) (P : α → Prop) (key : α → D) (x : α) :
    ∃ arranged, Arranges P key l arranged ∧
      arranged.Pairwise fun a b => key a = key b → b = x → a = x := by
  classical
  let rank (a : α) : D ×ₗ ℕ := toLex (key a, if a = x then 0 else 1)
  let arranged := (l.filter P).mergeSort fun a b => decide (rank a ≤ rank b)
  have trans : ∀ a b c : α, decide (rank a ≤ rank b) → decide (rank b ≤ rank c) →
      decide (rank a ≤ rank c) := by simpa using fun a b c => le_trans
  have total : ∀ a b : α, decide (rank a ≤ rank b) || decide (rank b ≤ rank a) := by
    simpa using fun a b => le_total (rank a) (rank b)
  have perm : arranged.Perm (l.filter P) := List.mergeSort_perm _ _
  have ranked : arranged.Pairwise fun a b => rank a ≤ rank b :=
    (List.pairwise_mergeSort trans total _).imp of_decide_eq_true
  refine ⟨arranged, ⟨perm.nodup_iff.2 (hl.filter _), fun a => ?_, ?_⟩, ?_⟩
  · rw [perm.mem_iff, List.mem_filter, decide_eq_true_iff]
  · exact ranked.imp fun h => (Prod.Lex.toLex_le_toLex.1 h).elim le_of_lt fun h => h.1.le
  · refine ranked.imp fun {a b} h hkey hb => ?_
    rcases Prod.Lex.toLex_le_toLex.1 h with h | ⟨-, h⟩
    · exact absurd hkey (ne_of_lt h)
    · by_contra ha
      simp [ha, hb] at h

theorem arranges_prefix_iff (hl : l.Nodup) (P : α → Prop) (key : α → D) :
    (∀ arranged, Arranges P key l arranged → arranged <+: l) ↔
      l.Pairwise fun a b => P b → P a ∧ key a < key b := by
  classical
  constructor
  · intro h
    rw [List.pairwise_iff_getElem]
    intro i j hi hj hij hP
    obtain ⟨arranged, harranges, hfirst⟩ := exists_arranges hl P key l[j]
    have front := h arranged harranges
    obtain ⟨k, hk, hkj⟩ := List.getElem_of_mem ((harranges.mem l[j]).2 ⟨List.getElem_mem hj, hP⟩)
    have placed (n : ℕ) (hn : n < arranged.length) (hn' : n < l.length) : arranged[n] = l[n] := by
      have found := prefix_iff.1 front n _ (List.getElem?_eq_getElem hn)
      rw [List.getElem?_eq_getElem hn'] at found
      exact (Option.some_inj.1 found).symm
    have hk' : k < l.length := Nat.lt_of_lt_of_le hk front.length_le
    obtain rfl : k = j := hl.getElem_inj_iff.1 ((placed k hk hk').symm.trans hkj)
    have hi' : i < arranged.length := Nat.lt_trans hij hk
    have chosen := (harranges.mem arranged[i]).1 (List.getElem_mem hi')
    have sorted := List.pairwise_iff_getElem.1 harranges.sorted i k hi' hk hij
    have first := List.pairwise_iff_getElem.1 hfirst i k hi' hk hij
    rw [placed i hi' hi] at chosen sorted first
    rw [placed k hk hk'] at sorted first
    refine ⟨chosen.2, lt_of_le_of_ne sorted fun hkey => ?_⟩
    have same : i = k := hl.getElem_inj_iff.1 (first hkey rfl)
    omega
  · intro strict arranged harranges
    rw [harranges.eq_filter hl strict, filter_prefix_iff]
    exact strict.imp fun h hb => decide_eq_true (h (of_decide_eq_true hb)).1

end ListPrefixes
