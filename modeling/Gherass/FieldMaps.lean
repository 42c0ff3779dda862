import Mathlib.Data.List.Nodup
import Mathlib.Data.List.Basic

set_option autoImplicit false

/-!
# Documents as maps from fields to values

A document is updated with a list of entries: the fields of the list get its values, and the others
keep their own.
-/
namespace FieldMaps

variable {K V : Type*} [DecidableEq K]

/-- The map with the entries of a list; of two with one key the first counts. -/
def ofList (entries : List (K × V)) : K → Option V := fun k =>
  (entries.find? fun e => e.1 = k).map (·.2)

/-- The fields of `m` once those of `data` are written over them. -/
def merge (m data : K → Option V) : K → Option V := fun k => (data k).or (m k)

variable {m data : K → Option V} {entries : List (K × V)} {k : K} {v : V}

omit [DecidableEq K] in
theorem merge_of_some (h : data k = some v) : merge m data k = some v := by
  rw [merge, h, Option.some_or]

omit [DecidableEq K] in
theorem merge_of_none (h : data k = none) : merge m data k = m k := by
  rw [merge, h, Option.none_or]

theorem ofList_of_mem (hkeys : (entries.map Prod.fst).Nodup) (h : (k, v) ∈ entries) :
    ofList entries k = some v := by
  induction entries with
  | nil => cases h
  | cons e entries ih =>
    obtain ⟨hfirst, hrest⟩ := List.nodup_cons.1 (List.map_cons ▸ hkeys)
    rcases List.mem_cons.1 h with rfl | h
    · simp [ofList]
    · have hne : e.1 ≠ k := fun heq => hfirst (List.mem_map.2 ⟨(k, v), h, heq.symm⟩)
      simpa [ofList, hne] using ih hrest h

theorem mem_of_ofList (h : ofList entries k = some v) : (k, v) ∈ entries := by
  obtain ⟨e, hfind, rfl⟩ := Option.map_eq_some_iff.1 h
  have hkey : e.1 = k := by simpa using List.find?_some hfind
  rw [← hkey]
  exact List.mem_of_find?_eq_some hfind

theorem ofList_eq_none (h : k ∉ entries.map Prod.fst) : ofList entries k = none := by
  cases hv : ofList entries k with
  | none => rfl
  | some v => exact absurd (List.mem_map.2 ⟨(k, v), mem_of_ofList hv, rfl⟩) h

omit [DecidableEq K] in
theorem merge_eq_self_iff : merge m data = m ↔ ∀ k v, data k = some v → m k = some v := by
  constructor
  · intro h k v hv
    rw [← h, merge_of_some hv]
  · intro h
    funext k
    cases hk : data k with
    | none => exact merge_of_none hk
    | some v => rw [merge_of_some hk, h k v hk]

theorem merge_ofList_eq_self_iff (hkeys : (entries.map Prod.fst).Nodup) :
    merge m (ofList entries) = m ↔ ∀ e ∈ entries, m e.1 = some e.2 := by
  rw [merge_eq_self_iff]
  constructor
  · intro h e he
    exact h e.1 e.2 (ofList_of_mem hkeys he)
  · intro h k v hv
    exact h (k, v) (mem_of_ofList hv)

theorem ofList_ne_none_iff : ofList entries k ≠ none ↔ k ∈ entries.map Prod.fst := by
  constructor
  · intro h
    by_contra hk
    exact h (ofList_eq_none hk)
  · intro h hk
    obtain ⟨e, he, rfl⟩ := List.mem_map.1 h
    have missed : ∀ e' ∈ entries, ¬ e'.1 = e.1 := by
      simpa [ofList, List.find?_eq_none] using hk
    exact missed e he rfl

omit [DecidableEq K] in
theorem merge_merge_eq_iff {m a b : K → Option V} :
    merge (merge m a) b = merge a b ↔ ∀ k, m k ≠ none → a k ≠ none ∨ b k ≠ none := by
  constructor
  · intro h k hm
    by_contra! hab
    have same := congrFun h k
    rw [merge_of_none hab.2, merge_of_none hab.2, merge_of_none hab.1, hab.1] at same
    exact hm same
  · intro h
    funext k
    cases hb : b k with
    | some v => rw [merge_of_some hb, merge_of_some hb]
    | none =>
      rw [merge_of_none hb, merge_of_none hb]
      cases ha : a k with
      | some v => rw [merge_of_some ha]
      | none =>
        rw [merge_of_none ha]
        by_contra hm
        exact (h k hm).elim (· ha) (· hb)

end FieldMaps
