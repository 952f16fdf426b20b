import QuestScript.Text.Basic
import Mathlib.Data.List.Nodup
import Mathlib.Data.List.Perm.Basic

/-!
# Look-ups

Pairs of a name and a value, looked up by name.

* `lookup_eq_some_iff`  where no name comes twice, a name has the value that stands beside it;
* `lookup_of_perm`      and the order of the pairs does not matter.
-/

namespace QuestScript

variable {α : Type} {l l' : List (Text × α)}

/-- where no name comes twice, **a name has the value that stands beside it** -/
theorem lookup_eq_some_iff (h : (l.map Prod.fst).Nodup) {key : Text} {value : α} :
    l.lookup key = some value ↔ (key, value) ∈ l := by
  induction l with
  | nil => simp
  | cons a l ih =>
    obtain ⟨k, v⟩ := a
    obtain ⟨hk, hrest⟩ := List.nodup_cons.mp h
    rw [List.lookup_cons, List.mem_cons]
    by_cases hkey : key = k
    · subst hkey
      have hmem : (key, value) ∉ l := fun hmem => hk (List.mem_map.mpr ⟨_, hmem, rfl⟩)
      simp [hmem, eq_comm]
    · rw [beq_false_of_ne hkey, ih hrest]
      simp [hkey]

theorem lookup_of_perm (hperm : l.Perm l') (h : (l.map Prod.fst).Nodup) (key : Text) :
    l.lookup key = l'.lookup key := by
  have h' : (l'.map Prod.fst).Nodup := (hperm.map _).nodup_iff.mp h
  refine Option.ext fun value => ?_
  rw [lookup_eq_some_iff h, lookup_eq_some_iff h', hperm.mem_iff]

end QuestScript
