import QuestScript.Quest.Header
import QuestScript.Proofs.Lookup
import Mathlib.Data.Char
import Mathlib.Data.List.Lex

/-!
# Attributes as a map

Attributes are pairs in ascending order of their keys.  Setting a value keeps that order, and what is
set key by key holds the pairs that were set, where no key comes twice.

* `Attributes.pairwise_insert`       setting a value keeps the keys ascending;
* `Attributes.get?_foldl_insert`     of the values that are set for a key the last counts;
* `Attributes.perm_foldl_insert`     what is set key by key;
* `QuestHeader.pairs_keys_sublist`   the keys that a quest header is written with.
-/

namespace QuestScript

namespace Attributes

/-! ## setting a value -/

theorem mem_keys_insert {attrs : Attributes} {key value k : Text} :
    k ∈ (insert key value attrs).map Prod.fst ↔ k = key ∨ k ∈ attrs.map Prod.fst := by
  induction attrs with
  | nil => simp [insert]
  | cons a attrs ih =>
    rw [insert]
    split
    · next hkey => simp [hkey]
    · split
      · simp
      · rw [List.map_cons, List.mem_cons, ih, List.map_cons, List.mem_cons]
        exact or_left_comm

/-- a key that is new is put between the others -/
theorem perm_insert {attrs : Attributes} {key value : Text} (h : key ∉ attrs.map Prod.fst) :
    (insert key value attrs).Perm ((key, value) :: attrs) := by
  induction attrs with
  | nil => exact List.Perm.refl _
  | cons a attrs ih =>
    rw [List.map_cons, List.mem_cons, not_or] at h
    rw [insert, if_neg h.1]
    split
    · exact List.Perm.refl _
    · exact ((ih h.2).cons a).trans (List.Perm.swap _ _ _)

/-- **setting a value** keeps the keys ascending -/
theorem pairwise_insert {attrs : Attributes} (h : (attrs.map Prod.fst).Pairwise (· < ·))
    (key value : Text) : ((insert key value attrs).map Prod.fst).Pairwise (· < ·) := by
  induction attrs with
  | nil => exact List.pairwise_singleton _ _
  | cons a attrs ih =>
    obtain ⟨hlt, hrest⟩ := List.pairwise_cons.mp h
    rw [insert]
    split
    · next hkey =>
      rw [List.map_cons, hkey]
      exact h
    · next hkey =>
      split
      · next hbefore =>
        have hbefore : key < a.1 := of_decide_eq_true hbefore
        refine List.pairwise_cons.mpr ⟨fun k hk => ?_, h⟩
        rcases List.mem_cons.mp hk with rfl | hk
        · exact hbefore
        · exact lt_trans hbefore (hlt k hk)
      · next hbefore =>
        have hbefore : ¬key < a.1 := of_decide_eq_false (Bool.eq_false_iff.mpr hbefore)
        refine List.pairwise_cons.mpr ⟨fun k hk => ?_, ih hrest⟩
        rcases mem_keys_insert.mp hk with rfl | hk
        · exact lt_of_le_of_ne (not_lt.mp hbefore) (Ne.symm hkey)
        · exact hlt k hk

theorem get?_cons (a : Text × Text) (attrs : Attributes) (key : Text) :
    get? (a :: attrs) key = if key = a.1 then some a.2 else attrs.get? key := by
  obtain ⟨k, v⟩ := a
  unfold get?
  rw [List.lookup_cons]
  by_cases h : key = k
  · simp [h]
  · rw [beq_false_of_ne h, if_neg h]

theorem mem_keys_iff {attrs : Attributes} {key : Text} :
    key ∈ attrs.map Prod.fst ↔ (attrs.get? key).isSome := by
  induction attrs with
  | nil => simp [get?]
  | cons a attrs ih =>
    rw [List.map_cons, List.mem_cons, get?_cons, ih]
    by_cases h : key = a.1 <;> simp [h]

/-- a value that was set is found under its key, and the others stay -/
theorem get?_insert (attrs : Attributes) (key value k : Text) :
    (insert key value attrs).get? k = if k = key then some value else attrs.get? k := by
  induction attrs with
  | nil => exact get?_cons _ _ _
  | cons a attrs ih =>
    rw [insert]
    split
    · next hkey =>
      rw [get?_cons, get?_cons]
      by_cases h : k = key <;> simp [h, ← hkey]
    · next hkey =>
      split
      · exact get?_cons _ _ _
      · rw [get?_cons, get?_cons, ih]
        by_cases h : k = key <;> simp [h, hkey]

/-- of the values that are set for a key the last counts -/
theorem get?_foldl_insert (pairs : List (Text × Text)) (key : Text) : ∀ attrs : Attributes,
    (pairs.foldl (fun m x => insert x.1 x.2 m) attrs).get? key =
      (pairs.reverse.lookup key).or (attrs.get? key) := by
  induction pairs with
  | nil => exact fun _ => rfl
  | cons a pairs ih =>
    intro attrs
    have hlast : [a].lookup key = if key = a.1 then some a.2 else none := get?_cons a [] key
    rw [List.foldl_cons, ih, get?_insert, List.reverse_cons, List.lookup_append, Option.or_assoc,
      hlast]
    by_cases h : key = a.1 <;> simp [h]

theorem pairwise_foldl_insert (pairs : List (Text × Text)) : ∀ {attrs : Attributes},
    (attrs.map Prod.fst).Pairwise (· < ·) →
      ((pairs.foldl (fun m x => insert x.1 x.2 m) attrs).map Prod.fst).Pairwise
        (· < ·) := by
  induction pairs with
  | nil => exact fun h => h
  | cons a pairs ih => exact fun h => ih (pairwise_insert h a.1 a.2)

/-- **what is set key by key** holds the pairs that were set, where no key comes twice -/
theorem perm_foldl_insert (pairs : List (Text × Text)) : ∀ {attrs : Attributes},
    ((attrs ++ pairs).map Prod.fst).Nodup →
      (pairs.foldl (fun m x => insert x.1 x.2 m) attrs).Perm (attrs ++ pairs) := by
  induction pairs with
  | nil =>
    intro attrs _
    rw [List.append_nil]
    exact List.Perm.refl _
  | cons a pairs ih =>
    intro attrs h
    obtain ⟨hkey, h⟩ : a.1 ∉ (attrs ++ pairs).map Prod.fst ∧ ((attrs ++ pairs).map Prod.fst).Nodup :=
      List.nodup_cons.mp ((List.perm_middle.map Prod.fst).nodup_iff.mp h)
    have hnew : a.1 ∉ attrs.map Prod.fst := fun hmem =>
      hkey (List.map_subset _ (List.subset_append_left _ _) hmem)
    have hinsert : (insert a.1 a.2 attrs ++ pairs).Perm (a :: (attrs ++ pairs)) :=
      (perm_insert hnew).append_right pairs
    have hnodup : ((insert a.1 a.2 attrs ++ pairs).map Prod.fst).Nodup :=
      (hinsert.map _).nodup_iff.mpr (List.nodup_cons.mpr ⟨hkey, h⟩)
    exact ((ih hnodup).trans hinsert).trans List.perm_middle.symm

end Attributes

/-! ## the keys of a quest header -/

namespace QuestHeader

/-- the keys of a header are written in one order, and none of them twice -/
theorem pairs_keys_sublist (q : QuestHeader) : (q.pairs.map Prod.fst).Sublist keys := by
  have hstring (key : Text) (value : Option Text) :
      ((value.toList.map fun v => (key, v)).map Prod.fst).Sublist [key] := by
    cases value with
    | none => exact List.nil_sublist _
    | some v => exact List.Sublist.refl _
  unfold pairs
  simp only [List.map_append, List.map_cons]
  have htexts := ((((hstring "summary" q.summary).cons_cons "title".toList).append
    (hstring "author" q.author)).append (hstring "email" q.email)).append (hstring "url" q.url)
  have hnumbers (key : Text) (value : Option Int) := hstring key (value.map Text.ofInt)
  exact ((((htexts.append (hnumbers "minplayers" _)).append (hnumbers "maxplayers" _)).append
    (hnumbers "mintimeminutes" _)).append (hnumbers "maxtimeminutes" _)).append
      (hstring "familyfriendly" _)

theorem nodup_keys_pairs (q : QuestHeader) : (q.pairs.map Prod.fst).Nodup :=
  q.pairs_keys_sublist.nodup (by decide)

end QuestHeader

end QuestScript
