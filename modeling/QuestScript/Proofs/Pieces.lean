import Mathlib.Data.List.SplitBy
import Mathlib.Data.List.Nodup

/-!
# Lists cut into pieces

`List.splitBy` cuts a list where two neighbours are not related.  What one more element does to the
pieces, and when two neighbours stand in one piece:

* `splitBy_cons_of_rel`, `splitBy_cons_of_not_rel`  an element before the first piece;
* `splitBy_concat`                                  an element after the last piece;
* `tail_of_mem_splitBy`, `head?_of_mem_tail_splitBy`  a list cut before some of its elements;
* `exists_mem_splitBy_iff`                          two neighbours stand in one piece just if they
                                                    are related;
* `infix_of_succ`                                   neighbours by their positions.
-/

namespace QuestScript

variable {α : Type} {r : α → α → Bool} {l : List α} {a : α}

theorem mem_of_mem_splitBy {m : List α} (hm : m ∈ l.splitBy r) {x : α} (hx : x ∈ m) : x ∈ l := by
  rw [← List.flatten_splitBy r l]
  exact List.mem_flatten_of_mem hm hx

theorem splitBy_map {β : Type} {R : β → β → Bool} {S : α → α → Bool} (f : α → β) {l : List α}
    (h : ∀ x ∈ l, ∀ y ∈ l, R (f x) (f y) = S x y) :
    (l.map f).splitBy R = (l.splitBy S).map (List.map f) := by
  have hmem : ∀ m ∈ l.splitBy S, ∀ x ∈ m, x ∈ l := fun m hm x hx => mem_of_mem_splitBy hm hx
  rw [List.splitBy_eq_iff]
  refine ⟨?_, ?_, ?_, ?_⟩
  · rw [← List.map_flatten, List.flatten_splitBy]
  · intro hnil
    obtain ⟨m, hm, e⟩ := List.mem_map.mp hnil
    exact List.ne_nil_of_mem_splitBy hm (List.map_eq_nil_iff.mp e)
  · intro _ hm'
    obtain ⟨m, hm, rfl⟩ := List.mem_map.mp hm'
    rw [List.isChain_map]
    refine (List.isChain_of_mem_splitBy hm).imp_of_mem_imp ?_
    intro x y hx hy hxy
    rw [h x (hmem m hm x hx) y (hmem m hm y hy)]
    exact hxy
  · rw [List.isChain_map]
    refine (List.isChain_getLast_head_splitBy S l).imp_of_mem_imp ?_
    rintro m m' hm hm' ⟨hne, hne', hxy⟩
    refine ⟨by simpa using hne, by simpa using hne', ?_⟩
    rw [List.getLast_map, List.head_map,
      h _ (hmem m hm _ (List.getLast_mem hne)) _ (hmem m' hm' _ (List.head_mem hne'))]
    exact hxy

/-! ## one more element -/

theorem head?_of_splitBy {gs : List (List α)} {g : List α} (h : l.splitBy r = g :: gs) :
    g.head? = l.head? := by
  have hg : g ≠ [] := List.ne_nil_of_mem_splitBy (h ▸ List.mem_cons_self)
  rw [← List.flatten_splitBy r l, h, List.flatten_cons, List.head?_append_of_ne_nil _ hg]

/-- an element that goes on with the last piece goes to its end -/
theorem splitBy_concat {gs : List (List α)} {g : List α} (h : l.splitBy r = gs ++ [g])
    (ha : ∀ x ∈ l.getLast?, r x a = true) : (l ++ [a]).splitBy r = gs ++ [g ++ [a]] := by
  obtain ⟨hl, hne, hc, hc'⟩ := List.splitBy_eq_iff.mp h
  have hg : g ≠ [] := fun e => hne (by simp [e])
  have hlast : g.getLast? = l.getLast? := by
    rw [hl, List.flatten_append, List.flatten_singleton, List.getLast?_append_of_ne_nil _ hg]
  rw [List.splitBy_eq_iff]
  refine ⟨by simp [hl], by simpa [hg] using hne, ?_, ?_⟩
  · intro m hm
    rcases List.mem_append.mp hm with hm | hm
    · exact hc m (List.mem_append_left _ hm)
    · obtain rfl := List.mem_singleton.mp hm
      rw [List.isChain_append]
      refine ⟨hc g (by simp), List.isChain_singleton _, ?_⟩
      intro x hx y hy
      obtain rfl : a = y := by simpa using hy
      exact ha x (hlast ▸ hx)
  · rw [List.isChain_append] at hc' ⊢
    refine ⟨hc'.1, List.isChain_singleton _, ?_⟩
    intro m hm m' hm'
    obtain rfl : g ++ [a] = m' := by simpa using hm'
    obtain ⟨h1, h2, h3⟩ := hc'.2.2 m hm g (by simp)
    exact ⟨h1, by simp, by rwa [List.head_append_of_ne_nil]⟩

/-- an element that the first piece goes on with goes to its head -/
theorem splitBy_cons_of_rel {gs : List (List α)} {g : List α} (h : l.splitBy r = g :: gs)
    (ha : ∀ x ∈ l.head?, r a x = true) : (a :: l).splitBy r = (a :: g) :: gs := by
  obtain ⟨hl, hne, hc, hc'⟩ := List.splitBy_eq_iff.mp h
  have hg : g ≠ [] := fun e => hne (by simp [e])
  rw [List.splitBy_eq_iff]
  refine ⟨by simp [hl], by simpa using fun h => hne (List.mem_cons_of_mem _ h), ?_, ?_⟩
  · rw [List.forall_mem_cons] at hc ⊢
    refine ⟨List.isChain_cons.mpr ⟨?_, hc.1⟩, hc.2⟩
    exact fun x hx => ha x (head?_of_splitBy h ▸ hx)
  · rw [List.isChain_cons] at hc' ⊢
    refine ⟨fun m hm => ?_, hc'.2⟩
    obtain ⟨h1, h2, h3⟩ := hc'.1 m hm
    exact ⟨by simp, h2, by rwa [List.getLast_cons hg]⟩

theorem splitBy_cons_of_not_rel (ha : ∀ x ∈ l.head?, r a x = false) :
    (a :: l).splitBy r = [a] :: l.splitBy r := by
  refine List.splitBy_append (l := [a]) fun x hx y hy => ?_
  obtain rfl : a = x := by simpa using hx
  exact ha y hy

/-! ## cuts before marked elements -/

section
variable {β : Type} {R : β → β → Prop} {P : β → Prop}

theorem forall_mem_tail_of_isChain (hR : ∀ a b, R a b → P b) {l : List β} (h : l.IsChain R) :
    ∀ x ∈ l.tail, P x := by
  induction l with
  | nil => exact fun _ hx => nomatch hx
  | cons a l ih =>
    intro x hx
    cases l with
    | nil => cases hx
    | cons b l =>
      obtain ⟨hab, hl⟩ := List.isChain_cons_cons.mp h
      rcases List.mem_cons.mp hx with rfl | hx
      · exact hR _ _ hab
      · exact ih hl x hx

end

section
variable {p : α → Bool} {m : List α}

/-- where a list is cut before the elements without `p`, no such element stands within a piece -/
theorem tail_of_mem_splitBy (hm : m ∈ l.splitBy fun _ x => p x) : ∀ x ∈ m.tail, p x = true :=
  forall_mem_tail_of_isChain (P := fun x => p x = true) (fun _ _ h => h)
    (List.isChain_of_mem_splitBy hm)

/-- and every piece but the first starts with one -/
theorem head?_of_mem_tail_splitBy (hm : m ∈ (l.splitBy fun _ x => p x).tail) :
    ∀ x ∈ m.head?, p x = false := by
  refine forall_mem_tail_of_isChain (P := fun m => ∀ x ∈ m.head?, p x = false) ?_
    (List.isChain_getLast_head_splitBy _ l) m hm
  rintro _ g ⟨_, hg, h⟩ x hx
  rw [List.head?_eq_some_head hg] at hx
  exact Option.some.inj hx ▸ h

end

/-! ## neighbours -/

/-- a piece stays within one piece when an element is put before the list -/
theorem exists_subset_splitBy_cons (a : α) {g : List α} (hg : g ∈ l.splitBy r) :
    ∃ g' ∈ (a :: l).splitBy r, g ⊆ g' := by
  by_cases ha : ∀ x ∈ l.head?, r a x = false
  · exact ⟨g, splitBy_cons_of_not_rel ha ▸ List.mem_cons_of_mem _ hg, List.Subset.refl g⟩
  · have ha' : ∀ x ∈ l.head?, r a x = true := by
      push Not at ha
      obtain ⟨x, hx, hax⟩ := ha
      intro y hy
      rw [Option.mem_unique hy hx]
      exact Bool.ne_false_iff.mp hax
    obtain ⟨g₀, gs, e⟩ := List.exists_cons_of_ne_nil (List.ne_nil_of_mem hg)
    rw [splitBy_cons_of_rel e ha']
    rw [e] at hg
    rcases List.mem_cons.mp hg with rfl | hg
    · exact ⟨a :: g, List.mem_cons_self, List.subset_cons_self a g⟩
    · exact ⟨g, List.mem_cons_of_mem _ hg, List.Subset.refl g⟩

theorem exists_mem_splitBy_of_rel {x y : α} (hr : r x y = true) (pre post : List α) :
    ∃ g ∈ (pre ++ x :: y :: post).splitBy r, x ∈ g ∧ y ∈ g := by
  induction pre with
  | nil =>
    obtain ⟨g, gs, e⟩ := List.exists_cons_of_ne_nil
      (List.splitBy_ne_nil (r := r).mpr (List.cons_ne_nil y post))
    have hy : g.head? = some y := head?_of_splitBy e
    have hrel := splitBy_cons_of_rel (a := x) e fun z hz => by
      obtain rfl : y = z := by simpa using hz
      exact hr
    refine ⟨x :: g, ?_, List.mem_cons_self, List.mem_cons_of_mem _ (List.mem_of_head? hy)⟩
    rw [List.nil_append, hrel]
    exact List.mem_cons_self
  | cons a pre ih =>
    obtain ⟨g, hg, hx, hy⟩ := ih
    obtain ⟨g', hg', hsub⟩ := exists_subset_splitBy_cons a hg
    exact ⟨g', hg', hsub hx, hsub hy⟩

/-- **two neighbours** stand in one piece just if they are related -/
theorem exists_mem_splitBy_iff (hl : l.Nodup) {x y : α} (h : [x, y] <:+: l) :
    (∃ g ∈ l.splitBy r, x ∈ g ∧ y ∈ g) ↔ r x y = true := by
  obtain ⟨pre, post, e⟩ := h
  obtain rfl : l = (pre ++ [x]) ++ y :: post := by simp [← e]
  constructor
  · rintro ⟨g, hg, hx, hy⟩
    by_contra hr
    rw [List.splitBy_append_cons, List.mem_append] at hg
    · have hdisjoint := List.disjoint_of_nodup_append hl
      rcases hg with hg | hg
      · exact hdisjoint (mem_of_mem_splitBy hg hy) List.mem_cons_self
      · exact hdisjoint (List.mem_append_right _ List.mem_cons_self) (mem_of_mem_splitBy hg hx)
    · intro z hz
      obtain rfl : x = z := by simpa using hz
      exact Bool.eq_false_iff.mpr hr
  · intro hr
    rw [List.append_assoc]
    exact exists_mem_splitBy_of_rel hr pre post

/-! ## positions -/

theorem getElem?_of_mem_zipIdx {x : α × Nat} (h : x ∈ l.zipIdx) : l[x.2]? = some x.1 :=
  List.mk_mem_zipIdx_iff_getElem?.mp h

theorem pairwise_zipIdx (l : List α) : l.zipIdx.Pairwise fun x y => x.2 < y.2 := by
  rw [← List.pairwise_map (f := Prod.snd) (R := (· < ·)), List.zipIdx_map_snd]
  exact List.pairwise_lt_range'

/-- of an ascending list, two elements that differ by one step are neighbours -/
theorem infix_of_succ {f : α → Nat} (h : l.Pairwise fun x y => f x < f y) {x y : α} (hx : x ∈ l)
    (hy : y ∈ l) (hxy : f y = f x + 1) : [x, y] <:+: l := by
  obtain ⟨pre, post, rfl⟩ := List.append_of_mem hx
  obtain ⟨_, hpost, hbetween⟩ := List.pairwise_append.mp h
  have hy' : y ∈ post := by
    rcases List.mem_append.mp hy with hy | hy
    · have := hbetween y hy x List.mem_cons_self
      omega
    · refine (List.mem_cons.mp hy).resolve_left ?_
      rintro rfl
      omega
  obtain ⟨mid, post', rfl⟩ := List.append_of_mem hy'
  cases mid with
  | nil => exact ⟨pre, post', by simp⟩
  | cons z mid =>
    have hxz := List.rel_of_pairwise_cons hpost List.mem_cons_self
    have hzy := (List.pairwise_append.mp (List.pairwise_cons.mp hpost).2).2.2 z List.mem_cons_self
      y List.mem_cons_self
    omega

end QuestScript
