import QuestScript.Text.Basic
import Mathlib.Data.List.Basic

/-!
# Parts of a text

A mark is taken off a text, a text is cut at a character, and a part is looked for in a text.

* `Text.dropPrefix?_eq_some_iff`, `Text.dropSuffix?_eq_some_iff`  what stands beside a mark;
* `Text.splitOnce_eq_some_iff`  the first place of a character;
* `Text.mem_of_mem_splitOn`  where a character of a piece comes from;
* `Text.mem_join`          where a character of joined pieces comes from;
* `Text.Skips`             texts that a search for a part passes over;
* `Text.hasPart_iff`       a search finds a part wherever there is one.
-/

namespace QuestScript.Text

/-! ## marks -/

section
variable {mark t : Text}

theorem startsWith_iff : startsWith mark t = true ↔ mark <+: t := List.isPrefixOf_iff_prefix

theorem dropPrefix?_eq_some_iff {rest : Text} :
    dropPrefix? mark t = some rest ↔ t = mark ++ rest := by
  rw [dropPrefix?, List.isPrefixOf?_eq_some_iff_append_eq]
  exact eq_comm

theorem prefix_of_dropPrefix? {rest : Text} (h : dropPrefix? mark t = some rest) : mark <+: t :=
  ⟨rest, (dropPrefix?_eq_some_iff.mp h).symm⟩

theorem dropPrefix?_eq_none_iff : dropPrefix? mark t = none ↔ ¬mark <+: t := by
  constructor
  · rintro h ⟨rest, rfl⟩
    rw [dropPrefix?_eq_some_iff.mpr rfl] at h
    cases h
  · intro h
    refine Option.eq_none_iff_forall_not_mem.mpr fun rest hrest => h ?_
    exact prefix_of_dropPrefix? hrest

theorem dropSuffix?_eq_some_iff {rest : Text} :
    dropSuffix? mark t = some rest ↔ t = rest ++ mark := by
  unfold dropSuffix?
  rw [Option.map_eq_some_iff]
  constructor
  · rintro ⟨r, hr, rfl⟩
    have := dropPrefix?_eq_some_iff.mp hr
    rw [← List.reverse_reverse t, this, List.reverse_append, List.reverse_reverse]
  · rintro rfl
    exact ⟨rest.reverse, dropPrefix?_eq_some_iff.mpr List.reverse_append, List.reverse_reverse rest⟩

theorem length_of_dropPrefix? {rest : Text} (h : dropPrefix? mark t = some rest) :
    rest.length ≤ t.length := by
  rw [dropPrefix?_eq_some_iff.mp h, List.length_append]
  exact Nat.le_add_left _ _

theorem mem_of_dropPrefix? {rest : Text} (h : dropPrefix? mark t = some rest) {c : Char}
    (hc : c ∈ rest) : c ∈ t :=
  dropPrefix?_eq_some_iff.mp h ▸ List.mem_append_right _ hc

theorem mem_of_dropSuffix? {rest : Text} (h : dropSuffix? mark t = some rest) {c : Char}
    (hc : c ∈ rest) : c ∈ t :=
  dropSuffix?_eq_some_iff.mp h ▸ List.mem_append_left _ hc

/-- a mark at the start of a text ends before any character that is not in it -/
theorem prefix_of_prefix_append_cons {c : Char} {rest : Text} (hc : c ∉ mark)
    (h : mark <+: t ++ c :: rest) : mark <+: t := by
  rcases List.prefix_or_prefix_of_prefix h (List.prefix_append t (c :: rest)) with hmark | ht
  · exact hmark
  · obtain ⟨more, rfl⟩ := ht
    cases more with
    | nil => simp
    | cons d more =>
      rw [List.prefix_append_right_inj, List.cons_prefix_cons] at h
      exact absurd (List.mem_append_right t (h.1 ▸ List.mem_cons_self)) hc

/-- a text that starts with a mark starts with the character that the mark starts with -/
theorem head?_of_prefix {c : Char} (hc : mark.head? = some c) (h : mark <+: t) :
    t.head? = some c := by
  obtain ⟨rest, rfl⟩ := h
  exact List.mem_head?_append_of_mem_head? hc

end

/-! ## cutting at a character -/

theorem splitOnce_append {c : Char} {a : Text} (h : c ∉ a) (b : Text) :
    splitOnce c (a ++ c :: b) = some (a, b) := by
  induction a with
  | nil => exact if_pos rfl
  | cons d a ih =>
    rw [List.mem_cons, not_or] at h
    rw [List.cons_append, splitOnce, if_neg (Ne.symm h.1), ih h.2]
    rfl

theorem splitOnce_eq_none_iff {c : Char} {t : Text} : splitOnce c t = none ↔ c ∉ t := by
  induction t with
  | nil => simp [splitOnce]
  | cons d t ih =>
    rw [splitOnce, List.mem_cons, not_or]
    by_cases h : d = c <;> simp [h, ih, Ne.symm]

theorem eq_of_splitOnce {c : Char} {t : Text} : ∀ {a b : Text},
    splitOnce c t = some (a, b) → t = a ++ c :: b := by
  induction t with
  | nil => exact fun h => nomatch h
  | cons d t ih =>
    intro a b h
    unfold splitOnce at h
    split at h
    · next hd =>
      obtain ⟨rfl, rfl⟩ := Prod.mk.inj (Option.some.inj h)
      rw [hd, List.nil_append]
    · obtain ⟨p, hsplit, heq⟩ := Option.map_eq_some_iff.mp h
      obtain ⟨rfl, rfl⟩ := Prod.mk.inj heq
      rw [ih hsplit, List.cons_append]

theorem not_mem_of_splitOnce {c : Char} {t : Text} : ∀ {a b : Text},
    splitOnce c t = some (a, b) → c ∉ a := by
  induction t with
  | nil => exact fun h => nomatch h
  | cons d t ih =>
    intro a b h
    unfold splitOnce at h
    split at h
    · obtain ⟨rfl, _⟩ := Prod.mk.inj (Option.some.inj h)
      exact List.not_mem_nil
    · next hd =>
      obtain ⟨p, hsplit, heq⟩ := Option.map_eq_some_iff.mp h
      obtain ⟨rfl, rfl⟩ := Prod.mk.inj heq
      exact List.not_mem_cons_of_ne_of_not_mem (Ne.symm hd) (ih hsplit)

/-- **a text is cut** around the first place of a character -/
theorem splitOnce_eq_some_iff {c : Char} {t a b : Text} :
    splitOnce c t = some (a, b) ↔ t = a ++ c :: b ∧ c ∉ a := by
  constructor
  · exact fun h => ⟨eq_of_splitOnce h, not_mem_of_splitOnce h⟩
  · rintro ⟨rfl, h⟩
    exact splitOnce_append h b

theorem length_of_splitOnce {c : Char} {t a b : Text} (h : splitOnce c t = some (a, b)) :
    b.length < t.length := by
  rw [eq_of_splitOnce h, List.length_append, List.length_cons]
  omega

theorem mem_of_mem_splitOn {c : Char} {t : Text} : ∀ piece ∈ splitOn c t, ∀ d ∈ piece, d ∈ t := by
  unfold splitOn
  induction t with
  | nil => simp
  | cons e t ih =>
    intro piece hpiece d hd
    rw [List.splitOnP_cons_eq_if_modifyHead] at hpiece
    split at hpiece
    · rcases List.mem_cons.mp hpiece with rfl | hpiece
      · cases hd
      · exact List.mem_cons_of_mem _ (ih piece hpiece d hd)
    · cases hrest : t.splitOnP (· == c) with
      | nil => simp [hrest] at hpiece
      | cons first more =>
        rw [hrest] at hpiece ih
        rcases List.mem_cons.mp hpiece with rfl | hpiece
        · exact (List.mem_cons.mp hd).elim (fun heq => heq ▸ List.mem_cons_self) fun hd =>
            List.mem_cons_of_mem _ (ih first List.mem_cons_self d hd)
        · exact List.mem_cons_of_mem _ (ih piece (List.mem_cons_of_mem _ hpiece) d hd)

/-! ## putting pieces together -/

theorem mem_join {c : Char} {sep : Text} {pieces : List Text} (h : c ∈ join sep pieces) :
    c ∈ sep ∨ ∃ piece ∈ pieces, c ∈ piece := by
  unfold join at h
  induction pieces with
  | nil => cases h
  | cons piece pieces ih =>
    by_cases hnil : pieces = []
    · rw [hnil, List.intercalate_singleton] at h
      exact Or.inr ⟨piece, List.mem_cons_self, h⟩
    · rw [List.intercalate_cons_of_ne_nil hnil, List.mem_append, List.mem_append] at h
      rcases h with (h | h) | h
      · exact Or.inr ⟨piece, List.mem_cons_self, h⟩
      · exact Or.inl h
      · exact (ih h).imp_right fun ⟨p, hp, hc⟩ => ⟨p, List.mem_cons_of_mem _ hp, hc⟩

/-! ## looking for a part -/

theorem length_of_splitAtPart {part t : Text} : ∀ {a b : Text},
    splitAtPart part t = some (a, b) → b.length ≤ t.length := by
  induction t with
  | nil =>
    intro a b h
    unfold splitAtPart at h
    split at h
    · obtain ⟨_, rfl⟩ := Prod.mk.inj (Option.some.inj h)
      exact Nat.le_refl 0
    · cases h
  | cons d t ih =>
    intro a b h
    unfold splitAtPart at h
    split at h
    · next hrest =>
      obtain ⟨_, rfl⟩ := Prod.mk.inj (Option.some.inj h)
      exact length_of_dropPrefix? hrest
    · obtain ⟨_, hsplit, heq⟩ := Option.map_eq_some_iff.mp h
      obtain ⟨_, rfl⟩ := Prod.mk.inj heq
      exact Nat.le_succ_of_le (ih hsplit)

/-- **a search** finds a part wherever there is one -/
theorem hasPart_iff {part t : Text} : hasPart part t = true ↔ part <:+: t := by
  unfold hasPart
  induction t with
  | nil =>
    rw [splitAtPart, List.infix_nil]
    split <;> simp [*]
  | cons d t ih =>
    rw [splitAtPart, List.infix_cons_iff]
    cases h : dropPrefix? part (d :: t) with
    | some rest => simp [prefix_of_dropPrefix? h]
    | none => simp [dropPrefix?_eq_none_iff.mp h, ih]

/-- a search for `part` passes over `m`, whatever follows -/
def Skips (part m : Text) : Prop :=
  ∀ t, splitAtPart part (m ++ t) = (splitAtPart part t).map fun p => (m ++ p.1, p.2)

namespace Skips

variable {part m m' : Text}

theorem nil (part : Text) : Skips part [] := by
  intro t
  show splitAtPart part t = (splitAtPart part t).map id
  rw [Option.map_id]
  rfl

theorem append (h : Skips part m) (h' : Skips part m') : Skips part (m ++ m') := by
  intro t
  rw [List.append_assoc, h, h', Option.map_map]
  refine congrArg (Option.map · _) (funext fun p => ?_)
  rw [Function.comp_apply, List.append_assoc]

theorem cons {c : Char} (hc : ∀ t, dropPrefix? part (c :: (m ++ t)) = none) (h : Skips part m) :
    Skips part (c :: m) := by
  intro t
  rw [List.cons_append, splitAtPart, hc]
  show (splitAtPart part (m ++ t)).map _ = _
  rw [h, Option.map_map]
  rfl

/-- a text without the character that a part starts with -/
theorem of_not_mem {c : Char} (h : c ∉ m) : Skips (c :: part) m := by
  induction m with
  | nil => exact nil _
  | cons d m ih =>
    rw [List.mem_cons, not_or] at h
    refine cons (fun t => ?_) (ih h.2)
    exact if_neg fun heq => h.1 (eq_of_beq heq)

theorem splitAtPart (h : Skips part m) (hpart : part ≠ []) (t : Text) :
    splitAtPart part (m ++ (part ++ t)) = some (m, t) := by
  have hhere : Text.splitAtPart part (part ++ t) = some ([], t) := by
    have hdrop : dropPrefix? part (part ++ t) = some t := dropPrefix?_eq_some_iff.mpr rfl
    cases part with
    | nil => exact absurd rfl hpart
    | cons c part =>
      rw [List.cons_append] at hdrop ⊢
      rw [Text.splitAtPart, hdrop]
  rw [h, hhere, Option.map_some, List.append_nil]

end Skips

end QuestScript.Text
