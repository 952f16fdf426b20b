import QuestScript.Proofs.Card.Reading

/-!
# The messages of a card

What reading a unit can say, by the numbers of the messages, and about which blocks.

* `Problem.severity_eq_internal_iff`  the numbers of messages about the render itself;
* `Roleplay.mem_log`, `Combat.mem_log`, `QuestHeader.code_ofBlock`  the cards that are read in steps;
* `Card.mem_log`           every card: a message is a problem in some members of the unit;
* `CardFormat.mem_assemble`  documents: there is one message that a document can give;
* `Card.filter_indented`   the message about a quest header that is indented.
-/

namespace QuestScript

variable {V : Type}

/-- **the messages about the render itself** are those with the numbers that are kept for it -/
theorem Problem.severity_eq_internal_iff (p : Problem) :
    p.severity = .internal ↔ Diagnostic.isInternalCode p.code = true := by
  cases p <;> simp [severity, code, Diagnostic.isInternalCode]

/-! ## cards that are read in steps -/

section
variable {d : Diagnostic}

/-- where a log grows step by step, a message was there before or comes from one of the steps -/
theorem mem_log_foldl {σ ι : Type} {log : σ → List Diagnostic} {step : σ → ι → σ} {P : ι → Prop}
    (hstep : ∀ s i, d ∈ log (step s i) → d ∈ log s ∨ P i) (l : List ι) :
    ∀ s, d ∈ log (l.foldl step s) → d ∈ log s ∨ ∃ i ∈ l, P i := by
  induction l with
  | nil => exact fun _ => Or.inl
  | cons i l ih =>
    intro s hd
    rcases ih _ hd with hd | ⟨j, hj, hP⟩
    · exact (hstep s i hd).imp_right fun hP => ⟨i, List.mem_cons_self, hP⟩
    · exact Or.inr ⟨j, List.mem_cons_of_mem _ hj, hP⟩

theorem Roleplay.mem_log_addMember (x : List (BodyItem V) × List Diagnostic) (m : Member V)
    (hd : d ∈ (addMember x m).2) : d ∈ x.2 ∨ d = Problem.strayChild.on [m.id] := by
  obtain ⟨body, log⟩ := x
  cases m with
  | own id b => exact Or.inl hd
  | folded id v =>
    cases hv : attach? body v with
    | some body' =>
      rw [addMember_of_attach log id hv] at hd
      exact Or.inl hd
    | none =>
      rw [addMember_of_stray log id hv] at hd
      exact (List.mem_append.mp hd).imp_right List.mem_singleton.mp

theorem Roleplay.mem_log {u : RenderUnit V} (hd : d ∈ (ofUnit u).2) :
    ∃ m ∈ u.rest, d = Problem.strayChild.on [m.id] := by
  rw [ofUnit_eq] at hd
  exact (mem_log_foldl mem_log_addMember u.rest _ hd).resolve_left List.not_mem_nil

namespace CombatReading

/-- the numbers of the messages that lines and members of a combat card give -/
def codes : List Nat := [428, 431, 434]

theorem mem_log_addLine {id : Nat} (r : CombatReading V) (line : Text)
    (hd : d ∈ (r.addLine id line).log) :
    d ∈ r.log ∨ ∃ p : Problem, p.code ∈ codes ∧ d = p.on [id] := by
  have hconcat : ∀ p : Problem, p.code ∈ codes → d ∈ r.log ++ [p.on [id]] →
      d ∈ r.log ∨ ∃ p : Problem, p.code ∈ codes ∧ d = p.on [id] := fun p hp hd =>
    (List.mem_append.mp hd).imp_right fun hd => ⟨p, hp, List.mem_singleton.mp hd⟩
  unfold addLine at hd
  split at hd
  · next name _ =>
    unfold addEnemy at hd
    split at hd <;> exact Or.inl hd
  · exact Or.inl hd
  · next choice _ => exact hconcat (.unknownEvent choice) (by simp [codes, Problem.code]) hd
  · next line _ => exact hconcat (.malformedCombatLine line) (by simp [codes, Problem.code]) hd

theorem mem_log_foldl_addLine {id : Nat} {lines : List Text} {r : CombatReading V}
    (hd : d ∈ (lines.foldl (addLine id) r).log) :
    d ∈ r.log ∨ ∃ p : Problem, p.code ∈ codes ∧ d = p.on [id] :=
  (mem_log_foldl mem_log_addLine lines r hd).imp_right fun ⟨_, _, hp⟩ => hp

theorem mem_log_addMember (r : CombatReading V) (m : Member V) (hd : d ∈ (r.addMember m).log) :
    d ∈ r.log ∨ ∃ p : Problem, p.code ∈ codes ∧ d = p.on [m.id] := by
  cases m with
  | own id b => exact mem_log_foldl_addLine hd
  | folded id v =>
    cases hv : r.attached? v with
    | none =>
      rw [addMember_of_stray r id v hv] at hd
      refine (List.mem_append.mp hd).imp_right fun hd => ⟨_, ?_, List.mem_singleton.mp hd⟩
      decide
    | some events =>
      rw [addMember_of_attached r id v hv] at hd
      exact Or.inl hd

theorem mem_log {u : RenderUnit V} (hd : d ∈ (ofUnit u).log) :
    ∃ id ∈ u.ids, ∃ p : Problem, p.code ∈ codes ∧ d = p.on [id] := by
  rcases mem_log_foldl mem_log_addMember u.rest _ hd with hd | ⟨m, hm, hp⟩
  · have hp := (mem_log_foldl_addLine hd).resolve_left List.not_mem_nil
    exact ⟨u.anchorId, List.mem_cons_self, hp⟩
  · exact ⟨m.id, List.mem_map_of_mem (List.mem_cons_of_mem _ hm), hp⟩

end CombatReading

theorem Combat.mem_log {u : RenderUnit V} (hd : d ∈ (ofUnit u).2) :
    ∃ id ∈ u.ids, ∃ p : Problem, p.code ∈ 430 :: CombatReading.codes ∧ d = p.on [id] := by
  rcases List.mem_append.mp hd with hd | hd
  · obtain ⟨id, hid, p, hp, heq⟩ := CombatReading.mem_log hd
    exact ⟨id, hid, p, List.mem_cons_of_mem _ hp, heq⟩
  · split at hd
    · exact ⟨u.anchorId, List.mem_cons_self, .noEnemies, List.mem_cons_self, List.mem_singleton.mp hd⟩
    · cases hd

end

/-! ## quest headers -/

namespace Attributes

theorem code_missing {attrs : Attributes} {key : Text} {required : Bool} {p : Problem}
    (hp : p ∈ attrs.missing key required) : p.code = 424 := by
  unfold missing at hp
  split at hp
  · rw [List.mem_singleton.mp hp]
    rfl
  · cases hp

theorem code_number {attrs : Attributes} {key : Text} {required : Bool} {p : Problem}
    (hp : p ∈ (attrs.number key required).2) : p.code = 424 ∨ p.code = 426 := by
  unfold number at hp
  split at hp
  · exact Or.inl (code_missing hp)
  · split at hp
    · exact Or.inl (code_missing hp)
    · rcases List.mem_append.mp hp with hp | hp
      · exact Or.inl (code_missing hp)
      · rw [List.mem_singleton.mp hp]
        exact Or.inr rfl

theorem code_unknown {attrs : Attributes} {known : List Text} {p : Problem}
    (hp : p ∈ attrs.unknown known) : p.code = 427 := by
  obtain ⟨_, _, rfl⟩ := List.mem_map.mp hp
  rfl

theorem code_malformed {lines : List Text} {p : Problem} (hp : p ∈ malformed lines) :
    p.code = 434 := by
  obtain ⟨_, _, rfl⟩ := List.mem_map.mp hp
  rfl

end Attributes

theorem QuestHeader.code_ofBlock (b : Block) : ∀ p ∈ (ofBlock b).2,
    p.code = 424 ∨ p.code = 426 ∨ p.code = 427 ∨ p.code = 434 := by
  intro p hp
  rcases List.mem_append.mp hp with hp | hp
  · exact Or.inr (Or.inr (Or.inr (Attributes.code_malformed hp)))
  rcases List.mem_append.mp hp with hp | hp
  · rcases List.mem_append.mp hp with hp | hp
    · exact Or.inl (Attributes.code_missing hp)
    · obtain ⟨key, _, hp⟩ := List.mem_flatMap.mp hp
      have := Attributes.code_number hp
      omega
  · exact Or.inr (Or.inr (Or.inl (Attributes.code_unknown hp)))

/-! ## all cards -/

namespace Card

/-- the numbers of the messages about a card that stands where it may -/
def codes : List Nat := [424, 426, 427, 428, 430, 431, 433, 434]

/-- **what reading a unit can say**: it is a problem in some members of the unit, with one of these
numbers, or the one of a quest header that is indented -/
theorem mem_log {kind : LineKind} {u : RenderUnit V} {d : Diagnostic} (hd : d ∈ (ofUnit kind u).2) :
    ∃ (p : Problem) (on : List Nat), d = p.on on ∧ on ≠ [] ∧ on ⊆ u.ids ∧
      (p.code ∈ codes ∨
        kind = .root ∧ 0 < u.anchor.indent ∧ p = .indentedQuest ∧ on = [u.anchorId]) := by
  have hanchor : [u.anchorId] ⊆ u.ids := List.cons_subset.mpr ⟨List.mem_cons_self, List.nil_subset _⟩
  cases kind with
  | root =>
    change d ∈ (ofQuest u).2 at hd
    unfold ofQuest at hd
    split at hd
    · next hindent =>
      exact ⟨_, _, List.mem_singleton.mp hd, List.cons_ne_nil _ _, hanchor,
        Or.inr ⟨rfl, hindent, rfl, rfl⟩⟩
    · obtain ⟨p, hp, rfl⟩ := List.mem_map.mp hd
      refine ⟨p, _, rfl, List.cons_ne_nil _ _, hanchor, Or.inl ?_⟩
      rcases QuestHeader.code_ofBlock u.anchor p hp with h | h | h | h <;> rw [h] <;> decide
  | combat =>
    obtain ⟨id, hid, p, hp, rfl⟩ := Combat.mem_log hd
    refine ⟨p, _, rfl, List.cons_ne_nil _ _, List.cons_subset.mpr ⟨hid, List.nil_subset _⟩, Or.inl ?_⟩
    exact (by decide : 430 :: CombatReading.codes ⊆ codes) hp
  | trigger =>
    change d ∈ (ofTrigger u).2 at hd
    unfold ofTrigger at hd
    split at hd
    · exact ⟨_, _, List.mem_singleton.mp hd, List.cons_ne_nil _ _, List.Subset.refl _,
        Or.inl (by decide)⟩
    · cases hd
  | narrative =>
    obtain ⟨m, hm, rfl⟩ := Roleplay.mem_log hd
    have hid : m.id ∈ u.ids := List.mem_map_of_mem (List.mem_cons_of_mem _ hm)
    exact ⟨_, _, rfl, List.cons_ne_nil _ _, List.cons_subset.mpr ⟨hid, List.nil_subset _⟩,
      Or.inl (by decide)⟩

theorem filter_of_not_mem_codes {n : Nat} (hn : n ∉ codes) (hn' : n ≠ 432) (kind : LineKind)
    (u : RenderUnit V) : (ofUnit kind u).2.filter (·.code = n) = [] := by
  rw [List.filter_eq_nil_iff]
  intro d hd hcode
  have hcode : d.code = n := of_decide_eq_true hcode
  obtain ⟨p, on, rfl, _, _, h | ⟨_, _, rfl, _⟩⟩ := mem_log hd
  · exact hn (hcode ▸ h)
  · exact hn' hcode.symm

/-- the message 432 comes from a quest header that is indented, and it comes once -/
theorem filter_indented (kind : LineKind) (u : RenderUnit V) :
    (ofUnit kind u).2.filter (·.code = 432) =
      if kind = .root ∧ 0 < u.anchor.indent then
        [Problem.indentedQuest.on [u.anchorId]] else [] := by
  split
  · next h =>
    obtain ⟨rfl, hindent⟩ := h
    show (ofQuest u).2.filter _ = _
    unfold ofQuest
    rw [if_pos hindent]
    rfl
  · next h =>
    rw [List.filter_eq_nil_iff]
    intro d hd hcode
    obtain ⟨p, on, rfl, _, _, hmem | ⟨hkind, hindent, _⟩⟩ := mem_log hd
    · have hcode : p.code = 432 := of_decide_eq_true hcode
      rw [hcode] at hmem
      exact absurd hmem (by decide)
    · exact h ⟨hkind, hindent⟩

end Card

/-- **what making a document can say**: there is no quest header -/
theorem CardFormat.mem_assemble {f : CardFormat V} {roots : List V} {d : Diagnostic}
    (hd : d ∈ (f.assemble roots).2) : d = Problem.missingQuest.on [] := by
  unfold assemble at hd
  split at hd
  · cases hd
  · split at hd
    · cases hd
    · exact List.mem_singleton.mp hd

end QuestScript
