import QuestScript.Proofs.Card.Combat
import QuestScript.Proofs.Card.Reading
import QuestScript.Proofs.Quest.Messages
import QuestScript.Proofs.Quest.Written
import QuestScript.Proofs.Trigger

/-!
# The labels of a card

The titles, choices, names and the like that a card is labelled with are taken from single lines of
its unit.  So none of them has a line feed if the lines have none.

* `RenderUnit.lines`              the lines of a unit;
* `Card.labels`                   the labels of a card;
* `Line.mem_of_title?` and so on  where the characters of a label come from;
* `Card.newline_not_mem_labels`   no label has a line feed.
-/

namespace QuestScript

variable {V : Type}

/-! ## parts of a line -/

namespace Line

variable {line : Text} {c : Char}

theorem mem_of_title? {title : Text} (h : title? line = some title) (hc : c ∈ title) : c ∈ line := by
  obtain ⟨inner, hinner, htitle⟩ := Option.bind_eq_some_iff.mp h
  obtain ⟨rest, hrest, hinner⟩ := Option.bind_eq_some_iff.mp hinner
  dsimp only at htitle
  split at htitle
  · cases htitle
  · rw [← Option.some.inj htitle] at hc
    exact Text.mem_of_dropPrefix? hrest (Text.mem_of_dropSuffix? hinner (Text.mem_of_mem_trim hc))

theorem mem_of_choice? {choice : Text} (h : choice? line = some choice) (hc : c ∈ choice) :
    c ∈ line := by
  obtain ⟨rest, rfl, rfl⟩ := choice?_eq_some_iff.mp h
  exact List.mem_cons_of_mem _ (List.mem_cons_of_mem _ (Text.mem_of_mem_trim hc))

theorem mem_of_triggerText? {text : Text} (h : triggerText? line = some text) (hc : c ∈ text) :
    c ∈ line := by
  obtain ⟨before, middle, after, hdivides, rfl⟩ := triggerText?_eq_some_iff.mp h
  rw [hdivides.line_eq]
  simp [Text.mem_of_mem_trim hc]

theorem mem_of_mem_names {name : Text} (h : name ∈ Text.names line) (hc : c ∈ name) : c ∈ line := by
  obtain ⟨piece, hpiece, rfl⟩ := List.mem_map.mp (List.mem_filter.mp h).1
  exact Text.mem_of_mem_splitOn piece hpiece c (Text.mem_of_mem_trim hc)

theorem mem_of_afterMark {names : Text} (h : AfterMark line names) (hc : c ∈ names) : c ∈ line := by
  rcases h with rfl | ⟨_, rfl⟩
  · exact List.mem_append_right _ hc
  · exact hc

end Line

/-- the value in force for a key of a quest header comes from the text after the `#` or from one of
the lines below it -/
theorem QuestHeader.mem_of_inForce {headerTitle : Text} {lines : List Text} {key value : Text}
    (h : inForce headerTitle lines key = some value) {c : Char} (hc : c ∈ value) :
    c ∈ headerTitle ∨ ∃ line ∈ lines, c ∈ line := by
  cases inForce_eq_some_iff.mp h with
  | @line before line _ _ _ hlines hgives =>
    obtain ⟨_, after, rfl, _, _, rfl⟩ := hgives
    refine Or.inr ⟨_, hlines ▸ List.mem_append_right _ List.mem_cons_self, ?_⟩
    exact List.mem_append_right _ (List.mem_cons_of_mem _ (Text.mem_of_mem_trim hc))
  | header => exact Or.inl (Text.mem_of_mem_trim hc)

/-! ## units and cards -/

def Member.lines : Member V → List Text
  | .own _ b => b.lines
  | .folded _ _ => []

/-- the lines of the blocks of a unit -/
def RenderUnit.lines (u : RenderUnit V) : List Text := u.members.flatMap Member.lines

def BodyItem.choice? : BodyItem V → Option Text
  | .choice text _ => some text
  | _ => none

/-- the texts that a card is labelled with -/
def Card.labels : Card V → List Text
  | .quest header => [header.title]
  | .roleplay card => card.title.toList ++ card.body.filterMap BodyItem.choice?
  | .combat card => card.enemies ++ card.events.map CombatEvent.on
  | .trigger text => [text]
  | .placeholder message => [message]

namespace Roleplay

theorem filterMap_choice?_itemsOfLines (lines : List Text) :
    (itemsOfLines lines : List (BodyItem V)).filterMap BodyItem.choice? =
      lines.filterMap Line.choice? := by
  induction lines with
  | nil => rfl
  | cons line rest ih =>
    unfold itemsOfLines
    cases hline : Line.choice? line with
    | some text => rw [List.filterMap_cons_some hline, ← ih]; rfl
    | none =>
      rw [List.filterMap_cons_none hline, ← ih]
      cases h : (itemsOfLines rest : List (BodyItem V)) with
      | nil => rfl
      | cons item items => cases item <;> rfl

theorem filterMap_choice?_addMember (x : List (BodyItem V) × List Diagnostic) (m : Member V) :
    (addMember x m).1.filterMap BodyItem.choice? =
      x.1.filterMap BodyItem.choice? ++ m.lines.filterMap Line.choice? := by
  obtain ⟨body, log⟩ := x
  cases m with
  | own id b =>
    show (body ++ itemsOfLines b.lines).filterMap BodyItem.choice? = _
    rw [List.filterMap_append, filterMap_choice?_itemsOfLines]
    rfl
  | folded id v =>
    cases h : attach? body v with
    | some body' =>
      obtain ⟨init, text, children, rfl, rfl⟩ := exists_of_attach? h
      rw [addMember_of_attach log id h]
      simp [BodyItem.choice?, Member.lines]
    | none =>
      rw [addMember_of_stray log id h]
      simp [BodyItem.choice?, Member.lines]

/-- **the choices of a body** are those of the lines -/
theorem filterMap_choice?_foldl (ms : List (Member V)) :
    ∀ x : List (BodyItem V) × List Diagnostic,
      (ms.foldl addMember x).1.filterMap BodyItem.choice? =
        x.1.filterMap BodyItem.choice? ++ (ms.flatMap Member.lines).filterMap Line.choice? := by
  induction ms with
  | nil => simp
  | cons m ms ih =>
    intro x
    rw [List.foldl_cons, ih, filterMap_choice?_addMember, List.flatMap_cons, List.filterMap_append,
      List.append_assoc]

end Roleplay

/-! ## fights -/

/-- what an entry says is said by a line of the unit -/
theorem RenderUnit.exists_says {u : RenderUnit V} {id : Nat} {said : CombatLine}
    (h : .line id said ∈ u.entries) : ∃ line ∈ u.lines, CombatLine.Says line said := by
  have hsaid : ∀ {id' : Nat} {lines : List Text},
      .line (V := V) id said ∈ (lines.map CombatLine.ofText).map (CombatEntry.line id') →
      ∃ line ∈ lines, CombatLine.Says line said := by
    intro id' lines h
    obtain ⟨said', hmem, heq⟩ := List.mem_map.mp h
    obtain ⟨_, rfl⟩ := CombatEntry.line.inj heq
    obtain ⟨line, hline, rfl⟩ := List.mem_map.mp hmem
    exact ⟨line, hline, CombatLine.says_ofText line⟩
  rcases List.mem_append.mp h with h | h
  · obtain ⟨line, hline, hsays⟩ := hsaid h
    exact ⟨line, List.mem_append_left _ (List.mem_of_mem_tail hline), hsays⟩
  · obtain ⟨_, hes, h⟩ := List.mem_flatten.mp h
    obtain ⟨m, hm, rfl⟩ := List.mem_map.mp hes
    cases m with
    | folded id v => cases List.mem_singleton.mp h
    | own id b =>
      obtain ⟨line, hline, hsays⟩ := hsaid h
      exact ⟨line, List.mem_append_right _ (List.mem_flatMap.mpr ⟨_, hm, hline⟩), hsays⟩

/-! ## no label has a line feed -/

theorem mem_getD_nil {t : Option Text} {c : Char} (h : c ∈ t.getD []) :
    ∃ text, t = some text ∧ c ∈ text := by
  cases t with
  | none => cases h
  | some text => exact ⟨text, rfl, h⟩

namespace Card

section
variable {u : RenderUnit V} (h : ∀ line ∈ u.lines, '\n' ∉ line)
include h

theorem newline_not_mem_anchor : ∀ line ∈ u.anchor.lines, '\n' ∉ line :=
  fun line hline => h line (List.mem_append_left _ hline)

theorem newline_not_mem_firstLine : '\n' ∉ u.anchor.firstLine?.getD [] := by
  cases hfirst : u.anchor.firstLine? with
  | none => exact List.not_mem_nil
  | some line => exact newline_not_mem_anchor h line (List.mem_of_head? hfirst)

theorem newline_not_mem_quest : ∀ label ∈ (ofQuest u).1.labels, '\n' ∉ label := by
  unfold ofQuest
  split
  · exact fun label hlabel => List.mem_singleton.mp hlabel ▸ by decide
  · intro label hlabel hnewline
    rw [List.mem_singleton.mp hlabel] at hnewline
    unfold QuestHeader.ofBlock at hnewline
    rw [QuestHeader.ofLines_eq] at hnewline
    obtain ⟨value, hvalue, hnewline⟩ : ∃ value, QuestHeader.inForce
        ((u.anchor.firstLine?.getD []).dropWhile (· == '#')) u.anchor.lines.tail "title" =
          some value ∧ '\n' ∈ value := mem_getD_nil hnewline
    rcases QuestHeader.mem_of_inForce hvalue hnewline with htitle | ⟨line, hline, hnewline⟩
    · exact newline_not_mem_firstLine h ((List.dropWhile_sublist _).subset htitle)
    · exact newline_not_mem_anchor h line (List.mem_of_mem_tail hline) hnewline

theorem newline_not_mem_trigger : ∀ label ∈ (ofTrigger u).1.labels, '\n' ∉ label := by
  intro label hlabel hnewline
  rw [List.mem_singleton.mp hlabel] at hnewline
  obtain ⟨text, htext, hnewline⟩ := mem_getD_nil hnewline
  obtain ⟨line, hline, htext⟩ := Option.bind_eq_some_iff.mp htext
  exact newline_not_mem_anchor h line (List.mem_of_head? hline)
    (Line.mem_of_triggerText? htext hnewline)

theorem newline_not_mem_roleplay : ∀ label ∈ (Card.roleplay (Roleplay.ofUnit u).1).labels,
    '\n' ∉ label := by
  have hsplit : (∀ title ∈ (Roleplay.splitTitle u.anchor.lines).1, ∃ line ∈ u.anchor.lines,
      Line.title? line = some title) ∧ (Roleplay.splitTitle u.anchor.lines).2 ⊆ u.anchor.lines := by
    unfold Roleplay.splitTitle
    split
    · next title htitle =>
      obtain ⟨line, hline, htitle⟩ := Option.bind_eq_some_iff.mp htitle
      refine ⟨fun t ht => ⟨line, List.mem_of_head? hline, ?_⟩, fun _ => List.mem_of_mem_tail⟩
      rw [htitle, Option.mem_some.mp ht]
    · exact ⟨fun t ht => (nomatch ht), List.Subset.refl _⟩
  intro label hlabel hnewline
  rcases List.mem_append.mp hlabel with htitle | hchoice
  · obtain ⟨line, hline, htitle⟩ := hsplit.1 label (Option.mem_toList.mp htitle)
    exact newline_not_mem_anchor h line hline (Line.mem_of_title? htitle hnewline)
  · rw [Roleplay.ofUnit_eq] at hchoice
    dsimp only at hchoice
    rw [Roleplay.filterMap_choice?_foldl, Roleplay.filterMap_choice?_itemsOfLines,
      ← List.filterMap_append] at hchoice
    obtain ⟨line, hline, hchoice⟩ := List.mem_filterMap.mp hchoice
    refine h line ?_ (Line.mem_of_choice? hchoice hnewline)
    exact (List.mem_append.mp hline).elim (fun hline => List.mem_append_left _ (hsplit.2 hline))
      fun hline => List.mem_append_right _ hline

theorem newline_not_mem_name {e : CombatEntry V} (he : e ∈ u.entries) {name : Text}
    (hname : e.name? = some name) : '\n' ∉ name := by
  intro hnewline
  cases e with
  | folded id v => cases hname
  | line id said =>
    obtain ⟨line, hline, hsays⟩ := RenderUnit.exists_says he
    cases hsays with
    | enemy =>
      have hname := (Option.ite_none_left_eq_some.mp hname).2
      rw [← Option.some.inj hname] at hnewline
      refine h _ hline (List.mem_cons_of_mem _ (List.mem_cons_of_mem _ ?_))
      exact Text.mem_of_mem_trim hnewline
    | _ => cases hname

omit h in
theorem newline_not_mem_on {e : CombatEntry V} (he : e ∈ u.entries) {on : Text}
    (hon : e.on? = some on) : '\n' ∉ on := by
  cases e with
  | folded id v => cases hon
  | line id said =>
    obtain ⟨line, _, hsays⟩ := RenderUnit.exists_says he
    cases hsays with
    | event _ hevent =>
      obtain rfl := Option.some.inj hon
      obtain ⟨_, _, _, rfl | rfl⟩ := hevent <;> decide
    | _ => cases hon

theorem newline_not_mem_combat : ∀ label ∈ (Card.combat (Combat.ofUnit u).1).labels,
    '\n' ∉ label := by
  obtain ⟨names, hnames⟩ := Line.exists_afterMark (u.anchor.lines.head?.getD [])
  show ∀ label ∈ (Card.combat (CombatReading.ofUnit u).card).labels, _
  rw [(CombatReading.ofUnit_sections u hnames).1]
  intro label hlabel hnewline
  rcases List.mem_append.mp hlabel with henemy | hon
  · rcases List.mem_append.mp henemy with hheader | hentry
    · have hnewline := Line.mem_of_mem_names hheader hnewline
      exact newline_not_mem_firstLine h (Line.mem_of_afterMark hnames hnewline)
    · obtain ⟨e, he, hname⟩ := List.mem_filterMap.mp hentry
      exact newline_not_mem_name h he hname hnewline
  · obtain ⟨event, hevent, rfl⟩ := List.mem_map.mp hon
    obtain ⟨s, hs, hevent⟩ := List.mem_filterMap.mp hevent
    obtain ⟨on, hopens, rfl⟩ := Option.map_eq_some_iff.mp hevent
    obtain ⟨e, he, hopens⟩ := Option.bind_eq_some_iff.mp hopens
    have hmem := mem_of_mem_splitBy hs (List.mem_of_mem_head? he)
    exact newline_not_mem_on hmem hopens hnewline

/-- **no label has a line feed** -/
theorem newline_not_mem_labels (kind : LineKind) : ∀ label ∈ (ofUnit kind u).1.labels,
    '\n' ∉ label := by
  cases kind with
  | root => exact newline_not_mem_quest h
  | combat => exact newline_not_mem_combat h
  | trigger => exact newline_not_mem_trigger h
  | narrative => exact newline_not_mem_roleplay h

end

end Card

end QuestScript
