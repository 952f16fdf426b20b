import QuestScript.Markup.Inline
import Mathlib.Data.List.Basic

/-!
# Markup is well formed

Whatever a text says, what is written for it is text with references in place of special characters
and elements that are nested and closed.  It is enough that the scopes that are found in the text are
nested: each event is written on its own, and only the start and the stop of a scope give tags.

* `Markup.WellFormed`          well-formed markup;
* `Markup.Nested`              events whose scopes are nested;
* `Markup.wellFormed_write`    such events are written as well-formed markup;
* `Markup.nested_events`       what is found in a text is nested;
* `Markup.IsSafe`              what this says about single characters;
* `Markup.isSafe_inline`       the markup of every text is safe.
-/

namespace QuestScript.Markup

/-! ## well-formed markup -/

/-- the references that stand for characters -/
def references : List Text := ["&amp;", "&lt;", "&gt;"]

/-- the names of the elements -/
def elementNames : List Text := ["b", "i", "del"]

/-- their tags -/
def tags : List Text := ["<b>", "</b>", "<i>", "</i>", "<del>", "</del>"]

/-- text in which every special character is part of a reference or of a tag, and each element is
closed in the element in which it starts -/
inductive WellFormed : Text → Prop
  | nil : WellFormed []
  | char {c : Char} {t : Text} (hc : c ≠ '<' ∧ c ≠ '>' ∧ c ≠ '&') (h : WellFormed t) :
      WellFormed (c :: t)
  | reference {r t : Text} (hr : r ∈ references) (h : WellFormed t) : WellFormed (r ++ t)
  | element {name inner t : Text} (hname : name ∈ elementNames)
      (hinner : WellFormed inner) (h : WellFormed t) :
      WellFormed ('<' :: name ++ ['>'] ++ (inner ++ ('<' :: '/' :: name ++ ['>'] ++ t)))

theorem WellFormed.append {t t' : Text} (h : WellFormed t) (h' : WellFormed t') :
    WellFormed (t ++ t') := by
  induction h with
  | nil => exact h'
  | char hc _ ih => exact .char hc ih
  | reference hr _ ih =>
    rw [List.append_assoc]
    exact .reference hr ih
  | element hname hinner _ _ ih =>
    have := WellFormed.element hname hinner ih
    simpa only [List.append_assoc] using this

theorem wellFormed_escapeChar (c : Char) : WellFormed (Xml.escapeChar c) := by
  unfold Xml.escapeChar
  split
  · exact .reference (r := "&amp;") (by decide) .nil
  · exact .reference (r := "&lt;") (by decide) .nil
  · exact .reference (r := "&gt;") (by decide) .nil
  · next hamp hlt hgt => exact .char ⟨hlt, hgt, hamp⟩ .nil

/-- **escaped text** is well formed -/
theorem wellFormed_escape (t : Text) : WellFormed (Xml.escape t) := by
  induction t with
  | nil => exact .nil
  | cons c t ih => exact (wellFormed_escapeChar c).append ih

/-! ## events -/

/-- each scope stops in the scope in which it starts -/
inductive Nested : List Event → Prop
  | nil : Nested []
  | leaf {e : Event} {es : List Event} (hstart : ∀ s, e ≠ .start s) (hstop : ∀ s, e ≠ .stop s)
      (h : Nested es) : Nested (e :: es)
  | scope {s : Scope} {inner es : List Event} (hinner : Nested inner) (h : Nested es) :
      Nested (.start s :: (inner ++ .stop s :: es))

theorem Nested.append {es es' : List Event} (h : Nested es) (h' : Nested es') :
    Nested (es ++ es') := by
  induction h with
  | nil => exact h'
  | leaf hstart hstop _ ih => exact .leaf hstart hstop ih
  | @scope s inner es hinner _ _ ih =>
    have := Nested.scope (s := s) hinner ih
    simpa only [List.cons_append, List.append_assoc] using this

theorem write_append (es es' : List Event) : write (es ++ es') = write es ++ write es' :=
  List.flatMap_append

theorem write_cons (e : Event) (es : List Event) : write (e :: es) = e.markup ++ write es :=
  List.flatMap_cons

theorem wellFormed_leaf : ∀ {e : Event}, (∀ s, e ≠ .start s) → (∀ s, e ≠ .stop s) →
    WellFormed e.markup
  | .start s, hstart, _ => absurd rfl (hstart s)
  | .stop s, _, hstop => absurd rfl (hstop s)
  | .text s, _, _ | .code s, _, _ | .html s, _, _ | .inlineHtml s, _, _ => wellFormed_escape s
  | .softBreak, _, _ | .hardBreak, _, _ => .char (by decide) .nil
  | .other, _, _ => .nil

theorem wellFormed_scope (s : Scope) {inner t : Text} (hinner : WellFormed inner)
    (h : WellFormed t) :
    WellFormed ((Event.start s).markup ++ (inner ++ ((Event.stop s).markup ++ t))) := by
  cases s with
  | other name => exact hinner.append h
  | strong => exact .element (by decide : "b".toList ∈ elementNames) hinner h
  | emphasis => exact .element (by decide : "i".toList ∈ elementNames) hinner h
  | struck => exact .element (by decide : "del".toList ∈ elementNames) hinner h

/-- **events whose scopes are nested** are written as well-formed markup -/
theorem wellFormed_write {es : List Event} (h : Nested es) : WellFormed (write es) := by
  induction h with
  | nil => exact .nil
  | leaf hstart hstop _ ih => exact (wellFormed_leaf hstart hstop).append ih
  | @scope s inner es _ _ ihinner ih =>
    rw [write_cons, write_append, write_cons]
    exact wellFormed_scope s ihinner ih

/-! ## what is found in a text -/

mutual

theorem nested_phrase : ∀ p : Phrase, Nested p.events
  | .text _ => .leaf nofun nofun .nil
  | .strong ps => .scope (nested_phrases ps) .nil
  | .emphasis ps => .scope (nested_phrases ps) .nil
  | .struck ps => .scope (nested_phrases ps) .nil

theorem nested_phrases : ∀ ps : List Phrase, Nested (Phrase.eventsAll ps)
  | [] => .nil
  | p :: ps => (nested_phrase p).append (nested_phrases ps)

end

theorem nested_events (t : Text) : Nested (events t) := nested_phrases _

/-! ## single characters -/

/-- a character, a reference or a tag -/
def IsPiece (p : Text) : Prop :=
  (∃ c : Char, p = [c] ∧ c ≠ '<' ∧ c ≠ '>' ∧ c ≠ '&') ∨ p ∈ references ∨ p ∈ tags

theorem WellFormed.exists_pieces {t : Text} (h : WellFormed t) :
    ∃ pieces : List Text, t = pieces.flatten ∧ ∀ p ∈ pieces, IsPiece p := by
  induction h with
  | nil => exact ⟨[], rfl, List.forall_mem_nil _⟩
  | @char c t hc _ ih =>
    obtain ⟨pieces, rfl, h⟩ := ih
    exact ⟨[c] :: pieces, rfl, List.forall_mem_cons.mpr ⟨Or.inl ⟨c, rfl, hc⟩, h⟩⟩
  | @reference r t hr _ ih =>
    obtain ⟨pieces, rfl, h⟩ := ih
    exact ⟨r :: pieces, rfl, List.forall_mem_cons.mpr ⟨Or.inr (Or.inl hr), h⟩⟩
  | @element name inner t hname _ _ ihinner ih =>
    obtain ⟨ps, rfl, hps⟩ := ihinner
    obtain ⟨qs, rfl, hqs⟩ := ih
    have htags : ∀ name ∈ elementNames,
        '<' :: name ++ ['>'] ∈ tags ∧ '<' :: '/' :: name ++ ['>'] ∈ tags := by decide
    obtain ⟨hstart, hstop⟩ := htags name hname
    refine ⟨('<' :: name ++ ['>']) :: (ps ++ ('<' :: '/' :: name ++ ['>']) :: qs), ?_, ?_⟩
    · rw [List.flatten_cons, List.flatten_append, List.flatten_cons]
    · rw [List.forall_mem_cons, List.forall_mem_append, List.forall_mem_cons]
      exact ⟨Or.inr (Or.inr hstart), hps, Or.inr (Or.inr hstop), hqs⟩

/-- the piece that a character is part of -/
theorem exists_piece {pieces : List Text} {c : Char} : ∀ {pre post : Text},
    pieces.flatten = pre ++ c :: post → ∃ a b, a ++ c :: b ∈ pieces ∧ a <:+ pre ∧ b <+: post := by
  induction pieces with
  | nil => simp
  | cons p ps ih =>
    intro pre post h
    rw [List.flatten_cons] at h
    -- the character is after the first piece, or in it
    rcases List.append_eq_append_iff.mp h with ⟨a, rfl, hrest⟩ | ⟨b, rfl, hrest⟩
    · obtain ⟨a', b', hmem, ha, hb⟩ := ih hrest
      exact ⟨a', b', List.mem_cons_of_mem _ hmem, ha.trans (List.suffix_append _ _), hb⟩
    · cases b with
      | nil =>
        have hrest : ps.flatten = [] ++ c :: post := hrest.symm
        obtain ⟨a', b', hmem, ha, hb⟩ := ih hrest
        refine ⟨a', b', List.mem_cons_of_mem _ hmem, ?_, hb⟩
        rw [List.suffix_nil.mp ha]
        exact List.nil_suffix
      | cons d b =>
        obtain ⟨rfl, rfl⟩ := List.cons.inj hrest
        exact ⟨pre, b, List.mem_cons_self, List.suffix_rfl, List.prefix_append _ _⟩

section
variable {pieces special : List Text} {c : Char}
  (hspecial : ∀ p ∈ pieces, c ∈ p → p ∈ special) {pre post : Text}
  (h : pieces.flatten = pre ++ c :: post)
include hspecial h

/-- a character that stands at the start of a special piece only -/
theorem exists_prefix (hstart : ∀ p ∈ special, c ∉ p.tail) : ∃ p ∈ special, p <+: c :: post := by
  obtain ⟨a, b, hmem, _, hb⟩ := exists_piece h
  have hp := hspecial _ hmem (by simp)
  cases a with
  | nil => exact ⟨_, hp, (List.prefix_cons_inj c).mpr hb⟩
  | cons d a => exact absurd (by simp) (hstart _ hp)

/-- a character that stands at the end of a special piece only -/
theorem exists_suffix (hstop : ∀ p ∈ special, c ∉ p.dropLast) :
    ∃ p ∈ special, p <:+ pre ++ [c] := by
  obtain ⟨a, b, hmem, ha, _⟩ := exists_piece h
  have hp := hspecial _ hmem (by simp)
  rcases List.eq_nil_or_concat b with rfl | ⟨b, d, rfl⟩
  · obtain ⟨front, rfl⟩ := ha
    exact ⟨_, hp, front, by simp⟩
  · refine absurd ?_ (hstop _ hp)
    rw [List.concat_eq_append, ← List.cons_append, ← List.append_assoc, List.dropLast_concat]
    simp

end

/-- `<` and `>` are parts of the six tags, `&` starts one of the three references, and tags are
nested and closed -/
structure IsSafe (t : Text) : Prop where
  lt : ∀ pre post, t = pre ++ '<' :: post → ∃ tag ∈ tags, tag <+: '<' :: post
  gt : ∀ pre post, t = pre ++ '>' :: post → ∃ tag ∈ tags, tag <:+ pre ++ ['>']
  amp : ∀ pre post, t = pre ++ '&' :: post → ∃ r ∈ references, r <+: '&' :: post
  wellFormed : WellFormed t

theorem WellFormed.isSafe {t : Text} (h : WellFormed t) : IsSafe t := by
  obtain ⟨pieces, rfl, hpieces⟩ := h.exists_pieces
  have htag (c : Char) (hc : c = '<' ∨ c = '>') : ∀ p ∈ pieces, c ∈ p → p ∈ tags := by
    intro p hp hmem
    rcases hpieces p hp with ⟨d, rfl, hlt, hgt, _⟩ | hreference | htag
    · obtain rfl := List.mem_singleton.mp hmem
      exact (hc.elim hlt hgt).elim
    · have := (by decide : ∀ r ∈ references, '<' ∉ r ∧ '>' ∉ r) p hreference
      rcases hc with rfl | rfl
      · exact absurd hmem this.1
      · exact absurd hmem this.2
    · exact htag
  have hreference : ∀ p ∈ pieces, '&' ∈ p → p ∈ references := by
    intro p hp hmem
    rcases hpieces p hp with ⟨d, rfl, _, _, hamp⟩ | hreference | htag
    · exact absurd (List.mem_singleton.mp hmem).symm hamp
    · exact hreference
    · exact absurd hmem ((by decide : ∀ tag ∈ tags, '&' ∉ tag) p htag)
  refine ⟨fun pre post heq => ?_, fun pre post heq => ?_, fun pre post heq => ?_, h⟩
  · exact exists_prefix (htag '<' (Or.inl rfl)) heq (by decide)
  · exact exists_suffix (htag '>' (Or.inr rfl)) heq (by decide)
  · exact exists_prefix hreference heq (by decide)

/-- **The markup of a text is safe.**  So is what is written for any events whose scopes are nested,
whatever was found in a text. -/
theorem isSafe_inline : (∀ es, Nested es → IsSafe (write es)) ∧ ∀ t, IsSafe (inline t) :=
  ⟨fun _ h => (wellFormed_write h).isSafe, fun t => (wellFormed_write (nested_events t)).isSafe⟩

example : write [.start (.other "p"), .start .strong, .text "a & b", .html "</b>", .softBreak,
    .start .emphasis, .code "<i>", .stop .emphasis, .stop .strong, .stop (.other "p")] =
      "<b>a &amp; b&lt;/b&gt; <i>&lt;i&gt;</i></b>" := by decide

end QuestScript.Markup
