import QuestScript.Markup.Event
import QuestScript.Proofs.Xml.Reader

/-!
# Tags and texts are read back

What is written for a tag, for the value of an attribute and for a text is read as it was.  Escaped
text holds no character that could end a tag or a value, and the end tag of a paragraph does not
occur in markup.

* `decode_escape`, `decode_escapeAttribute`  references stand for what was escaped;
* `skips_write`            a search for the end tag of a paragraph passes over markup;
* `attributes?_flatMap`    the attributes of a tag;
* `piece?_empty`, `piece?_opening`, `piece?_verbatim`, `piece?_endTag`  the pieces of a document;
* `Reading.goOn_piece`     going on with a piece after blanks.
-/

namespace QuestScript

namespace Xml

/-! ## references -/

theorem decode_escapeChar (c : Char) (t : Text) :
    decode (escapeChar c ++ t) = (decode t).map (c :: ·) := by
  unfold escapeChar
  split
  · rfl
  · rfl
  · rfl
  · next hamp _ _ =>
    -- no reference starts here
    rw [List.singleton_append, decode]
    · exact if_neg hamp
    all_goals exact fun _ h => absurd h hamp

theorem decode_escapeAttributeChar (c : Char) (t : Text) :
    decode (escapeAttributeChar c ++ t) = (decode t).map (c :: ·) := by
  unfold escapeAttributeChar
  split
  · next hquote =>
    obtain rfl := eq_of_beq hquote
    rfl
  · exact decode_escapeChar c t

theorem decode_escape (t : Text) : decode (escape t) = some t := by
  induction t with
  | nil => rfl
  | cons c t ih =>
    show decode (escapeChar c ++ escape t) = _
    rw [decode_escapeChar, ih, Option.map_some]

theorem decode_escapeAttribute (t : Text) : decode (escapeAttribute t) = some t := by
  induction t with
  | nil => rfl
  | cons c t ih =>
    show decode (escapeAttributeChar c ++ escapeAttribute t) = _
    rw [decode_escapeAttributeChar, ih, Option.map_some]

/-- where a character is written as a reference, it does not occur itself -/
theorem mem_escapeChar {c d : Char} (h : c ∈ escapeChar d) :
    c ∈ "&amp;lt;gt;".toList ∨ c = d ∧ d ≠ '<' ∧ d ≠ '>' := by
  unfold escapeChar at h
  split at h
  · exact Or.inl ((by decide : "&amp;".toList.Sublist "&amp;lt;gt;".toList).subset h)
  · exact Or.inl ((by decide : "&lt;".toList.Sublist "&amp;lt;gt;".toList).subset h)
  · exact Or.inl ((by decide : "&gt;".toList.Sublist "&amp;lt;gt;".toList).subset h)
  · next hlt hgt => exact Or.inr ⟨List.mem_singleton.mp h, hlt, hgt⟩

theorem lt_not_mem_escape (t : Text) : '<' ∉ escape t := by
  intro h
  obtain ⟨d, _, hd⟩ := List.mem_flatMap.mp h
  rcases mem_escapeChar hd with hd | ⟨rfl, hlt, _⟩
  · exact absurd hd (by decide)
  · exact hlt rfl

theorem not_mem_escapeAttribute {c : Char} (hc : c = '>' ∨ c = '"') (t : Text) :
    c ∉ escapeAttribute t := by
  intro h
  obtain ⟨d, _, hd⟩ := List.mem_flatMap.mp h
  unfold escapeAttributeChar at hd
  split at hd
  · rcases hc with rfl | rfl <;> exact absurd hd (by decide)
  · next hquote =>
    rcases mem_escapeChar hd with hd | ⟨rfl, _, hgt⟩
    · rcases hc with rfl | rfl <;> exact absurd hd (by decide)
    · rcases hc with rfl | rfl
      · exact hgt rfl
      · exact hquote rfl

/-! ## looking for an end tag -/

open Markup (Event Scope)

/-- no tag of a scope is the end tag of a paragraph, nor does that start in one -/
theorem skips_scope (c : Scope) :
    Text.Skips (endTag "p") (Event.start c).markup ∧
      Text.Skips (endTag "p") (Event.stop c).markup := by
  cases c with
  | other name => exact ⟨Text.Skips.nil _, Text.Skips.nil _⟩
  | strong | emphasis | struck =>
    constructor
    · exact Text.Skips.cons (fun _ => rfl) (Text.Skips.of_not_mem (by decide))
    · exact Text.Skips.cons (fun _ => rfl) (Text.Skips.of_not_mem (by decide))

theorem skips_event : ∀ e : Event, Text.Skips (endTag "p") e.markup
  | .start c => (skips_scope c).1
  | .stop c => (skips_scope c).2
  | .text s | .code s | .html s | .inlineHtml s => Text.Skips.of_not_mem (lt_not_mem_escape s)
  | .softBreak | .hardBreak => Text.Skips.of_not_mem (by decide)
  | .other => Text.Skips.nil _

theorem skips_write (es : List Event) : Text.Skips (endTag "p") (Markup.write es) := by
  induction es with
  | nil => exact Text.Skips.nil _
  | cons e es ih => exact (skips_event e).append ih

/-! ## tags -/

/-- a name that is made of letters -/
structure Plain (name : Text) : Prop where
  ne_nil : name ≠ []
  letters : name.all Char.isAlpha = true

instance (name : Text) : Decidable (Plain name) :=
  decidable_of_iff (name ≠ [] ∧ name.all Char.isAlpha = true)
    ⟨fun h => ⟨h.1, h.2⟩, fun h => ⟨h.ne_nil, h.letters⟩⟩

theorem Plain.not_mem {name : Text} (h : Plain name) {c : Char} (hc : c.isAlpha = false) :
    c ∉ name :=
  fun hmem => absurd (List.all_eq_true.mp h.letters c hmem) (hc ▸ Bool.false_ne_true)

theorem Plain.inName {name : Text} (h : Plain name) : ∀ c ∈ name, inName c = true := by
  intro c hc
  have hblank : c ≠ ' ' := fun heq => h.not_mem rfl (heq ▸ hc)
  have hslash : c ≠ '/' := fun heq => h.not_mem rfl (heq ▸ hc)
  exact Bool.and_eq_true_iff.mpr ⟨bne_iff_ne.mpr hblank, bne_iff_ne.mpr hslash⟩

theorem attribute?_startTagPart {a : Text × Text} (h : Plain a.1) (t : Text) :
    attribute? (startTagPart a ++ t) = some (a, t) := by
  obtain ⟨key, value⟩ := a
  have hshape : startTagPart (key, value) ++ t =
      ' ' :: (key ++ '=' :: '"' :: (escapeAttribute value ++ '"' :: t)) := by
    simp only [startTagPart, List.cons_append, List.append_assoc, List.nil_append]
  have hquote (s : Text) : Text.dropPrefix? ['"'] ('"' :: s) = some s := rfl
  rw [hshape, attribute?, Text.splitOnce_append (h.not_mem rfl), Option.bind_some]
  dsimp only
  rw [hquote, Option.bind_some, Text.splitOnce_append (not_mem_escapeAttribute (Or.inr rfl) value),
    Option.bind_some, decode_escapeAttribute, Option.map_some]

theorem attributes?_startTagPart {a : Text × Text} (h : Plain a.1) (t : Text) :
    attributes? (startTagPart a ++ t) =
      (attributes? t).map fun (as, slash) => (a :: as, slash) := by
  have hattribute := attribute?_startTagPart h t
  -- the tag does not end here, as a blank comes first
  rw [attributes?]
  · split
    · next hnone =>
      rw [hattribute] at hnone
      cases hnone
    · next hsome =>
      rw [hattribute] at hsome
      obtain ⟨rfl, rfl⟩ := Prod.mk.inj (Option.some.inj hsome)
      rfl
  · exact List.cons_ne_nil _ _
  · exact fun h => absurd (List.head_eq_of_cons_eq h) (by decide)

theorem attributes?_flatMap {attrs : List (Text × Text)} (h : ∀ a ∈ attrs, Plain a.1)
    {stop : Text} {slash : Bool} (hstop : attributes? stop = some ([], slash)) :
    attributes? (attrs.flatMap startTagPart ++ stop) = some (attrs, slash) := by
  induction attrs with
  | nil => exact hstop
  | cons a attrs ih =>
    obtain ⟨ha, hattrs⟩ := List.forall_mem_cons.mp h
    rw [List.flatMap_cons, List.append_assoc, attributes?_startTagPart ha, ih hattrs,
      Option.map_some]

/-- a tag between `<` and `>` -/
theorem piece?_tag {tag : Text} (h : '>' ∉ tag) (t : Text) :
    piece? ('<' :: tag ++ '>' :: t) = ofTag? tag t := by
  have hstart (s : Text) : Text.dropPrefix? ['<'] ('<' :: s) = some s := rfl
  unfold piece?
  rw [List.cons_append, hstart, Option.bind_some, Text.splitOnce_append h, Option.bind_some]

theorem piece?_endTag {name : Text} (h : Plain name) (t : Text) :
    piece? (endTag name ++ t) = some (.closing name, t) := by
  have htag : '>' ∉ '/' :: name := by
    rw [List.mem_cons, not_or]
    exact ⟨by decide, h.not_mem rfl⟩
  have hshape : endTag name ++ t = '<' :: ('/' :: name) ++ '>' :: t := by
    simp only [endTag, List.cons_append, List.append_assoc, List.nil_append]
  rw [hshape, piece?_tag htag]
  rfl

section
variable {name : Text} (hname : Plain name) {attrs : List (Text × Text)}
  (hattrs : ∀ a ∈ attrs, Plain a.1)
include hname hattrs

theorem gt_not_mem_startTag : '>' ∉ name ++ attrs.flatMap startTagPart := by
  rw [List.mem_append, not_or]
  refine ⟨hname.not_mem rfl, fun h => ?_⟩
  obtain ⟨⟨key, value⟩, ha, h⟩ := List.mem_flatMap.mp h
  have hkey : '>' ∉ key := (hattrs _ ha).not_mem rfl
  have hvalue := not_mem_escapeAttribute (Or.inl rfl) value
  simp [startTagPart, hkey, hvalue] at h

/-- an element by its tag, with a slash at the end of the tag or without -/
theorem ofTag?_startTag {stop : Text} {slash : Bool}
    (hstop : stop = [] ∧ slash = false ∨ stop = ['/'] ∧ slash = true) (t : Text) :
    ofTag? (name ++ (attrs.flatMap startTagPart ++ stop)) t =
      if slash then some (.node (.element name attrs []), t)
      else if verbatimNames.contains name then
        (Text.splitAtPart (endTag name) t).bind fun (content, t) =>
          (verbatim? name attrs content).map fun n => (.node n, t)
      else some (.opening name attrs, t) := by
  -- the name ends where its attributes or its slash start
  have hrest : (attrs.flatMap startTagPart ++ stop).takeWhile inName = [] ∧
      (attrs.flatMap startTagPart ++ stop).dropWhile inName =
        attrs.flatMap startTagPart ++ stop := by
    cases attrs with
    | nil => rcases hstop with ⟨rfl, _⟩ | ⟨rfl, _⟩ <;> exact ⟨rfl, rfl⟩
    | cons a attrs => exact ⟨rfl, rfl⟩
  have hattributes : attributes? (attrs.flatMap startTagPart ++ stop) = some (attrs, slash) := by
    refine attributes?_flatMap hattrs ?_
    rcases hstop with ⟨rfl, rfl⟩ | ⟨rfl, rfl⟩ <;> rw [attributes?]
  have hnot : Text.dropPrefix? ['/'] (name ++ (attrs.flatMap startTagPart ++ stop)) = none := by
    cases name with
    | nil => exact absurd rfl hname.ne_nil
    | cons c name =>
      refine if_neg fun heq => ?_
      have hmem : '/' ∈ c :: name := eq_of_beq heq ▸ List.mem_cons_self
      exact hname.not_mem rfl hmem
  unfold ofTag?
  rw [hnot]
  dsimp only
  rw [List.takeWhile_append_of_pos hname.inName, List.dropWhile_append_of_pos hname.inName, hrest.1,
    hrest.2, List.append_nil, hattributes, Option.bind_some]

theorem piece?_empty (t : Text) :
    piece? ('<' :: name ++ attrs.flatMap startTagPart ++ '/' :: '>' :: t) =
      some (.node (.element name attrs []), t) := by
  have htag : '>' ∉ name ++ (attrs.flatMap startTagPart ++ ['/']) := by
    rw [← List.append_assoc, List.mem_append, not_or]
    exact ⟨gt_not_mem_startTag hname hattrs, by decide⟩
  have hshape : '<' :: name ++ attrs.flatMap startTagPart ++ '/' :: '>' :: t =
      '<' :: (name ++ (attrs.flatMap startTagPart ++ ['/'])) ++ '>' :: t := by
    simp only [List.cons_append, List.append_assoc, List.nil_append]
  rw [hshape, piece?_tag htag, ofTag?_startTag hname hattrs (Or.inr ⟨rfl, rfl⟩), if_pos rfl]

theorem piece?_startTag (t : Text) :
    piece? ('<' :: name ++ attrs.flatMap startTagPart ++ '>' :: t) =
      if verbatimNames.contains name then
        (Text.splitAtPart (endTag name) t).bind fun (content, t) =>
          (verbatim? name attrs content).map fun n => (.node n, t)
      else some (.opening name attrs, t) := by
  have htag : '>' ∉ name ++ (attrs.flatMap startTagPart ++ []) := by
    rw [List.append_nil]
    exact gt_not_mem_startTag hname hattrs
  have hshape : '<' :: name ++ attrs.flatMap startTagPart ++ '>' :: t =
      '<' :: (name ++ (attrs.flatMap startTagPart ++ [])) ++ '>' :: t := by
    simp only [List.cons_append, List.append_assoc, List.append_nil]
  rw [hshape, piece?_tag htag, ofTag?_startTag hname hattrs (Or.inl ⟨rfl, rfl⟩),
    if_neg Bool.false_ne_true]

theorem piece?_opening (hbranch : name ∉ verbatimNames) (t : Text) :
    piece? ('<' :: name ++ attrs.flatMap startTagPart ++ '>' :: t) =
      some (.opening name attrs, t) := by
  rw [piece?_startTag hname hattrs, if_neg (mt List.contains_iff_mem.mp hbranch)]

/-- an element whose content is taken as it stands -/
theorem piece?_verbatim (hverbatim : name ∈ verbatimNames) {content : Text}
    (hcontent : Text.Skips (endTag name) content) {n : XmlNode}
    (hn : verbatim? name attrs content = some n) (t : Text) :
    piece? ('<' :: name ++ attrs.flatMap startTagPart ++ '>' :: (content ++ (endTag name ++ t))) =
      some (.node n, t) := by
  rw [piece?_startTag hname hattrs, if_pos (List.contains_iff_mem.mpr hverbatim),
    hcontent.splitAtPart (List.cons_ne_nil _ _), Option.bind_some]
  dsimp only
  rw [hn, Option.map_some]

end

/-! ## going on with a text -/

namespace Reading

variable (r : Reading)

theorem goOn_eq (t : Text) : r.goOn t =
    if Text.trimStart t = [] then some r
    else (piece? (Text.trimStart t)).bind fun (p, rest) => (r.add p).bind fun r => r.goOn rest := by
  rw [goOn]
  refine if_congr Iff.rfl rfl ?_
  split
  · next h => rw [h, Option.bind_none]
  · next h =>
    rw [h, Option.bind_some]
    dsimp only
    split
    · next h => rw [h, Option.bind_none]
    · next h => rw [h, Option.bind_some]

theorem goOn_nil : r.goOn [] = some r := by
  rw [goOn_eq]
  rfl

theorem goOn_newline (t : Text) : r.goOn ('\n' :: t) = r.goOn t := by
  have htrim : Text.trimStart ('\n' :: t) = Text.trimStart t := rfl
  rw [goOn_eq, goOn_eq, htrim]

/-- blanks before a piece are passed over -/
theorem goOn_piece {t rest : Text} {p : Piece} (h : piece? t = some (p, rest)) (n : Nat) :
    r.goOn (Text.blanks n ++ t) = (r.add p).bind fun r => r.goOn rest := by
  obtain ⟨tag, htag, _⟩ := Option.bind_eq_some_iff.mp h
  obtain rfl : '<' :: tag = t := List.isPrefixOf?_eq_some_iff_append_eq.mp htag
  have htrim : Text.trimStart (Text.blanks n ++ '<' :: tag) = '<' :: tag := by
    unfold Text.trimStart Text.blanks
    rw [List.dropWhile_append_of_pos fun c hc => by rw [List.eq_of_mem_replicate hc]; decide]
    rfl
  rw [goOn_eq, htrim, if_neg (List.cons_ne_nil _ _), h, Option.bind_some]

end Reading

end Xml

end QuestScript
