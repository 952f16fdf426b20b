import QuestScript.Proofs.Number.Finite
import QuestScript.Proofs.Number.Spelling
import QuestScript.Proofs.Quest.Attributes
import QuestScript.Proofs.Text.Parts
import Mathlib.Data.List.Sort

/-!
# What is wrong with a quest header

A header is read from a map: of the lines that give a value to one key the last counts, and the text
after the `#` stands in for a title.  Nothing but this map tells what the header is and which messages
there are, apart from those about lines without a colon.  So the order of the lines does not matter,
unless two of them have one key.

* `Attributes.Gives`             the key and the value of a line;
* `Attributes.SpellsNumber`      the values that are read as a number;
* `QuestHeader.InForce`          the map, and how it is read (`inForce_eq_some_iff`);
* `QuestHeader.ofValues`         the header that is read from a map;
* `QuestHeader.problemsOf`       what is wrong with the values of the known keys;
* `QuestHeader.ofLines_messages` the messages, one by one.
-/

namespace QuestScript

open Text (trim)

namespace Attributes

/-! ## lines -/

/-- the line gives a value to a key: what stands before its first colon is the key, in lower case, and
what stands behind it is the value, neither with the white space around it -/
def Gives (line key value : Text) : Prop :=
  ∃ before after, line = before ++ ':' :: after ∧ ':' ∉ before ∧
    key = Text.lower (trim before) ∧ value = trim after

theorem ofLine?_eq_some_iff {line key value : Text} :
    ofLine? line = some (key, value) ↔ Gives line key value := by
  unfold ofLine? Gives
  rw [Option.map_eq_some_iff]
  constructor
  · rintro ⟨⟨before, after⟩, hsplit, heq⟩
    obtain ⟨rfl, rfl⟩ := Prod.mk.inj heq
    obtain ⟨hline, hbefore⟩ := Text.splitOnce_eq_some_iff.mp hsplit
    exact ⟨before, after, hline, hbefore, rfl, rfl⟩
  · rintro ⟨before, after, hline, hbefore, rfl, rfl⟩
    exact ⟨(before, after), Text.splitOnce_eq_some_iff.mpr ⟨hline, hbefore⟩, rfl⟩

theorem mem_filterMap_ofLine? {lines : List Text} {key value : Text} :
    (key, value) ∈ lines.filterMap ofLine? ↔ ∃ line ∈ lines, Gives line key value := by
  simp only [List.mem_filterMap, ofLine?_eq_some_iff]

/-- no key comes twice where no two lines give a value to one key -/
theorem nodup_keys {lines : List Text}
    (h : lines.Pairwise fun a b => ∀ key v w, Gives a key v → ¬Gives b key w) :
    ((lines.filterMap ofLine?).map Prod.fst).Nodup := by
  rw [List.Nodup, List.pairwise_map, List.pairwise_filterMap]
  refine h.imp fun hab p hp q hq heq => ?_
  obtain ⟨key, v⟩ := p
  obtain ⟨key', w⟩ := q
  obtain rfl : key = key' := heq
  exact hab key v w (ofLine?_eq_some_iff.mp hp) (ofLine?_eq_some_iff.mp hq)

theorem ofLine?_isNone (line : Text) : (ofLine? line).isNone = decide (':' ∉ line) := by
  unfold ofLine?
  rw [Option.isNone_map, Bool.eq_iff_iff, Option.isNone_iff_eq_none, Text.splitOnce_eq_none_iff,
    decide_eq_true_iff]

theorem malformed_eq (lines : List Text) :
    malformed lines = (lines.filter (':' ∉ ·)).map .malformedAttribute := by
  unfold malformed
  simp only [ofLine?_isNone]

theorem get?_ofLines (lines : List Text) (key : Text) :
    (ofLines lines).get? key = (lines.filterMap ofLine?).reverse.lookup key :=
  (get?_foldl_insert _ key []).trans Option.or_none

theorem pairwise_ofLines (lines : List Text) :
    ((ofLines lines).map Prod.fst).Pairwise (· < ·) :=
  pairwise_foldl_insert _ List.Pairwise.nil

/-- **the order of the lines** does not matter where no key comes twice -/
theorem ofLines_of_perm {lines lines' : List Text} (hperm : lines'.Perm lines)
    (h : ((lines.filterMap ofLine?).map Prod.fst).Nodup) : ofLines lines' = ofLines lines := by
  have hpairs := hperm.filterMap ofLine?
  have hset (lines : List Text) (h : ((lines.filterMap ofLine?).map Prod.fst).Nodup) :
      (ofLines lines).Perm (lines.filterMap ofLine?) := perm_foldl_insert _ h
  have hsame : (ofLines lines').Perm (ofLines lines) :=
    ((hset lines' ((hpairs.map _).nodup_iff.mpr h)).trans hpairs).trans (hset lines h).symm
  -- both are ascending
  have hlt (lines : List Text) : (ofLines lines).Pairwise fun a b => a.1 < b.1 :=
    List.pairwise_map.mp (pairwise_ofLines lines)
  exact hsame.eq_of_pairwise (fun a b _ _ hab hba => absurd hba (lt_asymm hab)) (hlt _) (hlt _)

/-! ## values -/

/-- the text spells a number that is not beyond the largest one -/
def SpellsNumber (value : Text) : Prop := ∃ n, Numeral.Spells (trim value) n ∧ n.IsFinite

instance (value : Text) : Decidable (SpellsNumber value) :=
  decidable_of_iff ((Numeral.ofText? (trim value)).any fun n => decide n.IsFinite) (by
    simp [SpellsNumber, Option.any_eq_true, Numeral.ofText?_eq_some_iff])

theorem wholeNumber?_eq_none_iff {value : Text} :
    wholeNumber? value = none ↔ ¬SpellsNumber value := by
  unfold wholeNumber? SpellsNumber
  simp only [← Numeral.ofText?_eq_some_iff]
  cases Numeral.ofText? (trim value) with
  | none => simp
  | some n => simp [Numeral.whole?_eq_none_iff]

/-- the whole number that is read from a value, 0 if it spells none -/
def readNumber (value : Text) : Int :=
  if SpellsNumber value then ((Numeral.ofText? (trim value)).bind Numeral.whole?).getD 0 else 0

theorem number_eq (attrs : Attributes) (key : Text) :
    attrs.number key false = ((attrs.get? key).map readNumber,
      ((attrs.get? key).bind fun value =>
        if SpellsNumber value then none else some (.notANumber key value)).toList) := by
  unfold number readNumber
  cases attrs.get? key with
  | none => rfl
  | some value =>
    by_cases h : SpellsNumber value
    · obtain ⟨i, hi⟩ :=
        Option.ne_none_iff_exists'.mp (mt wholeNumber?_eq_none_iff.mp (not_not.mpr h))
      have hread : (Numeral.ofText? (trim value)).bind Numeral.whole? = some i := hi
      simp [h, hi, hread, missing]
    · simp [h, wholeNumber?_eq_none_iff.mpr h, missing]

theorem missing_required (attrs : Attributes) (key : Text) :
    attrs.missing key true =
      if (attrs.get? key).getD [] = [] then [.missingAttribute key] else [] := by
  unfold missing
  cases attrs.get? key <;> simp

end Attributes

namespace QuestHeader

open Attributes (Gives SpellsNumber readNumber ofLine?)

/-! ## the map that a header is read from -/

/-- the value in force for a key: that of the last line that gives it one; the text after the `#`
stands in for a title that no line gives -/
inductive InForce (headerTitle : Text) (lines : List Text) : Text → Text → Prop
  | line {before after : List Text} {line key value : Text}
      (hlines : lines = before ++ line :: after) (h : Gives line key value)
      (hlast : ∀ later ∈ after, ∀ value', ¬Gives later key value') :
      InForce headerTitle lines key value
  | header (hno : ∀ line ∈ lines, ∀ value, ¬Gives line "title" value)
      (hblank : trim headerTitle ≠ []) : InForce headerTitle lines "title" (trim headerTitle)

/-- the value in force as it is looked up -/
def inForce (headerTitle : Text) (lines : List Text) (key : Text) : Option Text :=
  ((lines.filterMap ofLine?).reverse.lookup key).or
    (if key = "title".toList ∧ trim headerTitle ≠ [] then some (trim headerTitle) else none)

section
variable {lines : List Text} {key value : Text}

theorem lookup_eq_none_iff : (lines.filterMap ofLine?).reverse.lookup key = none ↔
    ∀ line ∈ lines, ∀ value, ¬Gives line key value := by
  rw [List.lookup_eq_none_iff]
  constructor
  · intro h line hline value hgives
    have hmem := Attributes.mem_filterMap_ofLine?.mpr ⟨line, hline, hgives⟩
    have := h _ (List.mem_reverse.mpr hmem)
    simp at this
  · rintro h ⟨key', value⟩ hp
    obtain ⟨line, hline, hgives⟩ := Attributes.mem_filterMap_ofLine?.mp (List.mem_reverse.mp hp)
    simp only [bne_iff_ne]
    rintro rfl
    exact h line hline value hgives

/-- **the last line** that gives a value to the key -/
theorem lookup_eq_some_iff : (lines.filterMap ofLine?).reverse.lookup key = some value ↔
    ∃ before line after, lines = before ++ line :: after ∧ Gives line key value ∧
      ∀ later ∈ after, ∀ value', ¬Gives later key value' := by
  constructor
  · intro h
    obtain ⟨later, earlier, hpairs, hlater⟩ := List.lookup_eq_some_iff.mp h
    rw [List.reverse_eq_append_iff, List.reverse_cons, List.append_assoc, List.singleton_append,
      List.filterMap_eq_append_iff] at hpairs
    obtain ⟨before, rest, rfl, _, hrest⟩ := hpairs
    obtain ⟨between, line, after, rfl, _, hline, hafter⟩ := List.filterMap_eq_cons_iff.mp hrest
    refine ⟨before ++ between, line, after, (List.append_assoc _ _ _).symm,
      Attributes.ofLine?_eq_some_iff.mp hline, fun line' hline' value' hgives => ?_⟩
    have hmem := Attributes.mem_filterMap_ofLine?.mpr ⟨line', hline', hgives⟩
    rw [hafter] at hmem
    have := hlater _ (List.mem_reverse.mp hmem)
    simp at this
  · rintro ⟨before, line, after, rfl, hgives, hlast⟩
    have hnone := lookup_eq_none_iff.mpr hlast
    rw [List.filterMap_append, List.filterMap_cons_some (Attributes.ofLine?_eq_some_iff.mpr hgives),
      List.reverse_append, List.reverse_cons, List.append_assoc, List.lookup_append, hnone]
    simp

end

/-- **the map** is read as it is -/
theorem inForce_eq_some_iff {headerTitle : Text} {lines : List Text} {key value : Text} :
    inForce headerTitle lines key = some value ↔ InForce headerTitle lines key value := by
  unfold inForce
  rw [Option.or_eq_some_iff, lookup_eq_some_iff, lookup_eq_none_iff]
  constructor
  · rintro (⟨before, line, after, hlines, h, hlast⟩ | ⟨hno, h⟩)
    · exact .line hlines h hlast
    · split at h
      · next hheader =>
        obtain ⟨rfl, hblank⟩ := hheader
        obtain rfl := Option.some.inj h
        exact .header hno hblank
      · cases h
  · rintro (⟨hlines, h, hlast⟩ | ⟨hno, hblank⟩)
    · exact Or.inl ⟨_, _, _, hlines, h, hlast⟩
    · exact Or.inr ⟨hno, if_pos ⟨rfl, hblank⟩⟩

theorem get?_withTitle (headerTitle : Text) (attrs : Attributes) (key : Text) :
    (withTitle headerTitle attrs).get? key = (attrs.get? key).or
      (if key = "title".toList ∧ trim headerTitle ≠ [] then some (trim headerTitle) else none) := by
  unfold withTitle
  generalize "title".toList = title
  by_cases hblank : trim headerTitle = []
  · simp [hblank]
  · by_cases hkey : key = title
    · subst hkey
      cases h : attrs.get? key <;> simp [hblank, h, Attributes.get?_insert]
    · split <;> simp [hkey, Attributes.get?_insert]

theorem inForce_eq (headerTitle : Text) (lines : List Text) :
    inForce headerTitle lines = (withTitle headerTitle (Attributes.ofLines lines)).get? := by
  funext key
  rw [get?_withTitle, Attributes.get?_ofLines]
  rfl

theorem pairwise_withTitle (headerTitle : Text) {attrs : Attributes}
    (h : (attrs.map Prod.fst).Pairwise (· < ·)) :
    ((withTitle headerTitle attrs).map Prod.fst).Pairwise (· < ·) := by
  unfold withTitle
  split
  · exact h
  · exact Attributes.pairwise_insert h _ _

/-! ## what is read from it -/

/-- the header with the values of a map, each field under its own key -/
def ofValues (value : Text → Option Text) : QuestHeader where
  title := (value "title").getD []
  summary := value "summary"
  author := value "author"
  email := value "email"
  url := value "url"
  minPlayers := (value "minplayers").map readNumber
  maxPlayers := (value "maxplayers").map readNumber
  minTimeMinutes := (value "mintimeminutes").map readNumber
  maxTimeMinutes := (value "maxtimeminutes").map readNumber
  familyFriendly := (value "familyfriendly").map fun v => (trim v).map Char.toLower = "true".toList

/-- a message on a missing title, then one on each value that should be a number and is not, each with
its number -/
def problemsOf (value : Text → Option Text) : List (Nat × Problem) :=
  (if (value "title").getD [] = [] then [(424, .missingAttribute "title")] else []) ++
    (["minplayers", "maxplayers", "mintimeminutes", "maxtimeminutes"] : List Text).filterMap
      fun key => (value key).bind fun v =>
        if SpellsNumber v then none else some (426, .notANumber key v)

theorem code_of_mem_problemsOf {value : Text → Option Text} :
    ∀ p ∈ problemsOf value, p.2.code = p.1 := by
  intro p hp
  rcases List.mem_append.mp hp with hp | hp
  · split at hp
    · rw [List.mem_singleton.mp hp]
      rfl
    · cases hp
  · obtain ⟨key, _, hp⟩ := List.mem_filterMap.mp hp
    obtain ⟨v, _, hp⟩ := Option.bind_eq_some_iff.mp hp
    split at hp
    · cases hp
    · rw [← Option.some.inj hp]
      rfl

theorem map_snd_problemsOf (value : Text → Option Text) : (problemsOf value).map Prod.snd =
    (if (value "title").getD [] = [] then [.missingAttribute "title"] else []) ++
      numberKeys.flatMap fun key => ((value key).bind fun v =>
        if SpellsNumber v then none else some (.notANumber key v)).toList := by
  unfold problemsOf
  rw [List.map_append, apply_ite (List.map Prod.snd), List.map_filterMap,
    List.filterMap_eq_flatMap_toList]
  simp only [Option.map_bind, Function.comp_def, apply_ite (Option.map Prod.snd)]
  rfl

theorem ofAttributes_eq (attrs : Attributes) : ofAttributes attrs =
    (ofValues attrs.get?, (problemsOf attrs.get?).map Prod.snd ++ attrs.unknown keys) := by
  rw [map_snd_problemsOf]
  unfold ofAttributes ofValues
  simp only [Attributes.number_eq, Attributes.string, Attributes.missing_required,
    Attributes.boolean]
  rfl

theorem ofLines_eq (headerTitle : Text) (lines : List Text) :
    ofLines headerTitle lines = (ofValues (inForce headerTitle lines),
      Attributes.malformed lines ++ ((problemsOf (inForce headerTitle lines)).map Prod.snd ++
        (withTitle headerTitle (Attributes.ofLines lines)).unknown keys)) := by
  unfold ofLines read
  rw [ofAttributes_eq, inForce_eq]

/-! ## the order of the lines -/

theorem filter_malformed (lines : List Text) :
    (Attributes.malformed lines).filter (·.code ≠ 434) = [] := by
  unfold Attributes.malformed
  rw [List.filter_eq_nil_iff]
  intro problem hproblem
  obtain ⟨line, _, rfl⟩ := List.mem_map.mp hproblem
  simp [Problem.code]

theorem ofLines_of_perm (headerTitle : Text) {lines lines' : List Text} (hperm : lines'.Perm lines)
    (h : ((lines.filterMap ofLine?).map Prod.fst).Nodup) :
    (ofLines headerTitle lines').1 = (ofLines headerTitle lines).1 ∧
      (ofLines headerTitle lines').2.filter (·.code ≠ 434) =
        (ofLines headerTitle lines).2.filter (·.code ≠ 434) := by
  have hinForce : inForce headerTitle lines' = inForce headerTitle lines := by
    rw [inForce_eq, inForce_eq, Attributes.ofLines_of_perm hperm h]
  rw [ofLines_eq, ofLines_eq, Attributes.ofLines_of_perm hperm h, hinForce]
  simp only [List.filter_append, filter_malformed, and_self]

/-! ## the messages -/

/-- **The messages of a quest header.**  They are about the lines without a colon (434), then about
the title (424), then about the numbers (426), then about the keys that are not known (427), in
ascending order.  Apart from the first they tell of the values in force alone, and so does the header;
and the order of the lines does not matter for these if no two of them give a value to one key. -/
theorem ofLines_messages (headerTitle : Text) (lines : List Text) :
    ∃ value : Text → Option Text,
      (∀ key v, value key = some v ↔ InForce headerTitle lines key v) ∧
      (ofLines headerTitle lines).1 = ofValues value ∧
      (∃ unknown : List Text, unknown.Pairwise (· < ·) ∧
        (∀ key, key ∈ unknown ↔ (value key).isSome ∧
          key ∉ (["title", "summary", "author", "email", "url", "minplayers", "maxplayers",
            "mintimeminutes", "maxtimeminutes", "familyfriendly"] : List Text)) ∧
        (ofLines headerTitle lines).2.map (fun p => (p.code, p)) =
          (lines.filter (':' ∉ ·)).map (fun line => (434, .malformedAttribute line)) ++
            problemsOf value ++ unknown.map fun key => (427, .unknownAttribute key)) ∧
      ∀ lines' : List Text, lines'.Perm lines →
        (lines.Pairwise fun a b => ∀ key v w, Gives a key v → ¬Gives b key w) →
        (ofLines headerTitle lines').1 = (ofLines headerTitle lines).1 ∧
        (ofLines headerTitle lines').2.filter (·.code ≠ 434) =
          (ofLines headerTitle lines).2.filter (·.code ≠ 434) := by
  refine ⟨inForce headerTitle lines, fun _ _ => inForce_eq_some_iff, by rw [ofLines_eq], ?_,
    fun lines' hperm h => ofLines_of_perm headerTitle hperm (Attributes.nodup_keys h)⟩
  have hcoded : ((problemsOf (inForce headerTitle lines)).map Prod.snd).map
      (fun p => (p.code, p)) = problemsOf (inForce headerTitle lines) := by
    rw [List.map_map]
    refine (List.map_congr_left fun p hp => ?_).trans (List.map_id _)
    exact Prod.ext (code_of_mem_problemsOf p hp) rfl
  refine ⟨((withTitle headerTitle (Attributes.ofLines lines)).map Prod.fst).filter
    (!keys.contains ·), ?_, fun key => ?_, ?_⟩
  · exact (pairwise_withTitle headerTitle (Attributes.pairwise_ofLines lines)).filter _
  · rw [List.mem_filter, Attributes.mem_keys_iff, inForce_eq]
    show _ ∧ (!keys.contains key) = true ↔ _ ∧ key ∉ keys
    simp
  · rw [ofLines_eq, Attributes.malformed_eq, Attributes.unknown, List.map_append, List.map_append,
      hcoded, List.map_map, List.map_map, List.append_assoc]
    rfl

example : (ofLines "Q" ["maxplayers: 1e309", "no colon", "color: red", "Title :"]).2 =
    [.malformedAttribute "no colon", .missingAttribute "title", .notANumber "maxplayers" "1e309",
      .unknownAttribute "color"] := by decide +kernel

end QuestHeader

end QuestScript
