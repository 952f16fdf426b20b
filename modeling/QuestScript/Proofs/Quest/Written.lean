import QuestScript.Proofs.Number.Numeral
import QuestScript.Proofs.Quest.Attributes
import QuestScript.Proofs.Text.Parts
import QuestScript.Proofs.Text.Trim

/-!
# Quest headers that are written and read again

What is read of a quest header is normal: its texts have no white space on either side, and its
numbers read as themselves.  A normal header that has a title is the same when its attributes are
written as lines and read again, whatever the order of the lines and the text after the `#`.

* `Attributes.line`                a pair as a line;
* `QuestHeader.IsNormal`           what holds of every header that was read;
* `QuestHeader.isNormal_ofLines`   it does;
* `QuestHeader.says_of_perm`       what its pairs say, in any order;
* `QuestHeader.ofLines_lines`      a normal header is read again from its lines;
* `QuestHeader.ofLines_written`    so is every header that was read and has a title.
-/

namespace QuestScript

namespace Attributes

open Text (trim)

/-! ## lines -/

def line (a : Text × Text) : Text := a.1 ++ ':' :: ' ' :: a.2

theorem ofLine?_line {a : Text × Text} (hcolon : ':' ∉ a.1) (hkey : Text.lower (trim a.1) = a.1)
    (hvalue : trim a.2 = a.2) : ofLine? (line a) = some a := by
  have hblank : trim (' ' :: a.2) = a.2 := (Text.trim_cons_of_blank rfl a.2).trans hvalue
  unfold ofLine? line
  rw [Text.splitOnce_append hcolon, Option.map_some]
  dsimp only
  rw [hkey, hblank]

theorem ofLines_eq (lines : List Text) :
    ofLines lines = (lines.filterMap ofLine?).foldl (fun m a => insert a.1 a.2 m) [] := rfl

theorem mem_insert {attrs : Attributes} {key value : Text} {a : Text × Text}
    (h : a ∈ insert key value attrs) : a = (key, value) ∨ a ∈ attrs := by
  induction attrs with
  | nil => exact Or.inl (List.mem_singleton.mp h)
  | cons b attrs ih =>
    rw [insert] at h
    split at h
    · exact (List.mem_cons.mp h).imp_right (List.mem_cons_of_mem _)
    · split at h
      · exact List.mem_cons.mp h
      · rcases List.mem_cons.mp h with rfl | h
        · exact Or.inr List.mem_cons_self
        · exact (ih h).imp_right (List.mem_cons_of_mem _)

theorem mem_foldl_insert {pairs : List (Text × Text)} {a : Text × Text} : ∀ {attrs : Attributes},
    a ∈ pairs.foldl (fun m b => insert b.1 b.2 m) attrs → a ∈ attrs ∨ a ∈ pairs := by
  induction pairs with
  | nil => exact Or.inl
  | cons b pairs ih =>
    intro attrs h
    rcases ih h with h | h
    · rcases mem_insert h with rfl | h
      · exact Or.inr List.mem_cons_self
      · exact Or.inl h
    · exact Or.inr (List.mem_cons_of_mem _ h)

theorem trim_of_mem_ofLines {lines : List Text} {a : Text × Text} (h : a ∈ ofLines lines) :
    trim a.2 = a.2 := by
  rw [ofLines_eq] at h
  have hmem := (mem_foldl_insert h).resolve_left List.not_mem_nil
  obtain ⟨line, _, hline⟩ := List.mem_filterMap.mp hmem
  obtain ⟨_, _, rfl⟩ := Option.map_eq_some_iff.mp hline
  exact Text.trim_trim _

theorem mem_of_get? {attrs : Attributes} {key value : Text} (h : attrs.get? key = some value) :
    (key, value) ∈ attrs := by
  obtain ⟨l, l', rfl, _⟩ := List.lookup_eq_some_iff.mp h
  exact List.mem_append_right _ List.mem_cons_self

/-! ## numbers -/

theorem isBlank_of_mem_ofNat {n : Nat} {c : Char} (hc : c ∈ Text.ofNat n) :
    Character.isBlank c = false := by
  have hdigit := Numeral.isDigit_of_mem_ofNat hc
  simp only [Char.isDigit, Bool.and_eq_true, decide_eq_true_eq, UInt32.le_iff_toNat_le] at hdigit
  have hrange : 48 ≤ c.toNat ∧ c.toNat ≤ 57 := hdigit
  unfold Character.isBlank
  simp
  omega

theorem trim_ofInt (i : Int) : trim (Text.ofInt i) = Text.ofInt i := by
  refine Text.trim_of_not_blank fun c hc => ?_
  cases i with
  | ofNat n => exact isBlank_of_mem_ofNat hc
  | negSucc n =>
    rcases List.mem_cons.mp hc with rfl | hc
    · decide
    · exact isBlank_of_mem_ofNat hc

/-- the decimal text of the integer reads as the integer -/
def ReadsAgain (i : Int) : Prop := wholeNumber? (Text.ofInt i) = some i

/-- **a number that was read** reads again; so does the 0 that stands for no number -/
theorem readsAgain_of_number {attrs : Attributes} {key : Text} {required : Bool} {i : Int}
    (h : (attrs.number key required).1 = some i) : ReadsAgain i := by
  unfold number at h
  split at h
  · cases h
  · split at h
    · next hwhole =>
      obtain rfl := Option.some.inj h
      obtain ⟨n, _, hn⟩ := Option.bind_eq_some_iff.mp hwhole
      unfold ReadsAgain wholeNumber?
      rw [trim_ofInt]
      exact Numeral.whole?_written hn
    · obtain rfl := Option.some.inj h
      show wholeNumber? (Text.ofInt 0) = some 0
      decide

theorem number_of_readsAgain {attrs : Attributes} {key : Text} {value : Option Int}
    (hget : attrs.get? key = value.map Text.ofInt) (h : ∀ i ∈ value, ReadsAgain i) :
    attrs.number key false = (value, []) := by
  unfold number
  rw [hget]
  cases value with
  | none => rfl
  | some i =>
    dsimp only [Option.map_some]
    rw [h i rfl]
    rfl

/-! ## yes or no -/

def ofBool (b : Bool) : Text := if b then "true" else "false"

theorem boolean_of_ofBool {attrs : Attributes} {key : Text} {value : Option Bool}
    (hget : attrs.get? key = value.map ofBool) : attrs.boolean key false = (value, []) := by
  have hisTrue (b : Bool) : isTrue (ofBool b) = b := by cases b <;> decide
  unfold boolean
  rw [hget, Option.map_map, show isTrue ∘ ofBool = id from funext hisTrue, Option.map_id]
  rfl

end Attributes

namespace QuestHeader

open Text (trim)
open Attributes (ReadsAgain)

/-! ## what is read -/

/-- the texts of the header are trimmed, and its numbers read as themselves -/
structure IsNormal (q : QuestHeader) : Prop where
  title : trim q.title = q.title
  texts : ∀ value ∈ [q.summary, q.author, q.email, q.url], ∀ t ∈ value, trim t = t
  numbers : ∀ value ∈ [q.minPlayers, q.maxPlayers, q.minTimeMinutes, q.maxTimeMinutes],
    ∀ i ∈ value, ReadsAgain i

theorem isNormal_ofAttributes {attrs : Attributes} (h : ∀ a ∈ attrs, trim a.2 = a.2) :
    (ofAttributes attrs).1.IsNormal := by
  have hget (key t : Text) (ht : t ∈ attrs.get? key) : trim t = t := h _ (Attributes.mem_of_get? ht)
  constructor
  · show trim ((attrs.get? "title").getD []) = (attrs.get? "title").getD []
    cases ht : attrs.get? "title" with
    | none => rfl
    | some t => exact hget _ t ht
  · intro value hvalue t ht
    simp only [List.mem_cons, List.not_mem_nil, or_false] at hvalue
    rcases hvalue with rfl | rfl | rfl | rfl <;> exact hget _ t ht
  · intro value hvalue i hi
    simp only [List.mem_cons, List.not_mem_nil, or_false] at hvalue
    rcases hvalue with rfl | rfl | rfl | rfl <;> exact Attributes.readsAgain_of_number hi

/-- **what is read is normal** -/
theorem isNormal_ofLines (headerTitle : Text) (lines : List Text) :
    (ofLines headerTitle lines).1.IsNormal := by
  refine isNormal_ofAttributes fun a ha => ?_
  unfold withTitle at ha
  split at ha
  · exact Attributes.trim_of_mem_ofLines ha
  · rcases Attributes.mem_insert ha with rfl | ha
    · exact Text.trim_trim headerTitle
    · exact Attributes.trim_of_mem_ofLines ha

/-! ## what is written -/

theorem lookup_first (a : Text × Text) (l : List (Text × Text)) (key : Text) :
    (a :: l).lookup key = (if key = a.1 then some a.2 else none).or (l.lookup key) := by
  rw [List.lookup_cons]
  by_cases h : key = a.1
  · simp [h]
  · simp [beq_false_of_ne h, h]

theorem lookup_field (k key : Text) (value : Option Text) :
    (value.toList.map fun v => (k, v)).lookup key = if key = k then value else none := by
  cases value with
  | none => exact (ite_self none).symm
  | some v =>
    show List.lookup key [(k, v)] = _
    rw [lookup_first, List.lookup_nil, Option.or_none]

theorem lookup_pairs (q : QuestHeader) (key : Text) : q.pairs.lookup key =
    let field (k : Text) (value : Option Text) := if key = k then value else none
    let number (k : Text) (value : Option Int) := field k (value.map Text.ofInt)
    (((((((((field "title" (some q.title)).or (field "summary" q.summary)).or
      (field "author" q.author)).or (field "email" q.email)).or (field "url" q.url)).or
      (number "minplayers" q.minPlayers)).or (number "maxplayers" q.maxPlayers)).or
      (number "mintimeminutes" q.minTimeMinutes)).or (number "maxtimeminutes" q.maxTimeMinutes)).or
      (field "familyfriendly" (q.familyFriendly.map Attributes.ofBool)) := by
  unfold pairs
  simp only [List.lookup_append, lookup_first, lookup_field]
  rfl

/-- the attributes have for every key what the header says -/
structure Says (q : QuestHeader) (attrs : Attributes) : Prop where
  title : attrs.get? "title" = some q.title
  summary : attrs.get? "summary" = q.summary
  author : attrs.get? "author" = q.author
  email : attrs.get? "email" = q.email
  url : attrs.get? "url" = q.url
  minPlayers : attrs.get? "minplayers" = q.minPlayers.map Text.ofInt
  maxPlayers : attrs.get? "maxplayers" = q.maxPlayers.map Text.ofInt
  minTimeMinutes : attrs.get? "mintimeminutes" = q.minTimeMinutes.map Text.ofInt
  maxTimeMinutes : attrs.get? "maxtimeminutes" = q.maxTimeMinutes.map Text.ofInt
  familyFriendly : attrs.get? "familyfriendly" = q.familyFriendly.map Attributes.ofBool

/-- **the pairs of a header** have what it says, in any order -/
theorem says_of_perm {q : QuestHeader} {attrs : Attributes} (hperm : attrs.Perm q.pairs) :
    q.Says attrs := by
  have hkeys := (hperm.map Prod.fst).nodup_iff.mpr q.nodup_keys_pairs
  have hget (key : Text) : attrs.get? key = q.pairs.lookup key :=
    lookup_of_perm hperm hkeys key
  constructor
  all_goals rw [hget, lookup_pairs]
  · rfl
  · cases q.summary <;> rfl
  · cases q.author <;> rfl
  · cases q.email <;> rfl
  · cases q.url <;> rfl
  · cases q.minPlayers <;> rfl
  · cases q.maxPlayers <;> rfl
  · cases q.minTimeMinutes <;> rfl
  · cases q.maxTimeMinutes <;> rfl
  · cases q.familyFriendly <;> rfl

theorem values_pairs {q : QuestHeader} {a : Text × Text} (ha : a ∈ q.pairs) :
    a.2 = q.title ∨ (∃ value ∈ [q.summary, q.author, q.email, q.url], a.2 ∈ value) ∨
      (∃ i, a.2 = Text.ofInt i) ∨ ∃ b, a.2 = Attributes.ofBool b := by
  have hfield {key : Text} {value : Option Text}
      (h : a ∈ value.toList.map fun v => (key, v)) : a.2 ∈ value := by
    obtain ⟨v, hv, rfl⟩ := List.mem_map.mp h
    exact Option.mem_toList.mp hv
  have hnumber {key : Text} {value : Option Int}
      (h : a ∈ (value.map Text.ofInt).toList.map fun v => (key, v)) : ∃ i, a.2 = Text.ofInt i := by
    obtain ⟨i, _, hi⟩ := Option.map_eq_some_iff.mp (hfield h)
    exact ⟨i, hi.symm⟩
  unfold pairs at ha
  simp only [List.mem_append, List.mem_cons] at ha
  rcases ha with (((((((((rfl | h) | h) | h) | h) | h) | h) | h) | h) | h)
  · exact Or.inl rfl
  · exact Or.inr (Or.inl ⟨_, by simp, hfield h⟩)
  · exact Or.inr (Or.inl ⟨_, by simp, hfield h⟩)
  · exact Or.inr (Or.inl ⟨_, by simp, hfield h⟩)
  · exact Or.inr (Or.inl ⟨_, by simp, hfield h⟩)
  · exact Or.inr (Or.inr (Or.inl (hnumber h)))
  · exact Or.inr (Or.inr (Or.inl (hnumber h)))
  · exact Or.inr (Or.inr (Or.inl (hnumber h)))
  · exact Or.inr (Or.inr (Or.inl (hnumber h)))
  · obtain ⟨b, _, hb⟩ := Option.map_eq_some_iff.mp (hfield h)
    exact Or.inr (Or.inr (Or.inr ⟨b, hb.symm⟩))

theorem trim_of_mem_pairs {q : QuestHeader} (hq : q.IsNormal) {a : Text × Text}
    (ha : a ∈ q.pairs) : trim a.2 = a.2 := by
  rcases values_pairs ha with h | ⟨value, hvalue, h⟩ | ⟨i, h⟩ | ⟨b, h⟩
  · rw [h]
    exact hq.title
  · exact hq.texts value hvalue _ h
  · rw [h]
    exact Attributes.trim_ofInt i
  · rw [h]
    cases b <;> decide

/-! ## reading it again -/

theorem ofAttributes_of_says {q : QuestHeader} (hq : q.IsNormal) (htitle : q.title ≠ [])
    {attrs : Attributes} (h : q.Says attrs) (hkeys : attrs.map Prod.fst ⊆ keys) :
    ofAttributes attrs = (q, []) := by
  have hmin := Attributes.number_of_readsAgain h.minPlayers (hq.numbers _ (by simp))
  have hmax := Attributes.number_of_readsAgain h.maxPlayers (hq.numbers _ (by simp))
  have hminTime := Attributes.number_of_readsAgain h.minTimeMinutes (hq.numbers _ (by simp))
  have hmaxTime := Attributes.number_of_readsAgain h.maxTimeMinutes (hq.numbers _ (by simp))
  have hfriendly := Attributes.boolean_of_ofBool h.familyFriendly
  have hmissing : attrs.missing "title" true = [] := by
    unfold Attributes.missing
    rw [h.title]
    simp [htitle]
  have hnumbers : (numberKeys.flatMap fun key => (attrs.number key false).2) = [] := by
    unfold numberKeys
    simp only [List.flatMap_cons, List.flatMap_nil, hmin, hmax, hminTime, hmaxTime, List.append_nil]
  have hunknown : attrs.unknown keys = [] := by
    unfold Attributes.unknown
    rw [List.map_eq_nil_iff, List.filter_eq_nil_iff]
    intro key hkey
    simp [hkeys hkey]
  unfold ofAttributes Attributes.string
  dsimp only
  rw [hmissing, hnumbers, hunknown, hmin, hmax, hminTime, hmaxTime, hfriendly, h.title, h.summary,
    h.author, h.email, h.url]
  rfl

theorem ofLine?_line_of_mem_pairs {q : QuestHeader} (hq : q.IsNormal) {a : Text × Text}
    (ha : a ∈ q.pairs) : Attributes.ofLine? (Attributes.line a) = some a := by
  have hkeys : ∀ key ∈ keys, ':' ∉ key ∧ Text.lower (trim key) = key := by decide
  obtain ⟨hcolon, hlower⟩ :=
    hkeys a.1 (q.pairs_keys_sublist.subset (List.mem_map_of_mem ha))
  exact Attributes.ofLine?_line hcolon hlower (trim_of_mem_pairs hq ha)

/-- **a normal header** is read again from its lines -/
theorem ofLines_lines {q : QuestHeader} (hq : q.IsNormal) (htitle : q.title ≠ [])
    {lines : List Text} (hlines : lines.Perm (q.pairs.map Attributes.line)) (headerTitle : Text) :
    ofLines headerTitle lines = (q, []) := by
  have hread : (q.pairs.map Attributes.line).filterMap Attributes.ofLine? = q.pairs := by
    rw [List.filterMap_map]
    calc _ = q.pairs.filterMap some :=
          List.filterMap_congr fun a ha => ofLine?_line_of_mem_pairs hq ha
      _ = q.pairs := List.filterMap_some
  have hpairs : (lines.filterMap Attributes.ofLine?).Perm q.pairs :=
    hread ▸ hlines.filterMap Attributes.ofLine?
  have hmalformed : Attributes.malformed lines = [] := by
    unfold Attributes.malformed
    rw [List.map_eq_nil_iff, List.filter_eq_nil_iff]
    intro line hline
    obtain ⟨a, ha, rfl⟩ := List.mem_map.mp (hlines.mem_iff.mp hline)
    rw [ofLine?_line_of_mem_pairs hq ha]
    exact Bool.false_ne_true
  have hperm : (Attributes.ofLines lines).Perm q.pairs := by
    rw [Attributes.ofLines_eq]
    refine (Attributes.perm_foldl_insert _ ?_).trans hpairs
    exact (hpairs.map _).nodup_iff.mpr q.nodup_keys_pairs
  have htold := says_of_perm hperm
  have hwithTitle : withTitle headerTitle (Attributes.ofLines lines) = Attributes.ofLines lines := by
    unfold withTitle
    rw [htold.title]
    simp
  have hkeys : (Attributes.ofLines lines).map Prod.fst ⊆ keys := fun key hkey =>
    q.pairs_keys_sublist.subset ((hperm.map _).mem_iff.mp hkey)
  unfold ofLines read
  rw [hwithTitle, ofAttributes_of_says hq htitle htold hkeys, hmalformed]
  rfl

/-- **What was read is read again.**  Where a quest header that was read from a title and lines has a
title, its pairs written as lines, in any order, are read as the same header under any title, and
nothing is wrong with them. -/
theorem ofLines_written (headerTitle : Text) (lines : List Text)
    (htitle : (ofLines headerTitle lines).1.title ≠ []) {written : List Text}
    (hwritten : written.Perm ((ofLines headerTitle lines).1.pairs.map fun (key, value) =>
      key ++ ": ".toList ++ value)) (headerTitle' : Text) :
    ofLines headerTitle' written = ((ofLines headerTitle lines).1, []) := by
  have hline : (fun (key, value) => key ++ ": ".toList ++ value) = Attributes.line :=
    funext fun a => List.append_assoc _ _ _
  rw [hline] at hwritten
  exact ofLines_lines (isNormal_ofLines headerTitle lines) htitle hwritten headerTitle'

/-- a number that was cut to the largest integer, a colon in a value, an empty value and a `no` -/
theorem ofLines_written_of_cut_number :
    let q := (ofLines " Q " ["Author: A: B", "maxplayers: 1e300", "summary:", "familyfriendly: no",
      "no colon"]).1
    let written : List Text := ["familyfriendly: false", "maxplayers: 9223372036854775807",
      "author: A: B", "summary: ", "title: Q"]
    q.title ≠ [] ∧ q.maxPlayers = some 9223372036854775807 ∧
      written.Perm (q.pairs.map fun (key, value) => key ++ ": ".toList ++ value) ∧
      ofLines "# R" written = (q, []) := by
  intro q written
  have htitle : q.title ≠ [] := by decide
  have hwritten : written.Perm (q.pairs.map fun (key, value) => key ++ ": ".toList ++ value) := by
    decide +kernel
  exact ⟨htitle, by decide +kernel, hwritten, ofLines_written _ _ htitle hwritten _⟩

end QuestHeader

end QuestScript
