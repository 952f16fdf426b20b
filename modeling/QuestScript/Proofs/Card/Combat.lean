import QuestScript.Proofs.Card.Reading
import QuestScript.Proofs.Pieces
import Mathlib.Data.List.Forall2

/-!
# What follows a fight

A combat unit is a row of lines and of values folded into it, cut before each choice.  A choice that
names an event opens it, and the event holds the values up to the next choice; every other value is
reported.

* `CombatLine.Says`                      what a line says, and that it says one thing (`says_iff`);
* `CombatEntry.OfUnit`                   what the lines of a unit say, and the values, in order;
* `CombatEntry.problem?`                 what is wrong with a line or a value;
* `CombatEntry.sections`, `CombatSection.event?`, `CombatSection.log`  a choice with what follows it;
* `CombatReading.addEntry`, `CombatReading.addMember_eq`  a unit is read one entry at a time;
* `CombatReading.foldl_section`, `CombatReading.foldl_sections`  what one section adds, and all of them;
* `CardFormat.unit_combat`               the card of a unit, and its messages.
-/

namespace QuestScript

variable {V : Type}

/-! ## the lines of a card -/

namespace CombatLine

/-- the text of a choice names an event: `on `, and then `win` or `lose`, which may have white space
around it -/
def IsEvent (choice on : Text) : Prop :=
  ∃ rest, choice = 'o' :: 'n' :: ' ' :: rest ∧ on = Text.trim rest ∧
    (on = ("win" : Text) ∨ on = ("lose" : Text))

theorem event?_eq_some_iff {choice on : Text} : event? choice = some on ↔ IsEvent choice on := by
  unfold event? IsEvent
  rw [Option.filter_eq_some_iff, Option.map_eq_some_iff, Bool.or_eq_true, decide_eq_true_iff,
    decide_eq_true_iff]
  constructor
  · rintro ⟨⟨rest, hrest, rfl⟩, hon⟩
    exact ⟨rest, Text.dropPrefix?_eq_some_iff.mp hrest, rfl, hon⟩
  · rintro ⟨rest, hrest, rfl, hon⟩
    exact ⟨⟨rest, Text.dropPrefix?_eq_some_iff.mpr hrest, rfl⟩, hon⟩

/-- what a line says: `- ` is followed by the name of an enemy, a choice names an event or it does
not, and any other line has no place in a card -/
inductive Says : Text → CombatLine → Prop
  | enemy {rest : Text} : Says ('-' :: ' ' :: rest) (.enemy (Text.trim rest))
  | event {line choice on : Text} (h : Line.IsChoice line choice) (hon : IsEvent choice on) :
      Says line (.event on)
  | unknownEvent {line choice : Text} (h : Line.IsChoice line choice)
      (hno : ∀ on, ¬IsEvent choice on) : Says line (.unknownEvent choice)
  | other {line : Text} (henemy : ¬['-', ' '] <+: line) (hchoice : ¬['*', ' '] <+: line) :
      Says line (.other line)

/-- a choice names no enemy -/
theorem dropPrefix?_of_isChoice {line choice : Text} (h : Line.IsChoice line choice) :
    Text.dropPrefix? ['-', ' '] line = none := by
  obtain ⟨rest, rfl, _⟩ := h
  rfl

theorem choice?_eq_none_iff_not_start {line : Text} :
    Line.choice? line = none ↔ ¬['*', ' '] <+: line := by
  rw [Line.choice?, Option.map_eq_none_iff, Text.dropPrefix?_eq_none_iff]

theorem Says.ofText_eq {line : Text} {said : CombatLine} (h : Says line said) :
    ofText line = said := by
  unfold ofText
  cases h with
  | enemy => rfl
  | event h hon =>
    rw [dropPrefix?_of_isChoice h, Line.choice?_eq_some_iff.mpr h]
    dsimp only
    rw [event?_eq_some_iff.mpr hon]
  | unknownEvent h hno =>
    rw [dropPrefix?_of_isChoice h, Line.choice?_eq_some_iff.mpr h]
    dsimp only
    rw [Option.eq_none_iff_forall_not_mem.mpr fun on hon => hno on (event?_eq_some_iff.mp hon)]
  | other henemy hchoice =>
    rw [Text.dropPrefix?_eq_none_iff.mpr henemy, choice?_eq_none_iff_not_start.mpr hchoice]

theorem says_ofText (line : Text) : Says line (ofText line) := by
  unfold ofText
  cases hdash : Text.dropPrefix? ['-', ' '] line with
  | some rest =>
    obtain rfl := Text.dropPrefix?_eq_some_iff.mp hdash
    exact .enemy
  | none =>
    cases hchoice : Line.choice? line with
    | none =>
      exact .other (Text.dropPrefix?_eq_none_iff.mp hdash)
        (choice?_eq_none_iff_not_start.mp hchoice)
    | some choice =>
      have h := Line.choice?_eq_some_iff.mp hchoice
      dsimp only
      cases hevent : event? choice with
      | some on => exact .event h (event?_eq_some_iff.mp hevent)
      | none =>
        refine .unknownEvent h fun on hon => ?_
        rw [event?_eq_some_iff.mpr hon] at hevent
        cases hevent

/-- **a line** says one thing, and it is read as that -/
theorem says_iff {line : Text} {said : CombatLine} : Says line said ↔ ofText line = said := by
  constructor
  · exact Says.ofText_eq
  · rintro rfl
    exact says_ofText line

end CombatLine

/-! ## the entries of a unit -/

/-- what a line of a combat card says, with the block that it is in, or a value, with its anchor -/
inductive CombatEntry (V : Type) where
  | line (id : Nat) (said : CombatLine)
  | folded (id : Nat) (value : V)

namespace CombatEntry

/-- what the lines of a member say, or its value -/
inductive OfMember : Member V → List (CombatEntry V) → Prop
  | own {id : Nat} {b : Block} {said : List CombatLine}
      (h : List.Forall₂ CombatLine.Says b.lines said) : OfMember (.own id b) (said.map (.line id))
  | folded {id : Nat} {b : Block} {value : V} :
      OfMember (@Member.folded V id b value) [.folded id value]

/-- what the lines after the header say, and then the other members, in order -/
def OfUnit (u : RenderUnit V) (es : List (CombatEntry V)) : Prop :=
  ∃ said parts, List.Forall₂ CombatLine.Says u.anchor.lines.tail said ∧
    List.Forall₂ OfMember u.rest parts ∧ es = said.map (.line u.anchorId) ++ parts.flatten

/-- the enemy that a line names; a blank name is none -/
def name? : CombatEntry V → Option Text
  | .line _ (.enemy name) => if name = [] then none else some name
  | _ => none

def value? : CombatEntry V → Option V
  | .line _ _ => none
  | .folded _ value => some value

/-- the entry is a choice, whether it names an event or not -/
def isChoice : CombatEntry V → Bool
  | .line _ (.event _) => true
  | .line _ (.unknownEvent _) => true
  | _ => false

/-- the event that a choice opens -/
def on? : CombatEntry V → Option Text
  | .line _ (.event on) => some on
  | _ => none

theorem on?_of_not_choice {e : CombatEntry V} (h : e.isChoice = false) : e.on? = none := by
  cases e with
  | folded id value => rfl
  | line id said =>
    cases said with
    | event on => cases h
    | _ => rfl

/-- what is wrong with an entry, `isOpen` telling whether the choice before it opened an event: a
choice that is no event (431), a line that is neither enemy nor choice (434), a value without an
event (428) -/
def problem? (isOpen : Bool) : CombatEntry V → Option Diagnostic
  | .line _ (.enemy _) => none
  | .line _ (.event _) => none
  | .line id (.unknownEvent choice) =>
    some ⟨.error, 431, (Problem.unknownEvent choice).message, [id]⟩
  | .line id (.other text) => some ⟨.error, 434, (Problem.malformedCombatLine text).message, [id]⟩
  | .folded id _ =>
    if isOpen then none else some ⟨.warning, 428, Problem.strayCombatChild.message, [id]⟩

end CombatEntry

namespace CombatSection

/-- the event that the choice of a section opens -/
def on? (s : List (CombatEntry V)) : Option Text := s.head?.bind CombatEntry.on?

/-- the event of a section, with the values after it -/
def event? (s : List (CombatEntry V)) : Option (CombatEvent V) :=
  (on? s).map fun on => ⟨on, s.filterMap CombatEntry.value?⟩

def log (s : List (CombatEntry V)) : List Diagnostic :=
  s.filterMap (CombatEntry.problem? (on? s).isSome)

end CombatSection

/-- the names between the commas of a text -/
def Text.names (t : Text) : List Text := ((List.splitOn ',' t).map Text.trim).filter (!·.isEmpty)

namespace CombatEntry

/-- the entries, cut before each choice -/
def sections (es : List (CombatEntry V)) : List (List (CombatEntry V)) :=
  es.splitBy fun _ e => !e.isChoice

/-- the fight that the entries tell of, `names` being what the header says after its mark -/
def fight (names : Text) (es : List (CombatEntry V)) : Combat V :=
  ⟨names.names ++ es.filterMap name?, (sections es).filterMap CombatSection.event?⟩

/-- the values that stand in the section of an event -/
def kept (es : List (CombatEntry V)) : List V :=
  ((sections es).filter fun s => (CombatSection.on? s).isSome).flatten.filterMap value?

end CombatEntry

/-! ## the entries that are read -/

theorem forall₂_iff_map_eq {α β : Type} {R : α → β → Prop} {f : α → β}
    (h : ∀ {a b}, R a b ↔ f a = b) {l : List α} {l' : List β} :
    List.Forall₂ R l l' ↔ l.map f = l' := by
  have hR : R = fun a b => f a = b := funext fun a => funext fun b => propext h
  rw [hR, ← List.forall₂_map_left_iff, List.forall₂_eq_eq_eq]

def Member.entries : Member V → List (CombatEntry V)
  | .own id b => (b.lines.map CombatLine.ofText).map (.line id)
  | .folded id value => [.folded id value]

def RenderUnit.entries (u : RenderUnit V) : List (CombatEntry V) :=
  (u.anchor.lines.tail.map CombatLine.ofText).map (.line u.anchorId) ++
    (u.rest.map Member.entries).flatten

namespace CombatEntry

theorem forall₂_says_iff {lines : List Text} {said : List CombatLine} :
    List.Forall₂ CombatLine.Says lines said ↔ lines.map CombatLine.ofText = said :=
  forall₂_iff_map_eq (R := CombatLine.Says) CombatLine.says_iff

theorem ofMember_iff {m : Member V} {es : List (CombatEntry V)} :
    OfMember m es ↔ m.entries = es := by
  constructor
  · rintro (⟨h⟩ | _)
    · rw [Member.entries, forall₂_says_iff.mp h]
    · rfl
  · rintro rfl
    cases m with
    | own id b => exact .own (forall₂_says_iff.mpr rfl)
    | folded id value => exact .folded

/-- **a unit** has one row of entries -/
theorem ofUnit_iff {u : RenderUnit V} {es : List (CombatEntry V)} :
    OfUnit u es ↔ es = u.entries := by
  constructor
  · rintro ⟨said, parts, hsaid, hparts, rfl⟩
    rw [RenderUnit.entries, forall₂_says_iff.mp hsaid,
      (forall₂_iff_map_eq ofMember_iff).mp hparts]
  · rintro rfl
    exact ⟨_, _, forall₂_says_iff.mpr rfl, (forall₂_iff_map_eq ofMember_iff).mpr rfl, rfl⟩

end CombatEntry

/-! ## one entry -/

namespace CombatReading

/-- goes on with one entry -/
def addEntry (r : CombatReading V) : CombatEntry V → CombatReading V
  | .line _ (.enemy name) => r.addEnemy name
  | .line _ (.event on) => ⟨⟨r.card.enemies, r.card.events ++ [⟨on, []⟩]⟩, true, r.log⟩
  | .line id (.unknownEvent choice) =>
    ⟨r.card, false, r.log ++ [(Problem.unknownEvent choice).on [id]]⟩
  | .line id (.other text) =>
    ⟨r.card, r.isOpen, r.log ++ [(Problem.malformedCombatLine text).on [id]]⟩
  | .folded id value =>
    match r.attached? value with
    | some events => ⟨⟨r.card.enemies, events⟩, r.isOpen, r.log⟩
    | none => ⟨r.card, r.isOpen, r.log ++ [Problem.strayCombatChild.on [id]]⟩

theorem addLine_eq (id : Nat) (r : CombatReading V) (line : Text) :
    r.addLine id line = r.addEntry (.line id (CombatLine.ofText line)) := by
  unfold addLine
  cases CombatLine.ofText line <;> rfl

theorem foldl_addLine_eq (id : Nat) (lines : List Text) (r : CombatReading V) :
    lines.foldl (addLine id) r =
      ((lines.map CombatLine.ofText).map (.line id)).foldl addEntry r := by
  rw [List.foldl_map, List.foldl_map]
  exact congrArg (fun f => lines.foldl f r) (funext fun r => funext fun line => addLine_eq id r line)

/-- **a member** is read one entry at a time -/
theorem addMember_eq (r : CombatReading V) (m : Member V) :
    r.addMember m = m.entries.foldl addEntry r := by
  cases m with
  | own id b => exact foldl_addLine_eq id b.lines r
  | folded id value =>
    show _ = r.addEntry (.folded id value)
    cases h : r.attached? value with
    | some events => simp only [addEntry, h, addMember_of_attached r id value h]
    | none => simp only [addEntry, h, addMember_of_stray r id value h]

/-- **a unit** is read one entry at a time, the header apart -/
theorem ofUnit_eq (u : RenderUnit V) : ofUnit u =
    u.entries.foldl addEntry ⟨⟨(u.anchor.lines.head?.map headerEnemies).getD [], []⟩, false, []⟩ := by
  have hrest : ∀ (ms : List (Member V)) (r : CombatReading V),
      (ms.map Member.entries).flatten.foldl addEntry r = ms.foldl addMember r := by
    intro ms
    induction ms with
    | nil => exact fun _ => rfl
    | cons m ms ih =>
      intro r
      rw [List.map_cons, List.flatten_cons, List.foldl_append, ih, List.foldl_cons, addMember_eq]
  unfold RenderUnit.entries
  rw [List.foldl_append, hrest, ← foldl_addLine_eq]
  rfl

/-- a card with its last event apart, if that is open -/
def ofLast (enemies : List Text) (events : List (CombatEvent V)) (last : Option (CombatEvent V))
    (log : List Diagnostic) : CombatReading V :=
  ⟨⟨enemies, events ++ last.toList⟩, last.isSome, log⟩

/-- an event with more values -/
def extend (values : List V) (event : CombatEvent V) : CombatEvent V :=
  ⟨event.on, event.children ++ values⟩

section
variable {e : CombatEntry V} (r : CombatReading V) (enemies : List Text)
  (events : List (CombatEvent V)) (last : Option (CombatEvent V)) (log : List Diagnostic)

/-- **a choice** closes the event before it, and opens the event that it names -/
theorem addEntry_of_choice (h : e.isChoice) (isOpen : Bool) : r.addEntry e =
    ofLast (r.card.enemies ++ e.name?.toList) r.card.events (e.on?.map fun on => ⟨on, []⟩)
      (r.log ++ (e.problem? isOpen).toList) := by
  cases e with
  | folded id value => cases h
  | line id said =>
    cases said with
    | enemy name => cases h
    | other line => cases h
    | event on => simp [addEntry, ofLast, CombatEntry.name?, CombatEntry.on?, CombatEntry.problem?]
    | unknownEvent choice =>
      simp [addEntry, ofLast, CombatEntry.name?, CombatEntry.on?, CombatEntry.problem?, Problem.on,
        Problem.severity, Problem.code]

/-- **any other entry** adds to the enemies, to the open event or to the messages -/
theorem addEntry_of_not_choice (h : e.isChoice = false) :
    (ofLast enemies events last log).addEntry e =
      ofLast (enemies ++ e.name?.toList) events (last.map (extend e.value?.toList))
        (log ++ (e.problem? last.isSome).toList) := by
  have hlast : last.map (extend []) = last := by cases last <;> simp [extend]
  cases e with
  | line id said =>
    show _ = ofLast _ events (last.map (extend [])) _
    rw [hlast]
    cases said with
    | event on => cases h
    | unknownEvent choice => cases h
    | enemy name =>
      cases name <;> simp [addEntry, addEnemy, ofLast, CombatEntry.name?, CombatEntry.problem?]
    | other line =>
      simp [addEntry, ofLast, CombatEntry.name?, CombatEntry.problem?, Problem.on, Problem.severity,
        Problem.code]
  | folded id value =>
    cases last with
    | none =>
      simp [addEntry, attached?, ofLast, CombatEntry.name?, CombatEntry.problem?, Problem.on,
        Problem.severity, Problem.code]
    | some event =>
      simp [addEntry, attached?, attach?, ofLast, extend, CombatEntry.name?, CombatEntry.value?,
        CombatEntry.problem?]

end

/-! ## a section -/

theorem toList_append_filterMap {α β : Type} (f : α → Option β) (a : α) (l : List α) :
    (f a).toList ++ l.filterMap f = (a :: l).filterMap f := by
  cases h : f a <;> simp [h]

theorem foldl_of_not_choice {es : List (CombatEntry V)} (h : ∀ e ∈ es, e.isChoice = false)
    (events : List (CombatEvent V)) : ∀ enemies last log,
    es.foldl addEntry (ofLast enemies events last log) =
      ofLast (enemies ++ es.filterMap CombatEntry.name?) events
        (last.map (extend (es.filterMap CombatEntry.value?)))
        (log ++ es.filterMap (CombatEntry.problem? last.isSome)) := by
  induction es with
  | nil =>
    intro enemies last log
    cases last <;> simp [extend]
  | cons e es ih =>
    intro enemies last log
    rw [List.forall_mem_cons] at h
    have hvalues : (extend (V := V) (es.filterMap CombatEntry.value?)) ∘ extend e.value?.toList =
        extend ((e :: es).filterMap CombatEntry.value?) := by
      funext event
      show (⟨event.on, event.children ++ _ ++ _⟩ : CombatEvent V) = ⟨event.on, event.children ++ _⟩
      rw [List.append_assoc, toList_append_filterMap]
    rw [List.foldl_cons, addEntry_of_not_choice _ _ _ _ h.1, ih h.2, Option.map_map, hvalues,
      Option.isSome_map, List.append_assoc, toList_append_filterMap, List.append_assoc,
      toList_append_filterMap]

/-- a section that a choice starts -/
theorem foldl_of_choice {c : CombatEntry V} (hc : c.isChoice) {es : List (CombatEntry V)}
    (hes : ∀ e ∈ es, e.isChoice = false) (r : CombatReading V) :
    (c :: es).foldl addEntry r =
      ofLast (r.card.enemies ++ (c :: es).filterMap CombatEntry.name?) r.card.events
        (CombatSection.event? (c :: es)) (r.log ++ CombatSection.log (c :: es)) := by
  have hvalue : c.value? = none := by
    cases c with
    | line id text => rfl
    | folded id value => cases hc
  have hevent : (c.on?.map fun on => (⟨on, []⟩ : CombatEvent V)).map
      (extend (es.filterMap CombatEntry.value?)) = CombatSection.event? (c :: es) := by
    show _ = c.on?.map fun on => (⟨on, (c :: es).filterMap CombatEntry.value?⟩ : CombatEvent V)
    rw [Option.map_map, List.filterMap_cons_none hvalue]
    rfl
  rw [List.foldl_cons, addEntry_of_choice r hc c.on?.isSome, foldl_of_not_choice hes, hevent,
    Option.isSome_map, List.append_assoc, toList_append_filterMap, List.append_assoc,
    toList_append_filterMap]
  rfl

/-- **a section** adds its enemies, its event and its messages -/
theorem foldl_section {s : List (CombatEntry V)} (htail : ∀ e ∈ s.tail, e.isChoice = false)
    (r : CombatReading V) (hopen : r.isOpen = false ∨ ∃ e ∈ s.head?, e.isChoice) :
    s.foldl addEntry r =
      ofLast (r.card.enemies ++ s.filterMap CombatEntry.name?) r.card.events
        (CombatSection.event? s) (r.log ++ CombatSection.log s) := by
  by_cases hchoice : ∃ e ∈ s.head?, e.isChoice
  · obtain ⟨c, hc, hsome⟩ := hchoice
    obtain ⟨es, rfl⟩ := List.head?_eq_some_iff.mp hc
    exact foldl_of_choice hsome htail r
  · -- no event is open, and none is opened
    have hclosed : r.isOpen = false := hopen.resolve_right hchoice
    have hr : r = ofLast r.card.enemies r.card.events none r.log := by
      unfold ofLast
      rw [Option.toList_none, List.append_nil, Option.isSome_none, ← hclosed]
    have hnone : ∀ e ∈ s, e.isChoice = false := by
      cases s with
      | nil => exact fun _ he => nomatch he
      | cons c es =>
        refine List.forall_mem_cons.mpr ⟨?_, htail⟩
        exact Bool.eq_false_iff.mpr fun h => hchoice ⟨c, rfl, h⟩
    have hon : CombatSection.on? s = none := by
      refine Option.bind_eq_none_iff.mpr fun c hc => ?_
      exact CombatEntry.on?_of_not_choice (hnone c (List.mem_of_mem_head? hc))
    have hfold := foldl_of_not_choice hnone r.card.events r.card.enemies none r.log
    rw [← hr] at hfold
    rw [CombatSection.event?, CombatSection.log, hon, hfold]
    rfl

/-- **all sections**, the first of which may start without a choice -/
theorem foldl_sections {ss : List (List (CombatEntry V))}
    (htail : ∀ s ∈ ss, ∀ e ∈ s.tail, e.isChoice = false)
    (hhead : ∀ s ∈ ss.tail, ∃ e ∈ s.head?, e.isChoice) : ∀ r : CombatReading V,
    (r.isOpen = false ∨ ∀ s ∈ ss.head?, ∃ e ∈ s.head?, e.isChoice) →
    let r' := ss.flatten.foldl addEntry r
    r'.card = ⟨r.card.enemies ++ ss.flatten.filterMap CombatEntry.name?,
        r.card.events ++ ss.filterMap CombatSection.event?⟩ ∧
      r'.log = r.log ++ ss.flatMap CombatSection.log := by
  induction ss with
  | nil => simp
  | cons s ss ih =>
    intro r hopen
    have hs := foldl_section (htail s List.mem_cons_self) r
      (hopen.imp_right fun h => h s rfl)
    obtain ⟨hcard, hlog⟩ := ih (fun s hs => htail s (List.mem_cons_of_mem _ hs))
      (fun s hs => hhead s (List.mem_of_mem_tail hs)) (s.foldl addEntry r)
      (Or.inr fun s hs => hhead s (List.mem_of_mem_head? hs))
    rw [List.flatten_cons, List.foldl_append]
    refine ⟨hcard.trans ?_, hlog.trans ?_⟩
    · rw [hs, List.filterMap_append, ← toList_append_filterMap CombatSection.event? s]
      simp [ofLast]
    · rw [hs, List.flatMap_cons]
      simp [ofLast]

end CombatReading

/-! ## the card of a unit -/

namespace CombatEntry

variable (es : List (CombatEntry V))

theorem flatten_sections : (sections es).flatten = es := List.flatten_splitBy _ _

theorem filterMap_value?_lines (id : Nat) (said : List CombatLine) :
    (said.map (line (V := V) id)).filterMap value? = [] := by
  rw [List.filterMap_map]
  exact List.filterMap_eq_nil_iff.mpr fun _ _ => rfl

theorem filterMap_value?_entries (u : RenderUnit V) :
    u.entries.filterMap value? = u.rest.filterMap Member.value? := by
  unfold RenderUnit.entries
  rw [List.filterMap_append, filterMap_value?_lines, List.nil_append]
  induction u.rest with
  | nil => rfl
  | cons m ms ih =>
    rw [List.map_cons, List.flatten_cons, List.filterMap_append, ih]
    cases m with
    | own id b => exact congrArg (· ++ _) (filterMap_value?_lines id _)
    | folded id value => rfl

theorem kept_sublist : (kept es).Sublist (es.filterMap value?) := by
  have hsub : ((sections es).filter fun s => (CombatSection.on? s).isSome).flatten.Sublist
      (sections es).flatten := List.filter_sublist.flatten
  rw [flatten_sections] at hsub
  exact hsub.filterMap _

theorem children_fight (names : Text) : (fight names es).events.flatMap (·.children) = kept es := by
  show ((sections es).filterMap CombatSection.event?).flatMap (·.children) = kept es
  unfold kept
  induction sections es with
  | nil => rfl
  | cons s ss ih =>
    cases hon : CombatSection.on? s with
    | none =>
      have hevent : CombatSection.event? s = none := by rw [CombatSection.event?, hon, Option.map_none]
      rw [List.filterMap_cons_none hevent, ih, List.filter_cons_of_neg (by simp [hon])]
    | some on =>
      have hevent : CombatSection.event? s = some ⟨on, s.filterMap value?⟩ := by
        rw [CombatSection.event?, hon, Option.map_some]
      rw [List.filterMap_cons_some hevent, List.flatMap_cons, ih,
        List.filter_cons_of_pos (by simp [hon]), List.flatten_cons, List.filterMap_append]

end CombatEntry

/-- what a header says after the mark of a combat card; without the mark, all of it -/
def Line.AfterMark (header names : Text) : Prop :=
  header = ("_combat_" : Text) ++ names ∨ ¬("_combat_" : Text) <+: header ∧ names = header

theorem Line.AfterMark.unique {header names names' : Text} (h : AfterMark header names)
    (h' : AfterMark header names') : names = names' := by
  rcases h with rfl | ⟨hno, rfl⟩
  · rcases h' with h' | ⟨hno, _⟩
    · exact List.append_cancel_left h'
    · exact absurd (List.prefix_append _ _) hno
  · rcases h' with rfl | ⟨_, rfl⟩
    · exact absurd (List.prefix_append _ _) hno
    · rfl

theorem Line.AfterMark.headerEnemies_eq {header names : Text} (h : AfterMark header names) :
    CombatReading.headerEnemies header = names.names := by
  have hnames : (Text.dropPrefix? Line.combatMark header).getD header = names := by
    rcases h with h | ⟨hno, rfl⟩
    · have hmark : Text.dropPrefix? Line.combatMark header = some names :=
        Text.dropPrefix?_eq_some_iff.mpr h
      rw [hmark, Option.getD_some]
    · have hmark : Text.dropPrefix? Line.combatMark names = none :=
        Text.dropPrefix?_eq_none_iff.mpr hno
      rw [hmark, Option.getD_none]
  unfold CombatReading.headerEnemies
  rw [hnames]
  rfl

theorem Line.exists_afterMark (header : Text) : ∃ names, Line.AfterMark header names := by
  by_cases h : ("_combat_" : Text) <+: header
  · obtain ⟨names, rfl⟩ := h
    exact ⟨names, Or.inl rfl⟩
  · exact ⟨header, Or.inr ⟨h, rfl⟩⟩

/-- what is read from a unit, before its enemies are counted -/
theorem CombatReading.ofUnit_sections (u : RenderUnit V) {names : Text}
    (hnames : Line.AfterMark (u.anchor.lines.head?.getD []) names) :
    (ofUnit u).card = CombatEntry.fight names u.entries ∧
      (ofUnit u).log = (CombatEntry.sections u.entries).flatMap CombatSection.log := by
  have htail : ∀ s ∈ CombatEntry.sections u.entries, ∀ e ∈ s.tail, e.isChoice = false :=
    fun s hs e he => Bool.not_eq_true' _ ▸ tail_of_mem_splitBy hs e he
  have hhead : ∀ s ∈ (CombatEntry.sections u.entries).tail, ∃ e ∈ s.head?, e.isChoice := by
    intro s hs
    have hne : s ≠ [] := List.ne_nil_of_mem_splitBy (List.mem_of_mem_tail hs)
    refine ⟨s.head hne, List.head?_eq_some_head hne, ?_⟩
    exact Bool.not_eq_false' _ ▸ head?_of_mem_tail_splitBy hs _ (List.head?_eq_some_head hne)
  have hheader : (u.anchor.lines.head?.map headerEnemies).getD [] = names.names := by
    rw [← hnames.headerEnemies_eq]
    cases u.anchor.lines.head? with
    | some header => rfl
    | none => decide
  have hfold := foldl_sections htail hhead ⟨⟨names.names, []⟩, false, []⟩ (Or.inl rfl)
  rw [CombatEntry.flatten_sections] at hfold
  rw [ofUnit_eq, hheader]
  exact hfold

/-- **a combat unit**: its header and its lines name the enemies, and each choice that names an event
gives one, with the values up to the next choice; the messages are those about its entries, in order,
and then one (430) if there are no enemies -/
theorem CardFormat.unit_combat (f : CardFormat V) (u : RenderUnit V) :
    ∃ names es, Line.AfterMark (u.anchor.lines.head?.getD []) names ∧ CombatEntry.OfUnit u es ∧
      (∀ names' es', Line.AfterMark (u.anchor.lines.head?.getD []) names' →
        CombatEntry.OfUnit u es' → names' = names ∧ es' = es) ∧
      f.renderer.unit .combat u = (f.combat (CombatEntry.fight names es),
        (CombatEntry.sections es).flatMap CombatSection.log ++
          if (CombatEntry.fight names es).enemies = [] then
            [⟨.error, 430, Problem.noEnemies.message, [u.anchorId]⟩] else []) ∧
      (CombatEntry.fight names es).events.flatMap (·.children) = CombatEntry.kept es ∧
      (CombatEntry.kept es).Sublist (u.rest.filterMap Member.value?) := by
  obtain ⟨names, hnames⟩ := Line.exists_afterMark (u.anchor.lines.head?.getD [])
  obtain ⟨hcard, hlog⟩ := CombatReading.ofUnit_sections u hnames
  refine ⟨names, u.entries, hnames, CombatEntry.ofUnit_iff.mpr rfl, ?_, ?_,
    CombatEntry.children_fight _ names, ?_⟩
  · intro names' es' hnames' hes'
    exact ⟨Line.AfterMark.unique hnames' hnames, CombatEntry.ofUnit_iff.mp hes'⟩
  · show (f.combat (CombatReading.ofUnit u).card, (CombatReading.ofUnit u).log ++
      if (CombatReading.ofUnit u).card.enemies.isEmpty then _ else _) = _
    rw [hcard, hlog]
    simp only [List.isEmpty_iff]
    rfl
  · rw [← CombatEntry.filterMap_value?_entries]
    exact CombatEntry.kept_sublist _

end QuestScript
