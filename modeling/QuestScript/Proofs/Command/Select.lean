import QuestScript.Command.Test
import QuestScript.Proofs.Command.Category
import Mathlib.Data.Char
import Mathlib.Data.List.Infix
import Mathlib.Data.List.Lex

/-!
# Selecting request by request

The requests can be gone through one by one: what a request means is put into a map, and if the map
has not grown, there is a warning.  So a warning depends on the requests before it.  The map that is
left has the categories that some request means, and a request is warned about just if every category
that it means is meant by an earlier request too.

* `Categories.IsMap`                    categories in order, none of them twice;
* `Categories.put`, `Categories.Selection`  the map, and the loop over the requests;
* `Categories.put_filter`               putting a category into a part of a map;
* `Categories.foldl_next`               what the loop leaves behind, by a step for each request;
* `Categories.missed_eq`                the warnings;
* `Categories.select_request_by_request`  what is selected and what is printed.
-/

namespace QuestScript.Categories

/-! ## maps -/

/-- categories in ascending order, none of them twice -/
def IsMap (all : Categories) : Prop := all.Pairwise fun x y => x.1 < y.1

/-! ## the loop over the requests -/

/-- sets the tests of a category -/
def put (x : Text × List TestFile) : Categories → Categories
  | [] => [x]
  | y :: m =>
    if x.1 = y.1 then x :: m
    else if Text.before x.1 y.1 then x :: y :: m
    else y :: put x m

structure Selection where
  selected : Categories
  warned : List Text

/-- goes on with a request -/
def Selection.next (all : Categories) (s : Selection) (request : Text) : Selection :=
  let selected := (all.filter fun x => isIn request x.1).foldl (fun m x => put x m) s.selected
  ⟨selected, if selected.length = s.selected.length then s.warned ++ [request] else s.warned⟩

/-- goes through the requests; all categories are selected if there is none -/
def selection (all : Categories) (requests : List Text) : Selection :=
  if requests.isEmpty then ⟨all, []⟩ else requests.foldl (Selection.next all) ⟨[], []⟩

/-! ## parts of a map -/

theorem put_of_lt {x : Text × List TestFile} {m : Categories} (h : ∀ y ∈ m, x.1 < y.1) :
    put x m = x :: m := by
  cases m with
  | nil => rfl
  | cons y m =>
    have hlt := h y List.mem_cons_self
    have hbefore : Text.before x.1 y.1 = true := decide_eq_true hlt
    rw [put, if_neg hlt.ne, if_pos hbefore]

/-- a part of a list grows just if an element is new in it -/
theorem length_filter_or_eq_iff {α : Type} (l : List α) (p q : α → Bool) :
    (l.filter fun x => p x || q x).length = (l.filter p).length ↔
      (l.any fun x => q x && !p x) = false := by
  have hsub : (l.filter p).Sublist (l.filter fun x => p x || q x) :=
    List.monotone_filter_right l fun x hx => by simp [hx]
  rw [List.any_eq_false]
  constructor
  · intro hlength x hx hnew
    have hsame := hsub.eq_of_length hlength.symm
    obtain ⟨hq, hp⟩ : q x = true ∧ p x = false := by simpa using hnew
    have hmem : x ∈ l.filter fun x => p x || q x := List.mem_filter.mpr ⟨hx, by simp [hq]⟩
    rw [← hsame] at hmem
    simp [hp] at hmem
  · intro hold
    refine congrArg List.length (List.filter_congr fun x hx => ?_)
    have := hold x hx
    cases hp : p x <;> simp_all

section
variable {all : Categories} (hall : all.IsMap)
include hall

/-- a category of a map that is put into a part of the map -/
theorem put_filter {x : Text × List TestFile} (hx : x ∈ all) (p : Text → Bool) :
    put x (all.filter fun y => p y.1) = all.filter fun y => p y.1 || x.1 == y.1 := by
  induction all with
  | nil => cases hx
  | cons a all ih =>
    obtain ⟨hlt, hrest⟩ := List.pairwise_cons.mp hall
    rcases List.mem_cons.mp hx with rfl | hx
    · -- no other category is the one that is put
      have hother : (all.filter fun y => p y.1 || x.1 == y.1) = all.filter fun y => p y.1 := by
        refine List.filter_congr fun y hy => ?_
        rw [beq_false_of_ne (hlt y hy).ne, Bool.or_false]
      have hbelow : ∀ y ∈ all.filter (fun y => p y.1), x.1 < y.1 := fun y hy =>
        hlt y (List.mem_of_mem_filter hy)
      have hself : (p x.1 || x.1 == x.1) = true := by simp
      rw [List.filter_cons, List.filter_cons, hother, if_pos hself]
      by_cases hp : p x.1 = true
      · rw [if_pos hp, put, if_pos rfl]
      · rw [if_neg hp, put_of_lt hbelow]
    · have hax := hlt x hx
      have hbefore : ¬Text.before x.1 a.1 = true := fun h => hax.not_gt (of_decide_eq_true h)
      have hfirst : (p a.1 || x.1 == a.1) = p a.1 := by
        rw [beq_false_of_ne hax.ne', Bool.or_false]
      rw [List.filter_cons, List.filter_cons, hfirst]
      by_cases hp : p a.1 = true
      · rw [if_pos hp, if_pos hp, put, if_neg hax.ne', if_neg hbefore, ih hrest hx]
      · rw [if_neg hp, if_neg hp, ih hrest hx]

theorem foldl_put_filter {l : Categories} (hl : l ⊆ all) : ∀ p : Text → Bool,
    l.foldl (fun m x => put x m) (all.filter fun y => p y.1) =
      all.filter fun y => p y.1 || l.any fun x => x.1 == y.1 := by
  induction l with
  | nil => simp
  | cons x l ih =>
    intro p
    obtain ⟨hx, hl⟩ := List.cons_subset.mp hl
    rw [List.foldl_cons, put_filter hall hx, ih hl fun c => p c || x.1 == c]
    simp [Bool.or_assoc]

/-- what a request means is put into a part of the map -/
theorem foldl_put_meant (p : Text → Bool) (request : Text) :
    (all.filter fun x => isIn request x.1).foldl (fun m x => put x m) (all.filter fun x => p x.1) =
      all.filter fun x => p x.1 || isIn request x.1 := by
  rw [foldl_put_filter hall (List.filter_subset_self _)]
  refine List.filter_congr fun y hy => congrArg (p y.1 || ·) ?_
  rw [Bool.eq_iff_iff, List.any_eq_true]
  constructor
  · rintro ⟨x, hx, heq⟩
    exact eq_of_beq heq ▸ (List.mem_filter.mp hx).2
  · exact fun h => ⟨y, List.mem_filter.mpr ⟨hy, h⟩, beq_self_eq_true _⟩

/-- **one request**: what it means is added, and there is a warning if nothing of that is new -/
theorem next_filter (p : Text → Bool) (warned : List Text) (request : Text) :
    Selection.next all ⟨all.filter fun x => p x.1, warned⟩ request =
      ⟨all.filter fun x => p x.1 || isIn request x.1,
        warned ++ if all.any fun x => isIn request x.1 && !p x.1 then [] else [request]⟩ := by
  have hgrows := length_filter_or_eq_iff all (fun x => p x.1) fun x => isIn request x.1
  unfold Selection.next
  rw [foldl_put_meant hall]
  dsimp only
  by_cases hnew : (all.any fun x => isIn request x.1 && !p x.1) = true
  · rw [if_neg (by simp [hgrows, hnew]), if_pos hnew, List.append_nil]
  · rw [if_pos (hgrows.mpr (Bool.eq_false_iff.mpr hnew)), if_neg hnew]

/-- **the loop** after the requests `earlier` -/
theorem foldl_next (requests : List Text) : ∀ earlier warned : List Text,
    requests.foldl (Selection.next all) ⟨all.filter fun x => earlier.any (isIn · x.1), warned⟩ =
      ⟨all.filter fun x => (earlier ++ requests).any (isIn · x.1),
        warned ++ all.missed earlier requests⟩ := by
  induction requests with
  | nil => simp [missed]
  | cons request requests ih =>
    intro earlier warned
    have hearlier : (fun x : Text × List TestFile =>
        earlier.any (isIn · x.1) || isIn request x.1) =
          fun x => (earlier ++ [request]).any (isIn · x.1) := by
      funext x
      simp
    rw [List.foldl_cons, next_filter hall fun c => earlier.any (isIn · c), hearlier, ih, missed]
    dsimp only
    split <;> simp

theorem selection_eq (requests : List Text) :
    all.selection requests = ⟨all.select requests, all.missed [] requests⟩ := by
  unfold selection select
  split
  · next h =>
    rw [List.isEmpty_iff.mp h]
    rfl
  · have hloop := foldl_next hall requests [] []
    simpa using hloop

end

/-! ## the warnings -/

/-- a requested name, without the slashes around it, is a category or above it -/
def Names (request category : Text) : Prop :=
  category = trimRequest request ∨ trimRequest request ++ ['/'] <+: category

instance (request category : Text) : Decidable (Names request category) :=
  inferInstanceAs (Decidable (_ ∨ _))

theorem isIn_iff {request category : Text} :
    isIn (trimRequest request) category = true ↔ Names request category := by
  simp [isIn, Names, Text.startsWith_iff]

/-- every category that a request means is meant by an earlier one -/
def AddsNothing (all : Categories) (earlier : List Text) (request : Text) : Prop :=
  ∀ x ∈ all, Names request x.1 → ∃ r ∈ earlier, Names r x.1

instance (all : Categories) (earlier : List Text) (request : Text) :
    Decidable (AddsNothing all earlier request) :=
  inferInstanceAs (Decidable (∀ x ∈ all, _))

/-- each request with those before it -/
def withEarlier (requests : List Text) : List (List Text × Text) := requests.inits.zip requests

theorem withEarlier_cons (request : Text) (requests : List Text) :
    withEarlier (request :: requests) =
      ([], request) :: (withEarlier requests).map fun p => (request :: p.1, p.2) := by
  unfold withEarlier
  rw [List.inits_cons, List.zip_cons_cons, List.zip_map_left]
  rfl

theorem map_snd_withEarlier (requests : List Text) :
    (withEarlier requests).map Prod.snd = requests :=
  List.map_snd_zip (by simp)

theorem exists_of_mem_withEarlier {requests : List Text} : ∀ {p : List Text × Text},
    p ∈ withEarlier requests → ∃ later, requests = p.1 ++ p.2 :: later := by
  induction requests with
  | nil => simp [withEarlier]
  | cons request requests ih =>
    intro p hp
    rw [withEarlier_cons, List.mem_cons, List.mem_map] at hp
    rcases hp with rfl | ⟨q, hq, rfl⟩
    · exact ⟨requests, rfl⟩
    · obtain ⟨later, hlater⟩ := ih hq
      exact ⟨later, congrArg (request :: ·) hlater⟩

theorem any_isNew_iff {all : Categories} {earlier : List Text} {request : Text} :
    (all.any fun x => isIn (trimRequest request) x.1 &&
      !(earlier.map trimRequest).any (isIn · x.1)) = true ↔ ¬AddsNothing all earlier request := by
  simp [AddsNothing, isIn_iff]

theorem missed_eq (all : Categories) (requests : List Text) : ∀ earlier : List Text,
    all.missed (earlier.map trimRequest) (requests.map trimRequest) =
      ((withEarlier requests).filter fun p => AddsNothing all (earlier ++ p.1) p.2).map
        fun p => trimRequest p.2 := by
  induction requests with
  | nil => exact fun _ => rfl
  | cons request requests ih =>
    intro earlier
    specialize ih (earlier ++ [request])
    rw [List.map_append, List.map_singleton] at ih
    rw [List.map_cons, missed, withEarlier_cons]
    dsimp only
    rw [ih, List.filter_cons, List.append_nil, List.filter_map, apply_ite (List.map _)]
    simp only [any_isNew_iff, List.map_cons, List.map_map, ite_not, decide_eq_true_eq]
    simp [Function.comp_def]

/-- where no category is meant twice, the requests that mean nothing are warned about -/
theorem missed_of_disjoint {all : Categories} {requests : List Text}
    (h : requests.Pairwise fun r r' => ∀ x ∈ all, Names r x.1 → ¬Names r' x.1) :
    all.missed [] (requests.map trimRequest) =
      (requests.filter fun request => ∀ x ∈ all, ¬Names request x.1).map trimRequest := by
  have hnothing : ∀ p ∈ withEarlier requests,
      (AddsNothing all p.1 p.2 ↔ ∀ x ∈ all, ¬Names p.2 x.1) := by
    intro p hp
    obtain ⟨later, hlater⟩ := exists_of_mem_withEarlier hp
    rw [hlater] at h
    refine forall₂_congr fun x hx => ⟨fun hadds hnames => ?_, fun hnot hnames => absurd hnames hnot⟩
    obtain ⟨r, hr, hnames'⟩ := hadds hnames
    exact (List.pairwise_append.mp h).2.2 r hr p.2 List.mem_cons_self x hx hnames' hnames
  have hfilter : (withEarlier requests).filter (fun p => decide (AddsNothing all p.1 p.2)) =
      (withEarlier requests).filter ((fun request => decide (∀ x ∈ all, ¬Names request x.1)) ∘
        Prod.snd) :=
    List.filter_congr fun p hp => decide_eq_decide.mpr (hnothing p hp)
  have hmissed := missed_eq all requests []
  simp only [List.nil_append] at hmissed
  rw [List.map_nil] at hmissed
  calc all.missed [] (requests.map trimRequest)
      = (((withEarlier requests).filter fun p => decide (AddsNothing all p.1 p.2)).map
          Prod.snd).map trimRequest := by rw [hmissed, List.map_map]; rfl
    _ = _ := by rw [hfilter, ← List.filter_map, map_snd_withEarlier]

/-- **What is selected and what is printed.**  Going through the requests one by one, putting what
each means into a map, gives the categories that are selected: those that some request means, each with
its own tests, or all of them if nothing is requested.  The warnings are those of the requests that let
the map be as it was: every category that such a request means is meant by a request before it.  Where
no category is meant by two requests, these are the requests that mean no category.  The warnings are
printed before all else. -/
theorem select_request_by_request {all : Categories} (hall : all.IsMap) (requests : List Text) :
    let trimmed := requests.map trimRequest
    let warned := all.missed [] trimmed
    all.selection trimmed = ⟨all.select trimmed, warned⟩ ∧
    (all.select trimmed).Sublist all ∧
    (∀ x, x ∈ all.select trimmed ↔
      x ∈ all ∧ (requests = [] ∨ ∃ request ∈ requests, Names request x.1)) ∧
    warned = ((withEarlier requests).filter fun p => AddsNothing all p.1 p.2).map
      (fun p => trimRequest p.2) ∧
    ((requests.Pairwise fun r r' => ∀ x ∈ all, Names r x.1 → ¬Names r' x.1) →
      warned = (requests.filter fun request => ∀ x ∈ all, ¬Names request x.1).map trimRequest) ∧
    ∀ (o : TestOptions) (noColor : Bool), o.categories = requests → all ≠ [] →
      (o.verdictOf noColor all).2 = warned.map (TestOptions.warning all) ++
        if all.select trimmed = [] then [("no matching categories found" : Text)]
        else TestOptions.reportLines noColor (TestOptions.runAll (all.select trimmed)) := by
  intro trimmed warned
  refine ⟨selection_eq hall trimmed, select_sublist all trimmed, fun x => mem_select_iff,
    missed_eq all requests [], missed_of_disjoint, ?_⟩
  rintro o noColor rfl hne
  unfold TestOptions.verdictOf
  rw [if_neg (by simpa using hne)]
  dsimp only
  by_cases hnil : all.select trimmed = []
  · rw [if_pos (List.isEmpty_iff.mpr hnil), if_pos hnil]
  · rw [if_neg (by simpa using hnil), if_neg hnil]

/-- a category and one below it, requested in either order, and a name that is none -/
theorem select_request_by_request_of_nested :
    let all : Categories := [("a", []), ("a/b", []), ("ab", []), ("c", [])]
    let requests : List Text := ["/a/b", "a/", "a/b/", "x"]
    all.IsMap ∧ all.select (requests.map trimRequest) = [(("a" : Text), []), (("a/b" : Text), [])] ∧
      all.missed [] (requests.map trimRequest) = [("a/b" : Text), ("x" : Text)] := by
  intro all requests
  have hall : all.IsMap := by unfold IsMap; decide
  obtain ⟨_, _, _, hwarned, _⟩ := select_request_by_request hall requests
  exact ⟨hall, by decide, hwarned.trans (by decide)⟩

/-- a category that is there is said not to be found when it is requested again -/
theorem missed_of_repeated_request :
    let t : TestFile := ⟨"t/z/a.test.md", ["z", "a.test.md"], some "---\nformat = \"xml\"\n---\n# Q\n"⟩
    let all : Categories := [("z", [t])]
    let o : TestOptions := ⟨"t", ["z", "z"], false⟩
    (∀ request ∈ o.categories, ∃ x ∈ all, Names request x.1) ∧
      (o.verdictOf true all).2.head? = some "warning: category 'z' not found (available: z)".toList := by
  decide +kernel

end QuestScript.Categories
