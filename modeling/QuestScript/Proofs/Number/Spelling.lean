import QuestScript.Number.Numeral
import Mathlib.Data.List.Basic
import Mathlib.Data.List.TakeWhile

/-!
# How a numeral is spelled

A numeral is spelled with a sign or none, with digits, among which there may be a point, and with a
power of ten or none.

* `Numeral.IsSign`, `Numeral.IsPower`  the ends of a numeral;
* `Numeral.Spells`                   the whole of it, and the number that it is;
* `Numeral.exponent?_eq_some_iff`    the power of ten that is read;
* `Numeral.ofText?_eq_some_iff`      the numeral that is read.
-/

namespace QuestScript.Numeral

/-- a sign, or none -/
inductive IsSign : Text → Bool → Prop
  | minus : IsSign ['-'] true
  | plus : IsSign ['+'] false
  | none : IsSign [] false

/-- a power of ten, or none: `e`, a sign or none, and digits -/
inductive IsPower : Text → Int → Prop
  | none : IsPower [] 0
  | power {mark : Char} {sign ds : Text} {negative : Bool} (hmark : mark = 'e' ∨ mark = 'E')
      (hsign : IsSign sign negative) (hne : ds ≠ []) (hds : ∀ c ∈ ds, c.isDigit = true) :
      IsPower (mark :: (sign ++ ds))
        (if negative then -(Nat.ofDigitChars 10 ds 0 : Int) else Nat.ofDigitChars 10 ds 0)

/-- a text that is a numeral, and what it is: each digit after a point makes it ten times smaller -/
inductive Spells : Text → Numeral → Prop
  | whole {sign ds power : Text} {negative : Bool} {e : Int} (hsign : IsSign sign negative)
      (hne : ds ≠ []) (hds : ∀ c ∈ ds, c.isDigit = true) (hpower : IsPower power e) :
      Spells (sign ++ (ds ++ power)) ⟨negative, Nat.ofDigitChars 10 ds 0, e⟩
  | point {sign ds ds' power : Text} {negative : Bool} {e : Int} (hsign : IsSign sign negative)
      (hne : ds ++ ds' ≠ []) (hds : ∀ c ∈ ds ++ ds', c.isDigit = true) (hpower : IsPower power e) :
      Spells (sign ++ (ds ++ '.' :: (ds' ++ power)))
        ⟨negative, Nat.ofDigitChars 10 (ds ++ ds') 0, e - ds'.length⟩

/-! ## signs and digits -/

theorem exists_of_splitSign {t rest : Text} {negative : Bool} (h : splitSign t = (negative, rest)) :
    ∃ sign, IsSign sign negative ∧ t = sign ++ rest := by
  unfold splitSign at h
  split at h <;> obtain ⟨rfl, rfl⟩ := Prod.mk.inj h
  · exact ⟨_, .minus, rfl⟩
  · exact ⟨_, .plus, rfl⟩
  · exact ⟨_, .none, rfl⟩

theorem splitSign_append {sign t : Text} {negative : Bool} (h : IsSign sign negative)
    (ht : ∀ c ∈ t.head?, c ≠ '-' ∧ c ≠ '+') : splitSign (sign ++ t) = (negative, t) := by
  cases h with
  | minus => rfl
  | plus => rfl
  | none =>
    rw [List.nil_append]
    unfold splitSign
    split
    · exact absurd rfl (ht '-' rfl).1
    · exact absurd rfl (ht '+' rfl).2
    · rfl

theorem ne_sign_of_isDigit {c : Char} (h : c.isDigit = true) : c ≠ '-' ∧ c ≠ '+' := by
  constructor <;> rintro rfl <;> exact absurd h (by decide)

section
variable {ds rest : Text} (hds : ∀ c ∈ ds, c.isDigit = true)
  (hrest : ∀ c ∈ rest.head?, c.isDigit = false)
include hds

theorem ne_sign_of_head? (hne : ds ≠ []) : ∀ c ∈ (ds ++ rest).head?, c ≠ '-' ∧ c ≠ '+' := by
  intro c hc
  rw [List.head?_append_of_ne_nil _ hne] at hc
  exact ne_sign_of_isDigit (hds c (List.mem_of_mem_head? hc))

include hrest

theorem takeWhile_digits : (ds ++ rest).takeWhile Char.isDigit = ds := by
  rw [List.takeWhile_append_of_pos hds]
  cases rest with
  | nil => simp
  | cons c rest => rw [List.takeWhile_cons_of_neg (by simp [hrest c rfl]), List.append_nil]

theorem dropWhile_digits : (ds ++ rest).dropWhile Char.isDigit = rest := by
  rw [List.dropWhile_append_of_pos hds]
  cases rest with
  | nil => rfl
  | cons c rest => rw [List.dropWhile_cons_of_neg (by simp [hrest c rfl])]

end

/-! ## the power of ten -/

/-- **the power of ten** is read as it is spelled -/
theorem exponent?_eq_some_iff {t : Text} {e : Int} : exponent? t = some e ↔ IsPower t e := by
  constructor
  · intro h
    cases t with
    | nil =>
      obtain rfl := Option.some.inj h
      exact .none
    | cons c t =>
      rw [exponent?] at h
      split at h
      · next hmark =>
        cases hsplit : splitSign t with
        | mk negative ds =>
          obtain ⟨sign, hsign, rfl⟩ := exists_of_splitSign hsplit
          rw [hsplit] at h
          dsimp only at h
          split at h
          · cases h
          · next hdigits =>
            obtain rfl := Option.some.inj h
            simp at hmark hdigits
            exact .power hmark hsign hdigits.1 hdigits.2
      · cases h
  · rintro (_ | @⟨mark, sign, ds, negative, hmark, hsign, hne, hds⟩)
    · rfl
    · have hhead : ∀ c ∈ ds.head?, c ≠ '-' ∧ c ≠ '+' := fun c hc =>
        ne_sign_of_isDigit (hds c (List.mem_of_mem_head? hc))
      have hmark : (mark == 'e' || mark == 'E') = true := by simpa using hmark
      have hdigits : (ds.isEmpty || !ds.all Char.isDigit) = false := by simpa using ⟨hne, hds⟩
      rw [exponent?, if_pos hmark, splitSign_append hsign hhead]
      dsimp only
      rw [hdigits]
      rfl

theorem mark_of_isPower {power : Text} {e : Int} (h : IsPower power e) :
    ∀ c ∈ power.head?, c = 'e' ∨ c = 'E' := by
  intro c hc
  cases h with
  | none => cases hc
  | power hmark =>
    obtain rfl := Option.some.inj hc
    exact hmark

theorem not_isDigit_of_isPower {power : Text} {e : Int} (h : IsPower power e) :
    ∀ c ∈ power.head?, c.isDigit = false := by
  intro c hc
  rcases mark_of_isPower h c hc with rfl | rfl <;> decide

/-! ## a numeral -/

/-- the digits after a point, if there is one, and what follows them -/
def splitPoint : Text → Text × Text
  | '.' :: t => (t.takeWhile Char.isDigit, t.dropWhile Char.isDigit)
  | t => ([], t)

theorem ofText?_eq {t t' : Text} {negative : Bool} (h : splitSign t = (negative, t')) :
    ofText? t =
      let ds := t'.takeWhile Char.isDigit
      let ds' := (splitPoint (t'.dropWhile Char.isDigit)).1
      if ds.isEmpty && ds'.isEmpty then none
      else (exponent? (splitPoint (t'.dropWhile Char.isDigit)).2).map fun e =>
        ⟨negative, ofDigits (ds ++ ds'), e - ds'.length⟩ := by
  unfold ofText?
  rw [h]
  rfl

theorem cut_digits (t : Text) : (∀ c ∈ t.takeWhile Char.isDigit, c.isDigit = true) ∧
    t.takeWhile Char.isDigit ++ t.dropWhile Char.isDigit = t :=
  ⟨fun _ hc => List.mem_takeWhile_imp hc, List.takeWhile_append_dropWhile⟩

theorem splitPoint_cases (t : Text) :
    (∃ rest, t = '.' :: rest ∧
      splitPoint t = (rest.takeWhile Char.isDigit, rest.dropWhile Char.isDigit)) ∨
    splitPoint t = ([], t) := by
  unfold splitPoint
  split
  · exact Or.inl ⟨_, rfl, rfl⟩
  · exact Or.inr rfl

theorem splitPoint_of_isPower {power : Text} {e : Int} (h : IsPower power e) :
    splitPoint power = ([], power) := by
  refine (splitPoint_cases power).resolve_left ?_
  rintro ⟨rest, rfl, _⟩
  have := mark_of_isPower h '.' rfl
  exact absurd this (by decide)

theorem spells_of_ofText? {t : Text} {n : Numeral} (h : ofText? t = some n) : Spells t n := by
  cases hsplit : splitSign t with
  | mk negative t =>
    obtain ⟨sign, hsign, rfl⟩ := exists_of_splitSign hsplit
    rw [ofText?_eq hsplit] at h
    obtain ⟨hds, ht⟩ := cut_digits t
    generalize t.takeWhile Char.isDigit = ds, t.dropWhile Char.isDigit = rest at h hds ht
    subst ht
    rcases splitPoint_cases rest with ⟨rest, rfl, hpoint⟩ | hpoint
    · obtain ⟨hds', ht⟩ := cut_digits rest
      rw [hpoint] at h
      generalize rest.takeWhile Char.isDigit = ds', rest.dropWhile Char.isDigit = power at h hds' ht
      subst ht
      dsimp only at h
      split at h
      · cases h
      · next hne =>
        obtain ⟨e, hpower, rfl⟩ := Option.map_eq_some_iff.mp h
        exact .point hsign (by simpa using hne) (List.forall_mem_append.mpr ⟨hds, hds'⟩)
          (exponent?_eq_some_iff.mp hpower)
    · rw [hpoint] at h
      dsimp only at h
      split at h
      · cases h
      · next hne =>
        obtain ⟨e, hpower, rfl⟩ := Option.map_eq_some_iff.mp h
        rw [List.append_nil, List.length_nil, Int.ofNat_zero, Int.sub_zero]
        exact .whole hsign (by simpa using hne) hds (exponent?_eq_some_iff.mp hpower)

theorem ofText?_of_spells {t : Text} {n : Numeral} (h : Spells t n) : ofText? t = some n := by
  cases h with
  | @whole sign ds power negative e hsign hne hds hpower =>
    have hend := not_isDigit_of_isPower hpower
    have hhead : ∀ c ∈ (ds ++ power).head?, c ≠ '-' ∧ c ≠ '+' := ne_sign_of_head? hds hne
    have hsplit := splitSign_append hsign hhead
    have hempty : (ds.isEmpty && ([] : Text).isEmpty) = false := by simpa using hne
    rw [ofText?_eq hsplit, takeWhile_digits hds hend, dropWhile_digits hds hend,
      splitPoint_of_isPower hpower, exponent?_eq_some_iff.mpr hpower]
    dsimp only
    rw [hempty, List.append_nil]
    show some (⟨negative, ofDigits ds, e - 0⟩ : Numeral) = _
    rw [Int.sub_zero]
    rfl
  | @point sign ds ds' power negative e hsign hne hds hpower =>
    obtain ⟨hds, hds'⟩ := List.forall_mem_append.mp hds
    have hend := not_isDigit_of_isPower hpower
    have hstop : ∀ c ∈ ('.' :: (ds' ++ power)).head?, c.isDigit = false := by simp
    have hsplit : splitSign (sign ++ (ds ++ '.' :: (ds' ++ power))) =
        (negative, ds ++ '.' :: (ds' ++ power)) := by
      refine splitSign_append hsign ?_
      cases ds with
      | nil => simp
      | cons d ds => exact ne_sign_of_head? hds (List.cons_ne_nil d ds)
    have hpoint : splitPoint ('.' :: (ds' ++ power)) = (ds', power) := by
      show ((ds' ++ power).takeWhile Char.isDigit, (ds' ++ power).dropWhile Char.isDigit) = _
      rw [takeWhile_digits hds' hend, dropWhile_digits hds' hend]
    have hempty : (ds.isEmpty && ds'.isEmpty) = false := by simpa using hne
    rw [ofText?_eq hsplit, takeWhile_digits hds hstop, dropWhile_digits hds hstop, hpoint,
      exponent?_eq_some_iff.mpr hpower]
    dsimp only
    rw [hempty]
    rfl

/-- **a text** is read as the numeral that it spells -/
theorem ofText?_eq_some_iff {t : Text} {n : Numeral} : ofText? t = some n ↔ Spells t n :=
  ⟨spells_of_ofText?, ofText?_of_spells⟩

end QuestScript.Numeral
