import QuestScript.Text.Basic

/-!
# Decimal numerals

`Numeral.ofText?` reads a decimal numeral: an optional sign, digits with at most one point among
them, an optional power of ten.  `Numeral.whole?` gives its whole part.

A numeral stands for the nearest number with a mantissa of 53 bits and an exponent between -1074
and 971, of two such numbers the one with the even mantissa; the fraction of that number is cut
off, and the result is kept within 64 signed bits.  A numeral beyond the largest such number has no
whole part.
-/

namespace QuestScript

/-- the number `± digits * 10 ^ exponent` as it was written -/
structure Numeral where
  negative : Bool
  digits : Nat
  exponent : Int
deriving DecidableEq, Repr

namespace Numeral

/-! ## reading -/

/-- the digit of a character -/
def digit (c : Char) : Nat := c.toNat - '0'.toNat

/-- the number with the given digits, most significant first -/
def ofDigits (ds : Text) : Nat := ds.foldl (fun n c => 10 * n + digit c) 0

/-- a sign, if there is one, and what follows it -/
def splitSign : Text → Bool × Text
  | '-' :: t => (true, t)
  | '+' :: t => (false, t)
  | t => (false, t)

/-- the power of ten that follows the digits: nothing, or `e` and a signed number -/
def exponent? : Text → Option Int
  | [] => some 0
  | c :: t =>
    if c == 'e' || c == 'E' then
      let (negative, ds) := splitSign t
      if ds.isEmpty || !ds.all Char.isDigit then none
      else some (if negative then -(ofDigits ds : Int) else ofDigits ds)
    else none

/-- reads a decimal numeral; the whole text has to be one -/
def ofText? (t : Text) : Option Numeral :=
  let (negative, t) := splitSign t
  let whole := t.takeWhile Char.isDigit
  let rest := t.dropWhile Char.isDigit
  let (fraction, rest) :=
    match rest with
    | '.' :: r => (r.takeWhile Char.isDigit, r.dropWhile Char.isDigit)
    | r => ([], r)
  if whole.isEmpty && fraction.isEmpty then none
  else
    (exponent? rest).map fun e =>
      ⟨negative, ofDigits (whole ++ fraction), e - fraction.length⟩

/-! ## the nearest number -/

/-- `num / den` to the nearest whole number, a half to the even neighbour -/
def roundHalfEven (num den : Nat) : Nat :=
  let q := num / den
  let r := num % den
  if 2 * r > den || (2 * r == den && q % 2 == 1) then q + 1 else q

/-- the exponent at which `num / den` has a mantissa of 53 bits, or the least exponent there is -/
def binaryExponent (num den : Nat) : Int :=
  let b : Int := (Nat.log2 num : Int) - Nat.log2 den
  let reaches : Bool :=
    if 0 ≤ b then den * Nat.pow 2 b.toNat ≤ num else den ≤ num * Nat.pow 2 (-b).toNat
  max (-1074) ((if reaches then b else b - 1) - 52)

/-- the whole part of the number nearest to `num / den`, unless that is beyond all of them -/
def wholeNearest? (num den : Nat) : Option Nat :=
  let e := binaryExponent num den
  if 0 ≤ e then
    let n := roundHalfEven num (den * Nat.pow 2 e.toNat) * Nat.pow 2 e.toNat
    if n < Nat.pow 2 1024 then some n else none
  else
    some (roundHalfEven (num * Nat.pow 2 (-e).toNat) den / Nat.pow 2 (-e).toNat)

/-- the whole part of the size of the numeral; powers of ten far outside the range of the nearest
numbers are not worked out -/
def magnitude? (n : Numeral) : Option Nat :=
  if n.digits == 0 then some 0
  else
    let point : Int := (Text.ofNat n.digits).length + n.exponent
    if point > 320 then none
    else if point < -340 then some 0
    else if 0 ≤ n.exponent then wholeNearest? (n.digits * Nat.pow 10 n.exponent.toNat) 1
    else wholeNearest? n.digits (Nat.pow 10 (-n.exponent).toNat)

/-- one more than the largest integer of 64 signed bits -/
def bound : Nat := Nat.pow 2 63

/-- an integer kept within 64 signed bits -/
def clamp (i : Int) : Int := max (-bound) (min (bound - 1) i)

/-- the whole part of a numeral -/
def whole? (n : Numeral) : Option Int :=
  n.magnitude?.map fun m => clamp (if n.negative then -(m : Int) else m)

end Numeral

end QuestScript
