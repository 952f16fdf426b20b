import QuestScript.Number.Numeral

/-!
# The shortest decimal of a binary number

`Numeral.shortest` writes the nearest binary number of a numeral with as few digits as tell it from
its neighbours.  Of the multiples of a power of ten only the two around the number can do so, hence
powers of ten are tried from the largest down, and the first that has such a multiple wins.  The
digits are written out in full, always with a point.
-/

namespace QuestScript.Numeral

/-- the positive number `mantissa * 2 ^ exponent` -/
structure Binary where
  mantissa : Nat
  exponent : Int
deriving DecidableEq, Repr

namespace Binary

/-- the number nearest to `num / den`, unless that is beyond all of them -/
def nearest? (num den : Nat) : Option Binary :=
  let e := binaryExponent num den
  let m := if 0 ≤ e then roundHalfEven num (den * Nat.pow 2 e.toNat)
    else roundHalfEven (num * Nat.pow 2 (-e).toNat) den
  let b : Binary := if m = Nat.pow 2 53 then ⟨Nat.pow 2 52, e + 1⟩ else ⟨m, e⟩
  if b.exponent ≤ 971 then some b else none

/-- numerator and denominator of `n * 2 ^ e` -/
def fraction (n : Nat) (e : Int) : Nat × Nat :=
  if 0 ≤ e then (n * Nat.pow 2 e.toNat, 1) else (n, Nat.pow 2 (-e).toNat)

/-- the bounds between which a decimal stands for the number, in quarters of its last place -/
def bounds (b : Binary) : Nat × Nat :=
  let m := 4 * b.mantissa
  (if b.mantissa = Nat.pow 2 52 && -1074 < b.exponent then m - 1 else m - 2, m + 2)

/-- `c * 10 ^ p` stands for the number -/
def reads (b : Binary) (c : Nat) (p : Int) : Bool :=
  let (low, high) := b.bounds
  let (ln, ld) := fraction low (b.exponent - 2)
  let (hn, hd) := fraction high (b.exponent - 2)
  let (n, d) := if 0 ≤ p then (c * Nat.pow 10 p.toNat, 1) else (c, Nat.pow 10 (-p).toNat)
  if b.mantissa % 2 = 0 then ln * d ≤ n * ld && n * hd ≤ hn * d
  else ln * d < n * ld && n * hd < hn * d

/-- the multiple of `10 ^ p` that stands for the number, the nearer one of two -/
def onGrid? (b : Binary) (p : Int) : Option (Nat × Int) :=
  let (num, den) := fraction b.mantissa b.exponent
  let (n, d) :=
    if 0 ≤ p then (num, den * Nat.pow 10 p.toNat) else (num * Nat.pow 10 (-p).toNat, den)
  let c := n / d
  let below := c > 0 && b.reads c p
  let above := b.reads (c + 1) p
  if below && above then some (if 2 * (n % d) ≤ d then c else c + 1, p)
  else if below then some (c, p)
  else if above then some (c + 1, p)
  else none

/-- a power of ten above the number -/
def power (b : Binary) : Int :=
  let (num, den) := fraction b.mantissa b.exponent
  if den ≤ num then (Text.ofNat (num / den)).length else 2 - ((Text.ofNat (den / num)).length : Int)

/-- digits and power of ten of the shortest decimal -/
def shortest (b : Binary) : Nat × Int :=
  ((List.range 20).findSome? fun (i : Nat) => b.onGrid? (b.power - i)).getD (0, 0)

end Binary

/-- the decimal `c * 10 ^ p` written out with a point -/
def writeOut (c : Nat) (p : Int) : Text :=
  let ds := Text.ofNat c
  if 0 ≤ p then ds ++ List.replicate p.toNat '0' ++ ['.', '0']
  else
    let places := (-p).toNat
    let ds := List.replicate (places + 1 - ds.length) '0' ++ ds
    ds.take (ds.length - places) ++ '.' :: ds.drop (ds.length - places)

/-- the size of a numeral as a shortest decimal; none if it is beyond the largest number -/
def shortestSize? (n : Numeral) : Option Text :=
  let point : Int := (Text.ofNat n.digits).length + n.exponent
  if n.digits = 0 || point < -340 then some ['0', '.', '0']
  else if point > 320 then none
  else
    let b := if 0 ≤ n.exponent then Binary.nearest? (n.digits * Nat.pow 10 n.exponent.toNat) 1
      else Binary.nearest? n.digits (Nat.pow 10 (-n.exponent).toNat)
    b.map fun b =>
      if b.mantissa = 0 then ['0', '.', '0']
      else
        let (c, p) := b.shortest
        writeOut c p

/-- a numeral as a shortest decimal with its sign; none if it is beyond the largest number -/
def shortest? (n : Numeral) : Option Text :=
  n.shortestSize?.map fun t => if n.negative then '-' :: t else t

end QuestScript.Numeral
