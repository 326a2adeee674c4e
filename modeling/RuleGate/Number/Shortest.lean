import RuleGate.Number.Binary64

/-!
The shortest decimal text of a number: the fewest digits that read back as the number, and of those
the ones nearest to it. The text is positional for decimal exponents from -5 to 15 and scientific
otherwise, and always shows a point or an exponent.
-/

namespace RuleGate.Binary64

/-- The digits `digits` with the value `digits * 10 ^ exponent`. -/
structure Decimal where
  digits : Nat
  exponent : Int
  deriving DecidableEq, Inhabited

/-- The numbers that round to a given one: an interval of fractions over `den`, whose ends belong to
it when the significand is even. -/
structure Interval where
  lo : Nat
  value : Nat
  hi : Nat
  den : Nat
  closed : Bool

/-- The interval of the numbers that round to `x`, for a number other than zero. Below the smallest
significand of an exponent the numbers lie twice as close. -/
def interval (x : Binary64) : Interval :=
  let closed := x.significand % 2 == 0
  let narrow := x.significand == Nat.pow 2 52 && minExponent < x.exponent
  let unit := if x.exponent < 0 then 1 else Nat.pow 2 x.exponent.toNat
  let den := 4 * (if x.exponent < 0 then Nat.pow 2 (-x.exponent).toNat else 1)
  let value := 4 * x.significand * unit
  ⟨value - (if narrow then unit else 2 * unit), value, value + 2 * unit, den, closed⟩

/-- Whether `n * 10 ^ e` lies in the interval. -/
def Interval.holds (i : Interval) (n : Nat) (e : Int) : Bool :=
  let up := Nat.pow 10 e.toNat
  let down := Nat.pow 10 (-e).toNat
  let point := n * up * i.den
  if i.closed then i.lo * down ≤ point && point ≤ i.hi * down
  else i.lo * down < point && point < i.hi * down

/-- Of the two neighbours of the value on the grid of multiples of `10 ^ e`, the one that reads
back; of two such neighbours the nearer, and of two equally near the even one. -/
def Interval.onGrid? (i : Interval) (e : Int) : Option Decimal :=
  let up := Nat.pow 10 e.toNat
  let down := Nat.pow 10 (-e).toNat
  let num := i.value * down
  let den := i.den * up
  let below := num / den
  let above := if num % den = 0 then below else below + 1
  let nearer := roundHalfEven num den
  let other := if nearer = below then above else below
  if i.holds nearer e then some ⟨nearer, e⟩
  else if i.holds other e then some ⟨other, e⟩
  else none

/-- The first hit on the grids from `10 ^ e` on, each ten times finer than the one before. -/
def Interval.firstHit (i : Interval) : Nat → Int → Decimal
  | 0, e => ⟨0, e⟩
  | fuel + 1, e =>
    match i.onGrid? e with
    | some d => if d.digits = 0 then i.firstHit fuel (e - 1) else d
    | none => i.firstHit fuel (e - 1)

/-- The exponent of the power of ten next above a fraction, or one more. -/
def decimalMagnitude (num den : Nat) : Int :=
  if den ≤ num then ((Nat.repr (num / den)).length : Int)
  else 1 - ((Nat.repr (den / num)).length : Int)

def Decimal.strip : Nat → Decimal → Decimal
  | 0, d => d
  | fuel + 1, d =>
    if d.digits % 10 = 0 && d.digits != 0 then strip fuel ⟨d.digits / 10, d.exponent + 1⟩ else d

/-- The fewest digits that read back as the magnitude of `x`, for a number other than zero. Twenty
grids suffice, since seventeen digits always do. -/
def shortest (x : Binary64) : Decimal :=
  let i := x.interval
  (i.firstHit 20 (decimalMagnitude i.value i.den)).strip 20

/-- Where a decimal text changes from positional to scientific. -/
structure DecimalFormat where
  leastPositional : Int
  greatestPositional : Int

/-- Decimal exponents from -5 to 15 are written positionally. -/
def jsonFormat : DecimalFormat :=
  ⟨-5, 15⟩

def Decimal.layout (format : DecimalFormat) (d : Decimal) : String :=
  let digits := (Nat.repr d.digits).toList
  let count : Int := digits.length
  let scientific := d.exponent + count - 1
  if format.leastPositional ≤ scientific && scientific ≤ format.greatestPositional then
    if 0 ≤ d.exponent then
      String.ofList (digits ++ List.replicate d.exponent.toNat '0') ++ ".0"
    else if 0 ≤ scientific then
      let whole := (scientific + 1).toNat
      String.ofList (digits.take whole ++ '.' :: digits.drop whole)
    else
      "0." ++ String.ofList (List.replicate (-scientific - 1).toNat '0' ++ digits)
  else
    let fraction := if digits.length = 1 then [] else '.' :: digits.drop 1
    let sign := if scientific < 0 then "e-" else "e+"
    String.ofList (digits.take 1 ++ fraction) ++ sign ++ Nat.repr scientific.natAbs

def text (x : Binary64) : String :=
  let magnitude := if x.isZero then "0.0" else x.shortest.layout jsonFormat
  if x.negative then "-" ++ magnitude else magnitude

end RuleGate.Binary64
