/-!
Finite binary floating-point numbers of 64 bits, as exact data: a sign, a whole significand below
`2 ^ 53` and an exponent of two. A quotient of whole numbers is rounded to the nearest such number,
halves to the even significand; products and quotients of two numbers are exact before they are
rounded once. A result beyond the largest finite number is none.
-/

namespace RuleGate

/-- The number `± significand * 2 ^ exponent`. -/
structure Binary64 where
  negative : Bool
  significand : Nat
  exponent : Int
  deriving DecidableEq, Inhabited

namespace Binary64

def minExponent : Int := -1074

def maxExponent : Int := 971

def zero : Binary64 :=
  ⟨false, 0, minExponent⟩

def isZero (x : Binary64) : Bool :=
  x.significand == 0

def neg (x : Binary64) : Binary64 :=
  { x with negative := !x.negative }

/-- `num / den`, divided further by `2 ^ e`, as a fraction of whole numbers. -/
def scale (num den : Nat) (e : Int) : Nat × Nat :=
  if e < 0 then (num * Nat.pow 2 (-e).toNat, den) else (num, den * Nat.pow 2 e.toNat)

/-- The exponent at which the significand of `num / den` has 53 binary digits, or the least exponent
if that is greater. -/
def exponentFor (num den : Nat) : Int :=
  let e : Int := (num.log2 : Int) - den.log2 - 52
  let (n, d) := scale num den e
  max (if n < d * Nat.pow 2 52 then e - 1 else e) minExponent

/-- The whole number nearest to `num / den`; a half goes to the even one. -/
def roundHalfEven (num den : Nat) : Nat :=
  let quotient := num / den
  let twice := 2 * (num % den)
  if den < twice || (twice == den && quotient % 2 == 1) then quotient + 1 else quotient

/-- The number nearest to `num / den` for a positive `den`. -/
def ofQuotient? (num den : Nat) : Option Binary64 :=
  if num = 0 then some zero
  else
    let e := exponentFor num den
    let (n, d) := scale num den e
    let s := roundHalfEven n d
    let (s, e) := if s = Nat.pow 2 53 then (Nat.pow 2 52, e + 1) else (s, e)
    if maxExponent < e then none else some ⟨false, s, e⟩

/-- The number nearest to a whole number. -/
def ofNat? (n : Nat) : Option Binary64 :=
  ofQuotient? n 1

/-- The magnitude as a fraction of whole numbers. -/
def fraction (x : Binary64) : Nat × Nat :=
  if x.exponent < 0 then (x.significand, Nat.pow 2 (-x.exponent).toNat)
  else (x.significand * Nat.pow 2 x.exponent.toNat, 1)

/-- Puts the sign of a product or quotient on its magnitude. -/
def withSignOf (x y magnitude : Binary64) : Binary64 :=
  { magnitude with negative := x.negative != y.negative }

/-- The product, rounded once. -/
def mul? (x y : Binary64) : Option Binary64 :=
  let (a, b) := x.fraction
  let (c, d) := y.fraction
  (ofQuotient? (a * c) (b * d)).map (withSignOf x y)

/-- The quotient by a number other than zero, rounded once. -/
def div? (x y : Binary64) : Option Binary64 :=
  let (a, b) := x.fraction
  let (c, d) := y.fraction
  (ofQuotient? (a * d) (b * c)).map (withSignOf x y)

/-- Divides by `10 ^ n`. A power beyond `10 ^ 308` is taken off in steps of that size, each rounded,
until what is left of it is at most `10 ^ 308` or the value is zero. -/
def divPowerOfTen (x : Binary64) (n : Nat) : Binary64 :=
  if n ≤ 308 then ((ofNat? (Nat.pow 10 n)).bind x.div?).getD zero
  else
    let y := ((ofNat? (Nat.pow 10 308)).bind x.div?).getD zero
    if y.isZero then y else divPowerOfTen y (n - 308)
termination_by n

/-- Multiplies by `10 ^ n`; none if the product is too large. -/
def mulPowerOfTen? (x : Binary64) (n : Nat) : Option Binary64 :=
  if n ≤ 308 then (ofNat? (Nat.pow 10 n)).bind x.mul? else if x.isZero then some x else none

/-- The number written as `significand * 10 ^ exponent`. The significand and the power of ten are
each rounded first, and their product or quotient is rounded again; so the result can differ in its
last digit from the nearest number. -/
def ofDecimal? (significand : Nat) (exponent : Int) : Option Binary64 :=
  (ofNat? significand).bind fun x =>
    if exponent < 0 then some (x.divPowerOfTen (-exponent).toNat)
    else x.mulPowerOfTen? exponent.toNat

end Binary64

end RuleGate
