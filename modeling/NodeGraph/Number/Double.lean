/-!
# Doubles

The 64-bit binary floating-point numbers as data: a value is a signed `mantissa · 2 ^ exponent`, an
infinity, or the one not-a-number. Every operation rounds an exact ratio of naturals once, in
`Double.ofRatio`, to the nearest representable value, a half to the even mantissa. No machine
arithmetic is involved, so all of it can be evaluated inside a proof.

A finite value is kept in one canonical form, which it carries: `mantissa < 2 ^ 53`,
`-1074 ≤ exponent ≤ 971`, and `2 ^ 52 ≤ mantissa` unless `exponent = -1074`. The sign of a zero is
kept.
-/

namespace NodeGraph

/-- Whether `mantissa · 2 ^ exponent` is the canonical form of a double. -/
def isCanonical (mantissa : Nat) (exponent : Int) : Bool :=
  mantissa < 0x20000000000000 && -1074 ≤ exponent && exponent ≤ 971 &&
    (0x10000000000000 ≤ mantissa || exponent = -1074)

/-- The canonical forms. This is an equation between truth values, as a match on values would go
into the numbers of an inequality. -/
def Canonical (mantissa : Nat) (exponent : Int) : Prop := isCanonical mantissa exponent = true

instance (mantissa : Nat) (exponent : Int) : Decidable (Canonical mantissa exponent) :=
  inferInstanceAs (Decidable (_ = true))

theorem canonical_iff {mantissa : Nat} {exponent : Int} : Canonical mantissa exponent ↔
    mantissa < 0x20000000000000 ∧ -1074 ≤ exponent ∧ exponent ≤ 971 ∧
      (0x10000000000000 ≤ mantissa ∨ exponent = -1074) := by
  simp [Canonical, isCanonical, and_assoc]

/-- A 64-bit binary floating-point number. -/
inductive Double where
  | nan
  | infinity (negative : Bool)
  | finite (negative : Bool) (mantissa : Nat) (exponent : Int)
      (canonical : Canonical mantissa exponent)
  deriving DecidableEq, Inhabited

/-- `num / den` to the nearest natural number, a half to the even neighbour. -/
def roundHalfEven (num den : Nat) : Nat :=
  let quotient := num / den
  let rest := num % den
  if 2 * rest < den ∨ (2 * rest = den ∧ quotient % 2 = 0) then quotient else quotient + 1

namespace Double

/-- The zero with the given sign. -/
def signedZero (negative : Bool) : Double := .finite negative 0 (-1074) (by decide)

def zero : Double := signedZero false

/-- `num / den` over `2 ^ exponent`, as numerator and denominator. -/
def overPower (num den : Nat) (exponent : Int) : Nat × Nat :=
  if exponent < 0 then (num * Nat.pow 2 exponent.natAbs, den)
  else (num, den * Nat.pow 2 exponent.natAbs)

/-- The greatest `e` with `2 ^ e ≤ num / den`, for positive `num` and `den`. -/
def binaryExponent (num den : Nat) : Int :=
  let guess : Int := (num.log2 : Int) - (den.log2 : Int)
  let (n, d) := overPower num den guess
  if n < d then guess - 1 else guess

/-- The finite value of a canonical form; infinity if the form is none. -/
def ofForm (negative : Bool) (mantissa : Nat) (exponent : Int) : Double :=
  if h : Canonical mantissa exponent then .finite negative mantissa exponent h
  else .infinity negative

/-- The double nearest to `num / den`, with the given sign; past the largest one, infinity. -/
def ofRatio (negative : Bool) (num den : Nat) : Double :=
  if num = 0 then signedZero negative
  else
    let exponent := max (binaryExponent num den - 52) (-1074)
    let (n, d) := overPower num den exponent
    let mantissa := roundHalfEven n d
    let (mantissa, exponent) :=
      if mantissa = 0x20000000000000 then (0x10000000000000, exponent + 1) else (mantissa, exponent)
    ofForm negative mantissa exponent

/-- The number of decimal digits of `n`, `0` for zero; `fuel` bounds the search. -/
def decimalLengthUpTo : Nat → Nat → Nat
  | 0, _ => 0
  | fuel + 1, n => if n = 0 then 0 else decimalLengthUpTo fuel (n / 10) + 1

def decimalLength (n : Nat) : Nat := decimalLengthUpTo (n.log2 + 1) n

/-- The double nearest to `digits · 10 ^ exponent`. Exponents far outside the range are answered
without building the power. -/
def ofDecimal (negative : Bool) (digits : Nat) (exponent : Int) : Double :=
  let magnitude : Int := decimalLength digits + exponent
  if digits = 0 then signedZero negative
  else if 400 < magnitude then .infinity negative
  else if magnitude < -400 then signedZero negative
  else if exponent < 0 then ofRatio negative digits (Nat.pow 10 exponent.natAbs)
  else ofRatio negative (digits * Nat.pow 10 exponent.natAbs) 1

/-- The double nearest to an integer, `none` when that is infinite. -/
def ofInt? (n : Int) : Option Double :=
  match ofRatio (n < 0) n.natAbs 1 with
  | .infinity _ => none
  | x => some x

def isFinite : Double → Bool
  | .finite .. => true
  | _ => false

def isZero : Double → Bool
  | .finite _ mantissa _ _ => mantissa = 0
  | _ => false

def neg : Double → Double
  | .nan => .nan
  | .infinity negative => .infinity !negative
  | .finite negative mantissa exponent h => .finite (!negative) mantissa exponent h

/-- The signed mantissa of a finite value written with a smaller exponent. -/
def scaled (negative : Bool) (mantissa : Nat) (exponent low : Int) : Int :=
  let m : Int := mantissa * Nat.pow 2 (exponent - low).natAbs
  if negative then -m else m

/-- `n · 2 ^ exponent`, rounded; an exact zero takes the sign given. -/
def ofScaled (n : Int) (exponent : Int) (zeroNegative : Bool) : Double :=
  if n = 0 then signedZero zeroNegative
  else if exponent < 0 then ofRatio (n < 0) n.natAbs (Nat.pow 2 exponent.natAbs)
  else ofRatio (n < 0) (n.natAbs * Nat.pow 2 exponent.natAbs) 1

def add : Double → Double → Double
  | .nan, _ => .nan
  | _, .nan => .nan
  | .infinity s, .infinity t => if s = t then .infinity s else .nan
  | .infinity s, .finite .. => .infinity s
  | .finite .., .infinity t => .infinity t
  | .finite s m e _, .finite t n f _ =>
    let low := min e f
    ofScaled (scaled s m e low + scaled t n f low) low (s && t)

def mul : Double → Double → Double
  | .nan, _ => .nan
  | _, .nan => .nan
  | .infinity s, .infinity t => .infinity (s != t)
  | .infinity s, .finite t n _ _ => if n = 0 then .nan else .infinity (s != t)
  | .finite s m _ _, .infinity t => if m = 0 then .nan else .infinity (s != t)
  | .finite s m e _, .finite t n f _ =>
    let negative := s != t
    if e + f < 0 then ofRatio negative (m * n) (Nat.pow 2 (e + f).natAbs)
    else ofRatio negative (m * n * Nat.pow 2 (e + f).natAbs) 1

/-- The order of the values; not-a-number is below and above nothing. -/
def lt : Double → Double → Bool
  | .nan, _ => false
  | _, .nan => false
  | .infinity s, .infinity t => s && !t
  | .infinity s, .finite .. => s
  | .finite .., .infinity t => !t
  | .finite s m e _, .finite t n f _ =>
    let low := min e f
    scaled s m e low < scaled t n f low

/-- Equality of the values: both zeros are one, and not-a-number differs from itself. -/
def eqv : Double → Double → Bool
  | .nan, _ => false
  | x, y => x == y || (x.isZero && y.isZero)

/-- The integer that a finite value is, when it is one. -/
def toInt? : Double → Option Int
  | .finite negative mantissa exponent _ =>
    if exponent < 0 then
      if mantissa % Nat.pow 2 exponent.natAbs = 0 then
        let n : Int := (mantissa / Nat.pow 2 exponent.natAbs : Nat)
        some (if negative then -n else n)
      else none
    else
      let n : Int := (mantissa * Nat.pow 2 exponent.natAbs : Nat)
      some (if negative then -n else n)
  | _ => none

end Double

end NodeGraph
