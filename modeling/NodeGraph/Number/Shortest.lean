import NodeGraph.Number.Double

/-!
# The shortest text of a double

A double is written with the fewest decimal digits that read back as the same double, and among
those with the digits nearest to its value. `Double.shortest` finds them by trying one digit, two
digits, and so on: on each decimal grid only the two neighbours of the value can read back.
`Double.text` lays the digits out: positional from `1e-4` up to below `1e16`, with an exponent of at
least two digits outside of that.
-/

namespace NodeGraph

/-- A positive decimal `digits · 10 ^ exponent`. -/
structure Decimal where
  digits : Nat
  exponent : Int
  deriving DecidableEq, Inhabited

/-- The same decimal without trailing zeros in its digits; `fuel` bounds their number. -/
def Decimal.trimZeros : Nat → Decimal → Decimal
  | 0, d => d
  | fuel + 1, d =>
    if d.digits ≠ 0 ∧ d.digits % 10 = 0 then
      trimZeros fuel ⟨d.digits / 10, d.exponent + 1⟩
    else d

namespace Double

/-- The reals that round to a positive double, in quarters of its last place: `value` with the ends
of the interval, over the common denominator `unit`. The ends belong to it for an even mantissa. -/
structure Interval where
  low : Nat
  value : Nat
  high : Nat
  unit : Nat
  closed : Bool

def interval (mantissa : Nat) (exponent : Int) : Interval :=
  let low :=
    if mantissa = 0x10000000000000 ∧ -1074 < exponent then 4 * mantissa - 1 else 4 * mantissa - 2
  let closed := mantissa % 2 = 0
  if exponent < 2 then
    ⟨low, 4 * mantissa, 4 * mantissa + 2, Nat.pow 2 (exponent - 2).natAbs, closed⟩
  else
    let scale := Nat.pow 2 (exponent - 2).natAbs
    ⟨low * scale, 4 * mantissa * scale, (4 * mantissa + 2) * scale, 1, closed⟩

/-- Whether `digits · 10 ^ exponent` lies in the interval. -/
def Interval.holds (i : Interval) (digits : Nat) (exponent : Int) : Bool :=
  let (point, scale) :=
    if exponent < 0 then (digits * i.unit, Nat.pow 10 exponent.natAbs)
    else (digits * i.unit * Nat.pow 10 exponent.natAbs, 1)
  if i.closed then i.low * scale ≤ point ∧ point ≤ i.high * scale
  else i.low * scale < point ∧ point < i.high * scale

/-- Decimal digits before the point of the value, negative for leading zeros behind it. -/
def Interval.magnitude (i : Interval) : Int :=
  (decimalLength (i.value * Nat.pow 10 400 / i.unit) : Int) - 400

/-- The better of the two neighbours of the value on the grid of `10 ^ exponent`, if one of them
lies in the interval. -/
def Interval.onGrid (i : Interval) (exponent : Int) : Option Decimal :=
  let (num, den) :=
    if exponent < 0 then (i.value * Nat.pow 10 exponent.natAbs, i.unit)
    else (i.value, i.unit * Nat.pow 10 exponent.natAbs)
  let below := num / den
  let rest := num % den
  let lowerFirst := 2 * rest < den ∨ (2 * rest = den ∧ below % 2 = 0)
  match i.holds below exponent && below ≠ 0, i.holds (below + 1) exponent with
  | true, true => some ⟨if lowerFirst then below else below + 1, exponent⟩
  | true, false => some ⟨below, exponent⟩
  | false, true => some ⟨below + 1, exponent⟩
  | false, false => none

/-- The first hit on the grids of one digit, two digits, and so on. -/
def Interval.search (i : Interval) (magnitude : Int) : Nat → Nat → Decimal
  | 0, _ => ⟨0, 0⟩
  | fuel + 1, count =>
    match i.onGrid (magnitude - count) with
    | some d => d
    | none => i.search magnitude fuel (count + 1)

/-- The fewest digits that read back as `mantissa · 2 ^ exponent`, for a positive mantissa.
Seventeen digits always do. -/
def shortest (mantissa : Nat) (exponent : Int) : Decimal :=
  let i := interval mantissa exponent
  (i.search i.magnitude 18 1).trimZeros 20

/-- Digits laid out around the point that stands after the first `point` of them. -/
def layout (digits : List Char) (point : Int) : List Char :=
  let count : Int := digits.length
  if -4 < point ∧ point ≤ 16 then
    if point ≤ 0 then
      '0' :: '.' :: (List.replicate point.natAbs '0' ++ digits)
    else if point < count then
      digits.take point.natAbs ++ '.' :: digits.drop point.natAbs
    else
      digits ++ List.replicate (point - count).natAbs '0' ++ ['.', '0']
  else
    let exponent := point - 1
    let size := (toString exponent.natAbs).toList
    let size := if size.length < 2 then '0' :: size else size
    let mark := if exponent < 0 then '-' else '+'
    match digits with
    | [] => []
    | [d] => d :: 'e' :: mark :: size
    | d :: more => d :: '.' :: (more ++ 'e' :: mark :: size)

/-- The text of a double: the shortest digits, `inf`, `-inf` or `nan`. -/
def text : Double → String
  | .nan => "nan"
  | .infinity negative => if negative then "-inf" else "inf"
  | .finite negative mantissa exponent _ =>
    let body :=
      if mantissa = 0 then ['0', '.', '0']
      else
        let d := shortest mantissa exponent
        let digits := (toString d.digits).toList
        layout digits (digits.length + d.exponent)
    String.ofList (if negative then '-' :: body else body)

end Double

end NodeGraph
