/-
The shortest decimal that reads back as a given double.

A finite double is `m * 2 ^ e`. The numbers that round to it form an interval around it, the ends included when `m` is
even. For one digit, two digits and so on, the neighbours of the double among the decimals of that many digits are
tested against the interval; the first that lies inside is the answer, and of two the nearer one.
-/

namespace EventBroker.Json.Shortest

/-- a positive finite double `m * 2 ^ e`; `narrow` says that the gap below it is half the gap above -/
structure Binary where
  m : Nat
  e : Int
  narrow : Bool

/-- sign and magnitude of a double; no magnitude for zero -/
def ofBits (bits : UInt64) : Bool × Option Binary :=
  let n := bits.toNat
  let negative := decide (0x8000000000000000 ≤ n)
  let field : Nat := n / 0x10000000000000 % 0x800
  let fraction : Nat := n % 0x10000000000000
  if field = 0 then
    if fraction = 0 then (negative, none) else (negative, some ⟨fraction, -1074, false⟩)
  else (negative, some ⟨fraction + 0x10000000000000, (field : Int) - 1075, fraction = 0 && 1 < field⟩)

/-- the double, its lower end and its upper end, as multiples of one unit `2 ^ (e - 2)` -/
def Binary.quarters (b : Binary) : Nat × Nat × Nat :=
  (4 * b.m, 4 * b.m - (if b.narrow then 1 else 2), 4 * b.m + 2)

/-- `2 ^ e` as a fraction -/
def powerOfTwo (e : Int) : Nat × Nat :=
  if 0 ≤ e then (Nat.pow 2 e.toNat, 1) else (1, Nat.pow 2 (-e).toNat)

/-- `10 ^ k` as a fraction -/
def powerOfTen (k : Int) : Nat × Nat :=
  if 0 ≤ k then (Nat.pow 10 k.toNat, 1) else (1, Nat.pow 10 (-k).toNat)

/-- a decimal `digits * 10 ^ exponent` -/
structure Decimal where
  digits : Nat
  exponent : Int

/-- the decimal with step `10 ^ k` that reads back as the double, if there is one -/
def onGrid? (b : Binary) (k : Int) : Option Decimal :=
  let (unitNum, unitDen) := powerOfTwo (b.e - 2)
  let (stepNum, stepDen) := powerOfTen k
  let (value, low, high) := b.quarters
  -- a number of units, in steps, is `n * num / den`
  let num := unitNum * stepDen
  let den := unitDen * stepNum
  let below := value * num / den
  let inside (d : Nat) : Bool :=
    if b.m % 2 = 0 then decide (low * num ≤ d * den ∧ d * den ≤ high * num)
    else decide (low * num < d * den ∧ d * den < high * num)
  let lower := 0 < below && inside below
  let upper := inside (below + 1)
  if lower && upper then
    -- twice the distance to `below` against the whole step
    let twice := 2 * (value * num - below * den)
    if twice < den || (twice = den && below % 2 = 0) then some ⟨below, k⟩ else some ⟨below + 1, k⟩
  else if lower then some ⟨below, k⟩
  else if upper then some ⟨below + 1, k⟩
  else none

/-- the number of decimal digits -/
def width (n : Nat) : Nat := (Nat.toDigits 10 n).length

/-- an exponent `k` with `10 ^ k` at most the double and less than a hundredth of it away from the greatest such -/
def magnitude (b : Binary) : Int :=
  let (num, den) := powerOfTwo b.e
  if den ≤ b.m * num then (width (b.m * num / den) : Int) - 1
  else -(width (den / (b.m * num)) : Int)

/-- the first grid with a hit, from the coarsest on -/
def search (b : Binary) : (fuel : Nat) → (k : Int) → Decimal
  | 0, k => (onGrid? b k).getD ⟨b.m, b.e⟩
  | fuel + 1, k => match onGrid? b k with
    | some d => d
    | none => search b fuel (k - 1)

/-- move zeros at the end of the digits into the exponent -/
def trimZeros : (fuel : Nat) → Decimal → Decimal
  | 0, d => d
  | fuel + 1, d => if d.digits % 10 = 0 && 0 < d.digits then trimZeros fuel ⟨d.digits / 10, d.exponent + 1⟩ else d

/-- the shortest decimal that reads back as the double; nineteen grids reach past seventeen digits -/
def decimal (b : Binary) : Decimal :=
  trimZeros 20 (search b 19 (magnitude b + 1))

end EventBroker.Json.Shortest
