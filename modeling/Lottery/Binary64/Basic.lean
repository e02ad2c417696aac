/-
# Doubles as counts of the least unit

Every finite double is a whole multiple of the least positive one,
`2^-1074`.  A finite double is kept as its sign and that multiple, its number
of units, so equality, order and sums of doubles are those of integers.

| double | units |
| --- | --- |
| `0.0`, `-0.0` | 0, with either sign |
| `5e-324` | 1 |
| `1.0` | `2^1074` |
| greatest finite | `2^2098 - 2^2045` |

A number of units is representable if it is below `2^2098` and needs no more
than 53 binary digits, trailing zeros aside.  `round` takes an exact fraction
of units to the nearest double, a tie to the even significand, and to an
infinity where the nearest number of units is not representable.
-/

namespace Lottery

/-- A whole number of units that a double can be. -/
def Binary64.Representable (units : Nat) : Prop :=
  units < 1 <<< 2098 ∧ units % (1 <<< (units.log2 - 52)) = 0

/-- A number of units is compared with the bound, and its low digits are looked at. -/
instance Binary64.instDecidableRepresentable (units : Nat) :
    Decidable (Binary64.Representable units) :=
  inferInstanceAs (Decidable (_ ∧ _))

/-- A double: a number with a sign, an infinity, or not a number. -/
inductive Binary64 where
  | nan
  | infinite (negative : Bool)
  | finite (negative : Bool) (units : Nat) (representable : Binary64.Representable units)
  deriving DecidableEq

namespace Binary64

/-- The whole number nearest to `a / d`, a tie going to the even one. -/
def halfEven (a d : Nat) : Nat :=
  let q := a / d
  let r := a % d
  if 2 * r < d then q
  else if d < 2 * r then q + 1
  else if q % 2 = 0 then q
  else q + 1

/-- The double nearest to `a / d` units. -/
def round (negative : Bool) (a d : Nat) : Binary64 :=
  let step := (a / d).log2 - 52
  let units := halfEven a (d <<< step) <<< step
  if h : Representable units then .finite negative units h else .infinite negative

/-- Zero, of either sign. -/
def zero (negative : Bool) : Binary64 :=
  .finite negative 0 (by decide)

/-- The double nearest to an integer. -/
def ofInt (n : Int) : Binary64 :=
  round (decide (n < 0)) (n.natAbs <<< 1074) 1

/-- Is it neither an infinity nor not a number? -/
def isFinite : Binary64 → Bool
  | .finite .. => true
  | _ => false

/-- Is it zero, of either sign? -/
def isZero : Binary64 → Bool
  | .finite _ units _ => units == 0
  | _ => false

/-- A number of units with a sign. -/
def signed (negative : Bool) (units : Nat) : Int :=
  if negative then -(units : Int) else units

/-- The place of a double in the order: its signed units, the infinities beyond
all finite ones; not a number has no place. -/
def place? : Binary64 → Option Int
  | .nan => none
  | .infinite negative => some (signed negative (1 <<< 2098))
  | .finite negative units _ => some (signed negative units)

/-- Strictly below; never so beside not a number. -/
def lt (x y : Binary64) : Bool :=
  match x.place?, y.place? with
  | some a, some b => decide (a < b)
  | _, _ => false

/-- Numerically equal: zeros of both signs are, not a number is not. -/
def eq (x y : Binary64) : Bool :=
  match x.place?, y.place? with
  | some a, some b => decide (a = b)
  | _, _ => false

/-- The second of two doubles if it is below the first, else the first. -/
def least (x y : Binary64) : Binary64 :=
  if y.lt x then y else x

/-- The sign turned. -/
def neg : Binary64 → Binary64
  | .nan => .nan
  | .infinite s => .infinite !s
  | .finite s u h => .finite (!s) u h

/-- The sum, rounded once; an exact zero is negative only if both terms are. -/
def add : Binary64 → Binary64 → Binary64
  | .nan, _ => .nan
  | _, .nan => .nan
  | .infinite s, .infinite t => if s = t then .infinite s else .nan
  | .infinite s, .finite .. => .infinite s
  | .finite .., .infinite t => .infinite t
  | .finite s u _, .finite t v _ =>
    let sum := signed s u + signed t v
    -- Opposite numbers add up to the positive zero, and only two negative zeros to the negative
    -- one.
    if sum = 0 then zero (s && t) else round (decide (sum < 0)) sum.natAbs 1

/-- The difference, rounded once. -/
def sub (x y : Binary64) : Binary64 :=
  x.add y.neg

/-- The product, rounded once; zero times an infinity is not a number. -/
def mul : Binary64 → Binary64 → Binary64
  | .nan, _ => .nan
  | _, .nan => .nan
  | .infinite s, .infinite t => .infinite (s != t)
  | .infinite s, .finite t v _ => if v = 0 then .nan else .infinite (s != t)
  | .finite s u _, .infinite t => if u = 0 then .nan else .infinite (s != t)
  | .finite s u _, .finite t v _ => round (s != t) (u * v) (1 <<< 1074)

/-- The sum of a list, from the left, starting at `0.0`. -/
def sum (xs : List Binary64) : Binary64 :=
  xs.foldl add (zero false)

/-- The double nearest to a number of hundredths. -/
def ofHundredths (negative : Bool) (hundredths : Nat) : Binary64 :=
  round negative (hundredths <<< 1074) 100

/-- The exact value rounded to two places, a tie to the even hundredth, as a
double again; infinities and not a number stay. -/
def nearestHundredth : Binary64 → Binary64
  | .finite s u _ => ofHundredths s (halfEven (u * 100) (1 <<< 1074))
  | x => x

/-- **`halfEven` is within half a unit:** twice its distance from `a / d` is at
most one. -/
theorem halfEven_near {a d : Nat} (hd : 0 < d) :
    2 * a ≤ 2 * (halfEven a d * d) + d ∧ 2 * (halfEven a d * d) ≤ 2 * a + d := by
  have h := Nat.div_add_mod a d
  have hr := Nat.mod_lt a hd
  rw [Nat.mul_comm] at h
  unfold halfEven
  dsimp only
  repeat' split
  all_goals first | omega | (rw [Nat.add_mul, Nat.one_mul]; omega)

end Binary64
end Lottery
