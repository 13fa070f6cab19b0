/-!
# Binary64 numbers

A finite binary64 number is a whole multiple of one quantum, `2 ^ -1074`, so that sums and
comparisons are exact integer arithmetic and only `ofQuanta` ever rounds. Every operation first
forms the exact value and then takes the nearest number, a tie going to the even mantissa.
-/
set_option autoImplicit false

namespace Reattempt

/-- The whole number nearest to `numerator / denominator`; a half goes to the even neighbour. -/
def nearestEven (numerator denominator : Nat) : Nat :=
  let quotient := numerator / denominator
  let twice := 2 * (numerator % denominator)
  if twice < denominator then quotient
  else if denominator < twice then quotient + 1
  else quotient + quotient % 2

/-- The mantissas and shifts that numbers are written with: 53 bits, all of them used unless the
shift is the least one. -/
def Binary64.Canonical (mantissa shift : Nat) : Prop :=
  mantissa < Nat.pow 2 53 ∧ shift ≤ 2045 ∧ (shift = 0 ∨ Nat.pow 2 52 ≤ mantissa)

instance (mantissa shift : Nat) : Decidable (Binary64.Canonical mantissa shift) :=
  inferInstanceAs (Decidable (_ ∧ _ ∧ _))

theorem Binary64.canonical_zero : Canonical 0 0 := by decide

/-- A binary64 number. A finite one is worth `mantissa * 2 ^ shift` quanta; zero has both signs.
What is not a number comes as several objects, which nothing but their number tells apart. -/
inductive Binary64 where
  | nan (object : Nat := 0)
  | infinite (negative : Bool)
  | finite (negative : Bool) (mantissa shift : Nat) (canonical : Binary64.Canonical mantissa shift)
deriving DecidableEq

namespace Binary64

/-- How many quanta make one. -/
def unit : Nat := Nat.pow 2 1074

def zero : Binary64 := .finite false 0 0 canonical_zero

instance : Inhabited Binary64 := ⟨zero⟩

/-- The number with this mantissa and shift, where a mantissa that was rounded up to 54 bits moves
to the next shift and one past the last shift is infinite. -/
def pack (negative : Bool) (mantissa shift : Nat) : Binary64 :=
  let carried := mantissa = Nat.pow 2 53
  let mantissa' := if carried then Nat.pow 2 52 else mantissa
  let shift' := if carried then shift + 1 else shift
  if canonical : Canonical mantissa' shift' then .finite negative mantissa' shift' canonical
  else .infinite negative

/-- The number nearest to `numerator / denominator` quanta. -/
def ofQuanta (negative : Bool) (numerator denominator : Nat) : Binary64 :=
  let whole := numerator / denominator
  let shift := if whole < Nat.pow 2 53 then 0 else whole.log2 - 52
  pack negative (nearestEven numerator (denominator * Nat.pow 2 shift)) shift

def ofRatio (numerator : Int) (denominator : Nat) : Binary64 :=
  ofQuanta (decide (numerator < 0)) (numerator.natAbs * unit) denominator

def ofInt (n : Int) : Binary64 := ofRatio n 1

def isNegative : Binary64 → Bool
  | .nan _ => false
  | .infinite negative => negative
  | .finite negative _ _ _ => negative

def isFinite : Binary64 → Bool
  | .finite _ _ _ _ => true
  | _ => false

def isNaN : Binary64 → Bool
  | .nan _ => true
  | _ => false

def isZero : Binary64 → Bool
  | .finite _ mantissa _ _ => mantissa == 0
  | _ => false

/-- The quanta in a finite number; an infinite one is worth more than every finite one. -/
def worth : Binary64 → Option Int
  | .nan _ => none
  | .infinite negative => some (if negative then -(Int.pow 2 2100) else Int.pow 2 2100)
  | .finite negative mantissa shift _ =>
      some (if negative then -(mantissa * Nat.pow 2 shift : Nat)
        else (mantissa * Nat.pow 2 shift : Nat))

/-- The quanta in a finite number, and none in the others. -/
def quanta : Binary64 → Int
  | .finite negative mantissa shift _ =>
      if negative then -(mantissa * Nat.pow 2 shift : Nat) else (mantissa * Nat.pow 2 shift : Nat)
  | _ => 0

/-- Order by worth. Nothing is below or above `nan`. -/
def less (a b : Binary64) : Bool :=
  match a.worth, b.worth with
  | some x, some y => decide (x < y)
  | _, _ => false

def lessOrEqual (a b : Binary64) : Bool :=
  match a.worth, b.worth with
  | some x, some y => decide (x ≤ y)
  | _, _ => false

/-- Equality by worth: both zeros are equal and `nan` differs from itself. -/
def equals (a b : Binary64) : Bool :=
  match a.worth, b.worth with
  | some x, some y => decide (x = y)
  | _, _ => false

instance : LT Binary64 := ⟨fun a b => a.less b = true⟩
instance : LE Binary64 := ⟨fun a b => a.lessOrEqual b = true⟩
instance (a b : Binary64) : Decidable (a < b) := inferInstanceAs (Decidable (a.less b = true))
instance (a b : Binary64) : Decidable (a ≤ b) :=
  inferInstanceAs (Decidable (a.lessOrEqual b = true))

/-- The first number unless the second is below it. -/
def smaller (a b : Binary64) : Binary64 := if b < a then b else a

/-- The first number unless the second is above it. -/
def larger (a b : Binary64) : Binary64 := if a < b then b else a

def neg : Binary64 → Binary64
  | .nan _ => .nan
  | .infinite negative => .infinite (!negative)
  | .finite negative mantissa shift canonical => .finite (!negative) mantissa shift canonical

def abs : Binary64 → Binary64
  | .nan _ => .nan
  | .infinite _ => .infinite false
  | .finite _ mantissa shift canonical => .finite false mantissa shift canonical

/-- A sum of finite numbers is the nearest number to the exact sum; an exact zero is negative only
if both terms are. -/
def add (a b : Binary64) : Binary64 :=
  match a, b with
  | .nan _, _ => .nan
  | _, .nan _ => .nan
  | .infinite m, .infinite n => if m == n then .infinite m else .nan
  | .infinite m, _ => .infinite m
  | _, .infinite n => .infinite n
  | .finite m _ _ _, .finite n _ _ _ =>
      let sum := a.quanta + b.quanta
      ofQuanta (if sum = 0 then m && n else decide (sum < 0)) sum.natAbs 1

def sub (a b : Binary64) : Binary64 := add a (neg b)

def mul (a b : Binary64) : Binary64 :=
  match a, b with
  | .nan _, _ => .nan
  | _, .nan _ => .nan
  | .infinite m, .infinite n => .infinite (m != n)
  | .infinite m, .finite n mantissa _ _ => if mantissa = 0 then .nan else .infinite (m != n)
  | .finite m mantissa _ _, .infinite n => if mantissa = 0 then .nan else .infinite (m != n)
  | .finite m _ _ _, .finite n _ _ _ =>
      ofQuanta (m != n) (a.quanta.natAbs * b.quanta.natAbs) unit

def div (a b : Binary64) : Binary64 :=
  match a, b with
  | .nan _, _ => .nan
  | _, .nan _ => .nan
  | .infinite _, .infinite _ => .nan
  | .infinite m, .finite n _ _ _ => .infinite (m != n)
  | .finite m _ _ _, .infinite n => .finite (m != n) 0 0 canonical_zero
  | .finite m _ _ _, .finite n mantissa _ _ =>
      if mantissa = 0 then (if a.isZero then .nan else .infinite (m != n))
      else ofQuanta (m != n) (a.quanta.natAbs * unit) b.quanta.natAbs

instance : Neg Binary64 := ⟨neg⟩
instance : Add Binary64 := ⟨add⟩
instance : Sub Binary64 := ⟨sub⟩
instance : Mul Binary64 := ⟨mul⟩
instance : Div Binary64 := ⟨div⟩

/-- The whole part of a finite number, towards zero. -/
def truncate (x : Binary64) : Int := x.quanta.tdiv unit

/-- What the whole part leaves of a finite number, with the number's sign. -/
def fraction : Binary64 → Binary64
  | .finite negative mantissa shift _ =>
      ofQuanta negative (mantissa * Nat.pow 2 shift % unit) 1
  | x => x

def isWhole (x : Binary64) : Bool := x.quanta.natAbs % unit == 0

/-- The interchange word: sign, eleven bits of exponent, 52 bits of mantissa. -/
def toBits : Binary64 → Nat
  | .nan _ => 0x7ff8000000000000
  | .infinite negative => (if negative then Nat.pow 2 63 else 0) + 0x7ff0000000000000
  | .finite negative mantissa shift _ =>
      (if negative then Nat.pow 2 63 else 0) +
        (if mantissa < Nat.pow 2 52 then mantissa
        else (shift + 1) * Nat.pow 2 52 + (mantissa - Nat.pow 2 52))

def ofBits (word : Nat) : Binary64 :=
  let negative := word / Nat.pow 2 63 % 2 == 1
  let field := word / Nat.pow 2 52 % Nat.pow 2 11
  let rest := word % Nat.pow 2 52
  if field = 2047 then (if rest = 0 then .infinite negative else .nan)
  else if field = 0 then pack negative rest 0
  else pack negative (Nat.pow 2 52 + rest) (field - 1)

end Binary64
end Reattempt
