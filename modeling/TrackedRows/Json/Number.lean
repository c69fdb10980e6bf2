import TrackedRows.Text

namespace TrackedRows.Json

/-- A double, counted in units of the least one above zero, `2 ^ -1074`. Zero has a sign as well. -/
structure Double where
  negative : Bool
  size : Nat
deriving DecidableEq

namespace Double

def one : Nat := Nat.pow 2 1074

/-- The number of at most 53 binary digits, zeros at its end apart, that is nearest to `p / q`. A half
goes to the even neighbour. Counted in units of the least double, every double is such a number. -/
def nearest (p q : Nat) : Nat :=
  let unit := Nat.pow 2 (Nat.log2 (p / q) - 52)
  let below := p / (q * unit)
  let rest := 2 * (p % (q * unit))
  if rest < q * unit || (rest = q * unit && below % 2 = 0) then below * unit else (below + 1) * unit

/-- The digits of `n / one` behind the point. Each one takes a factor of two from the denominator. -/
def places (n : Nat) : Nat → List Char
  | 0 => []
  | fuel + 1 => if n = 0 then [] else Nat.digitChar (10 * n / one) :: places (10 * n % one) fuel

/-- All digits that the double has, and at least one on either side of the point. -/
def render (d : Double) : List Char :=
  let part := places (d.size % one) 1074
  (if d.negative then ['-'] else []) ++ Text.natural (d.size / one) ++ ['.'] ++
    (if part = [] then ['0'] else part)

end Double

/-- The size of a number as it is read: the digits that a word of 64 bits holds, and a power of ten. -/
structure Magnitude where
  digits : Nat
  exponent : Int

namespace Magnitude

/-- Digits go behind `n` as long as the word holds them. The others are left over. -/
def fill (n : Nat) : List Char → Nat × List Char
  | [] => (n, [])
  | d :: ds =>
    let grown := 10 * n + Text.digit d
    if grown < UInt64.size then fill grown ds else (n, d :: ds)

/-- A digit left over in front of the point counts for its place, one behind the point for nothing. -/
def ofDigits (whole part : List Char) (exponent : Int) : Magnitude :=
  let (n, beyond) := fill 0 whole
  let (n, unused) := fill n part
  ⟨n, exponent + beyond.length - (part.length - unused.length : Nat)⟩

def tenTo (n : Nat) : Nat := Double.nearest (Nat.pow 10 n) 1

/-- The double that a magnitude stands for, unless it is too large for one. Digits and power of ten are
rounded first, and the product or quotient once more, so it need not be the nearest double. `10 ^ 308`
is the last power of ten that is one, and more than 343 places leave nothing of a word. -/
def size? (m : Magnitude) : Option Nat :=
  let digits := Double.nearest m.digits 1
  let places := (-m.exponent).toNat
  if m.digits = 0 || 343 < places then some 0
  else if 308 < places then
    let first := Double.nearest (digits * Double.one) (tenTo 308)
    some (Double.nearest first (tenTo (places - 308)))
  else if 0 < places then some (Double.nearest (digits * Double.one) (tenTo places))
  else if 308 < m.exponent then none
  else
    let n := Double.nearest (digits * tenTo m.exponent.toNat) 1
    if n < Nat.pow 2 1024 then some (n * Double.one) else none

end Magnitude

end TrackedRows.Json
