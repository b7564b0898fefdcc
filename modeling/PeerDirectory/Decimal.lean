/-!
Decimal texts of binary floating point numbers: the fewest digits that read back as the same
number, of those the nearest to it, and an even last digit where two are equally near.
-/

namespace PeerDirectory.Decimal

/-- A finite number without its sign: `significand * 2 ^ exponent`. -/
structure Binary where
  significand : Nat
  exponent : Int
  /-- Whether the next smaller number is only half as far away as the next larger one. -/
  narrowBelow : Bool

def binary (x : Float) : Binary :=
  let bits : Nat := x.toBits.toNat
  let fraction : Nat := bits % Nat.pow 2 52
  let scale : Nat := bits / Nat.pow 2 52 % Nat.pow 2 11
  if scale = 0 then ⟨fraction, -1074, false⟩
  else ⟨fraction + Nat.pow 2 52, (scale : Int) - 1075, fraction = 0 && scale > 1⟩

structure Digits where
  value : Nat
  power : Int

/-- A fraction with the four-fold value of a number and of the ends of the interval of reals that
are rounded to it, all over one denominator. -/
structure Interval where
  value : Nat
  low : Nat
  high : Nat
  denominator : Nat
  /-- Whether the ends are rounded to the number too. -/
  closed : Bool

def Binary.interval (b : Binary) : Interval :=
  let shift := b.exponent - 2
  let up := Nat.pow 2 shift.toNat
  let low := 4 * b.significand - (if b.narrowBelow then 1 else 2)
  ⟨4 * b.significand * up, low * up, (4 * b.significand + 2) * up, Nat.pow 2 (-shift).toNat,
    b.significand % 2 = 0⟩

def leading (numerator denominator : Nat) : Int :=
  if denominator ≤ numerator then ((Nat.toDigits 10 (numerator / denominator)).length : Int) - 1
  else
    let zeros := (List.range 400).takeWhile fun i => numerator * Nat.pow 10 (i + 1) < denominator
    (-1 : Int) - zeros.length

def Interval.contains (interval : Interval) (digits : Digits) : Bool :=
  let scaled := digits.value * interval.denominator * Nat.pow 10 digits.power.toNat
  let unit := Nat.pow 10 (-digits.power).toNat
  if interval.closed then interval.low * unit ≤ scaled && scaled ≤ interval.high * unit
  else interval.low * unit < scaled && scaled < interval.high * unit

/-- The nearest of the numbers with the given count of digits, if one of the two neighbours is in
the interval. -/
def Interval.nearest? (interval : Interval) (count : Nat) : Option Digits :=
  let power := leading interval.value interval.denominator - count + 1
  let numerator := interval.value * Nat.pow 10 (-power).toNat
  let denominator := interval.denominator * Nat.pow 10 power.toNat
  let below : Digits := ⟨numerator / denominator, power⟩
  let above : Digits := ⟨numerator / denominator + 1, power⟩
  let twice := 2 * numerator
  let middle := (2 * below.value + 1) * denominator
  let preferBelow := twice < middle || (twice = middle && below.value % 2 = 0)
  if interval.contains below && (preferBelow || !interval.contains above) then some below
  else if interval.contains above then some above
  else none

def shortest (b : Binary) : Digits :=
  ((List.range 17).findSome? fun i => b.interval.nearest? (i + 1)).getD ⟨b.significand, b.exponent⟩

def Digits.trimmed : Nat → Digits → Digits
  | 0, digits => digits
  | fuel + 1, digits =>
    if digits.value % 10 = 0 then Digits.trimmed fuel ⟨digits.value / 10, digits.power + 1⟩
    else digits

/-- Writes digits positionally if the leading digit stands between the fifth place after the point
and the sixteenth before it, and with a signed exponent otherwise. -/
def Digits.text (digits : Digits) : String :=
  let chars := Nat.toDigits 10 digits.value
  let exponent : Int := (chars.length : Int) - 1 + digits.power
  let zeros (count : Int) : List Char := List.replicate count.toNat '0'
  let written : List Char :=
    if -5 ≤ exponent ∧ exponent ≤ 15 then
      if 0 ≤ digits.power then chars ++ zeros digits.power ++ ['.', '0']
      else if 0 ≤ exponent then
        chars.take (exponent.toNat + 1) ++ '.' :: chars.drop (exponent.toNat + 1)
      else '0' :: '.' :: zeros (-exponent - 1) ++ chars
    else
      let mantissa := if chars.length = 1 then chars else chars.take 1 ++ '.' :: chars.drop 1
      let sign := if exponent < 0 then '-' else '+'
      mantissa ++ 'e' :: sign :: Nat.toDigits 10 exponent.natAbs
  String.ofList written

def text (x : Float) : String :=
  let negative := x.toBits.toNat / Nat.pow 2 63 = 1
  let size := binary x
  let magnitude :=
    if size.significand = 0 then "0.0" else ((shortest size).trimmed 400).text
  if negative then "-" ++ magnitude else magnitude

end PeerDirectory.Decimal
