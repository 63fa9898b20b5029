/-!
Binary numbers of 64 bits, as their bit pattern.

A finite number is a sign and `significand · 2 ^ exponent`; equality of `Double` is equality of bit
patterns, and `sameNumber` is equality of the numbers they stand for.
-/

namespace ClientForge

/-- A binary floating point number of 64 bits. -/
structure Double where
  bits : UInt64
deriving DecidableEq, Repr, Inhabited

namespace Double

def ofFloat (x : Float) : Double := ⟨x.toBits⟩
def toFloat (x : Double) : Float := Float.ofBits x.bits

/-- Is the sign bit set? -/
def isNegative (x : Double) : Bool := x.bits >>> 63 == 1

/-- The eleven exponent bits. -/
def exponentField (x : Double) : Nat := ((x.bits >>> 52) &&& 0x7FF).toNat

/-- The 52 fraction bits. -/
def fraction (x : Double) : Nat := (x.bits &&& 0xFFFFFFFFFFFFF).toNat

def isFinite (x : Double) : Bool := x.exponentField < 0x7FF
def isNaN (x : Double) : Bool := x.exponentField == 0x7FF && x.fraction != 0
def isInfinite (x : Double) : Bool := x.exponentField == 0x7FF && x.fraction == 0

/-- `m` in `± m · 2 ^ exponent`, for a finite number. -/
def significand (x : Double) : Nat :=
  if x.exponentField = 0 then x.fraction else Nat.pow 2 52 + x.fraction

/-- `q` in `± significand · 2 ^ q`, for a finite number. -/
def exponent (x : Double) : Int := (max x.exponentField 1 : Nat) - 1075

def isZero (x : Double) : Bool := x.isFinite && x.significand == 0

def nan : Double := ⟨0x7FF8000000000000⟩
def infinity (negative : Bool) : Double :=
  ⟨if negative then 0xFFF0000000000000 else 0x7FF0000000000000⟩

def neg (x : Double) : Double := ⟨x.bits ^^^ 0x8000000000000000⟩

/-- The number nearest to `± digits · 10 ^ exponent`; beyond the range, an infinity or a zero. -/
def ofDecimal (negative : Bool) (digits : Nat) (exponent : Int) : Double :=
  let magnitude : Double :=
    if digits = 0 then ⟨0⟩
    else
      let leading : Int := exponent + (Nat.log2 digits * 30103 / 100000 : Nat)
      if leading > 400 then infinity false
      else if leading < -400 then ⟨0⟩
      else ofFloat (Float.ofScientific digits (exponent < 0) exponent.natAbs)
  if negative then magnitude.neg else magnitude

/-- The integer equal to the number, if there is one. -/
def toInt? (x : Double) : Option Int :=
  if x.isFinite then
    let m : Int := if x.isNegative then -x.significand else x.significand
    if x.exponent ≥ 0 then some (m * Nat.pow 2 x.exponent.toNat)
    else
      let unit : Int := Nat.pow 2 (-x.exponent).toNat
      if m % unit = 0 then some (m / unit) else none
  else none

/-- Are the two the same number? The zeros of both signs are, and no NaN is. -/
def sameNumber (x y : Double) : Bool :=
  !x.isNaN && !y.isNaN && (x == y || (x.isZero && y.isZero))

end Double

end ClientForge
