import ClientForge.Decimal.Shortest
import ClientForge.Text.Blank

/-!
Decimal notation: how the digits of a number are laid out, displayed (`repr`) and saved (`model_dump_json`).
-/

namespace ClientForge.Decimal

/-- The decisions of a notation. `e` is the exponent of the leading digit. -/
structure Notation where
  /-- Positional notation from this `e` on … -/
  lowest : Int
  /-- … up to this one. -/
  highest : Int

/-- The notation of displayed numbers: `1e-05`, `0.0001`, `1e+16`. -/
def displayed : Notation := ⟨-4, 15⟩

/-- The notation of numbers in saved models: `1e-06`, `0.00001`, `1e+16`. -/
def saved : Notation := ⟨-5, 15⟩

def padLeft (width : Nat) (s : List Char) : List Char :=
  List.replicate (width - s.length) '0' ++ s

/-- The digits with a point after the `places`-th, zeros filled in, and at least one digit on
each side. -/
def positional (digits : List Char) (places : Int) : List Char :=
  if places ≤ 0 then '0' :: '.' :: (List.replicate (-places).toNat '0' ++ digits)
  else
    let n := places.toNat
    if digits.length ≤ n then digits ++ List.replicate (n - digits.length) '0' ++ ['.', '0']
    else digits.take n ++ '.' :: digits.drop n

/-- How many digits an exponent has at least. -/
def exponentWidth : Nat := 2

/-- The digits with a point after the first, if there are more, and the exponent with its sign. -/
def scientific (digits : List Char) (e : Int) : List Char :=
  let mantissa :=
    match digits with
    | d :: r :: rest => d :: '.' :: r :: rest
    | ds => ds
  mantissa ++ 'e' :: (if e < 0 then '-' else '+') :: padLeft exponentWidth (Nat.repr e.natAbs).toList

/-- The text of a finite number without its sign. -/
def Notation.magnitude (f : Notation) (x : Double) : List Char :=
  let s := shortest x
  let digits := (Nat.repr s.digits).toList
  let e : Int := s.exponent + digits.length - 1
  if s.digits = 0 || (f.lowest ≤ e && e ≤ f.highest) then positional digits (e + 1)
  else scientific digits e

/-- The text of a finite number. -/
def Notation.write (f : Notation) (x : Double) : List Char :=
  if x.isNegative then '-' :: f.magnitude x else f.magnitude x

/-- The text of any number. -/
def display (x : Double) : List Char :=
  if x.isNaN then "nan".toList
  else if x.isInfinite then (if x.isNegative then "-inf" else "inf").toList
  else displayed.write x

end ClientForge.Decimal
