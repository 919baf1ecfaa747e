/-
# Writing doubles as text

The written forms of a double: scientific (`1.5e+07`), positional (`1.5`) and
general, which picks scientific for exponents below -4 or at least the
precision and positional otherwise.  Without a precision the general form
uses the shortest digits that read back and decides with a precision of 6;
positional and scientific forms then write exactly those digits.

The exponent of the scientific form has a sign and at least two digits.
Infinities are written `+Inf` and `-Inf`, and NaN as `NaN`.

An integer is written in decimal with a leading minus when negative.
-/
import MudClient.Number.Decimal

namespace MudClient.Number

/-- The forms of a written double. -/
inductive Style where
  /-- Scientific, with `e` or `E`. -/
  | sci (upper : Bool)
  /-- Positional. -/
  | pos
  /-- General, with `e` or `E`. -/
  | general (upper : Bool)
deriving DecidableEq, Repr

def digitAt (ds : List Nat) (i : Int) : Nat :=
  if i < 0 then 0 else ds.getD i.toNat 0

def digitChar (d : Nat) : Char := Char.ofNat ('0'.toNat + d)

def writeSci (neg : Bool) (d : Digits) (prec : Nat) (upper : Bool) : String :=
  let first := digitChar (digitAt d.digits 0)
  let rest := (List.range prec).map fun (i : Nat) => digitChar (digitAt d.digits ((i : Int) + 1))
  let exp : Int := if d.digits.isEmpty then 0 else d.point - 1
  let expDigits := (Nat.toDigits 10 exp.natAbs)
  let expDigits := if expDigits.length < 2 then '0' :: expDigits else expDigits
  (if neg then "-" else "") ++ String.singleton first ++
    (if prec = 0 then "" else "." ++ String.ofList rest) ++
    (if upper then "E" else "e") ++ (if exp < 0 then "-" else "+") ++ String.ofList expDigits

def writePos (neg : Bool) (d : Digits) (prec : Nat) : String :=
  let whole :=
    if d.point > 0 then (List.range d.point.toNat).map fun (i : Nat) => digitChar (digitAt d.digits (i : Int))
    else ['0']
  let frac := (List.range prec).map fun (i : Nat) => digitChar (digitAt d.digits (d.point + (i : Int)))
  (if neg then "-" else "") ++ String.ofList whole ++
    (if prec = 0 then "" else "." ++ String.ofList frac)

/-- A double written in a style, with a precision or, without one, the
shortest digits. -/
def writeFloat (x : Float) (style : Style) (prec : Option Nat) : String :=
  match parts x with
  | .nan => "NaN"
  | .inf neg => if neg then "-Inf" else "+Inf"
  | .finite neg _ _ =>
    match style, prec with
    | .sci upper, some p => writeSci neg (significant x (p + 1)) p upper
    | .sci upper, none => let d := shortest x; writeSci neg d (d.digits.length - 1) upper
    | .pos, some p => writePos neg (fixed x p) p
    | .pos, none => let d := shortest x; writePos neg d (d.digits.length - d.point).toNat
    | .general upper, none =>
      let d := shortest x
      let exp := d.point - 1
      if d.digits.isEmpty then writePos neg d 0
      else if exp < -4 ∨ exp ≥ 6 then writeSci neg d (d.digits.length - 1) upper
      else writePos neg d (d.digits.length - d.point).toNat
    | .general upper, some p =>
      let p := if p = 0 then 1 else p
      let d := significant x p
      let nd := d.digits.length
      let eprec : Int := if p > nd ∧ (nd : Int) ≥ d.point then nd else p
      let exp := if d.digits.isEmpty then -1 else d.point - 1
      if exp < -4 ∨ exp ≥ eprec then writeSci neg d ((min p nd) - 1) upper
      else writePos neg d ((if (p : Int) > d.point then (nd : Int) else p) - d.point).toNat

def writeInt (n : Int) : String := (if n < 0 then "-" else "") ++ toString n.natAbs

/-- The general form with the shortest digits, as a double is printed by
default. -/
def writeShortest (x : Float) : String := writeFloat x (.general false) none

end MudClient.Number
