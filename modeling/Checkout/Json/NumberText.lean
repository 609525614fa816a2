import Checkout.Json.Problem
import Checkout.Json.Source
import Checkout.Text.Integer

/-! Numbers as a JSON text writes them. The digits of the significand are collected in sixty-four
bits. Once they no longer fit, further digits in front of the point only raise the power of ten, and
further digits behind it are dropped. The significand is then rounded to floating point and
multiplied or divided by one rounded power of ten, so a long number may differ from the nearest one
in its last bit. -/
namespace Checkout.Json

open Checkout.Number (Binary64)
open Checkout.Text (digit?)

/-- What a reader and a skipper report when a text breaks off. -/
structure Breach where
  reading : Fault
  skipping : Fault

/-- The same report for both. -/
def Breach.both (problem : Problem) (index : Nat) : Breach :=
  ⟨problem.at index, problem.at index⟩

namespace NumberText

/-- The greatest significand, 2^64 - 1. -/
def greatest : Nat := 18446744073709551615

/-- A power of ten as a floating-point number. -/
def powerOfTen (k : Nat) : Option Binary64 := Binary64.ofNat (Nat.pow 10 k)

/-- A magnitude divided by a rounded power of ten. -/
def divide (x : Binary64) (k : Nat) : Option Binary64 := (powerOfTen k).bind x.div

/-- The magnitude `significand * 10 ^ power`, by at most three rounded operations. A number too
large for the format has none. -/
def magnitude (significand : Nat) (power : Int) : Option Binary64 := do
  let x ← Binary64.ofNat significand
  if x.mantissa = 0 then return x
  else if 308 < power then none
  else if 0 ≤ power then (← powerOfTen power.toNat).mul x
  else if -308 ≤ power then divide x power.natAbs
  else if -616 ≤ power then divide (← divide x 308) (power.natAbs - 308)
  else return .zero false

/-- A floating-point number from its parts, or that it is too large. -/
def float (negative : Bool) (significand : Nat) (power : Int) (stop : Nat) :
    Except Fault JsonNumber :=
  match magnitude significand power with
  | some x => .ok (.float (x.withSign negative))
  | none => .error (Problem.numberOutOfRange.at stop)

/-- A number without fraction and exponent. Negative zero is a floating-point number. -/
def whole (negative : Bool) (significand : Nat) (stop : Nat) : Except Fault JsonNumber :=
  let n : Int := if negative then -(significand : Int) else significand
  match WholeNumber.ofInt? n with
  | some w => if negative ∧ significand = 0 then float negative 0 0 stop else .ok (.whole w)
  | none => float negative significand 0 stop

/-- A number that was passed over, or where it broke off. -/
inductive Scan where
  | done (value : Except Fault JsonNumber) (stop : Nat) (rest : List Symbol)
  | broken (breach : Breach)

/-- A number that breaks off: at the end of the text a reader sees an unfinished value. -/
def breakOff (index ahead : Nat) : List Symbol → Scan
  | [] => .broken ⟨Problem.eofValue.at index, Problem.invalidNumber.at index⟩
  | _ :: _ => .broken (.both .invalidNumber (index + ahead))

/-- The value of a digit symbol. -/
def digitOf : Symbol → Option Nat
  | some c => digit? c
  | none => none

/-- Passes over digits that no longer matter. -/
def drop (value : Except Fault JsonNumber) (index : Nat) : List Symbol → Scan
  | [] => .done value index []
  | s :: rest =>
    match digitOf s with
    | some _ => drop value (index + 1) rest
    | none => .done value index (s :: rest)

/-- The digits of an exponent after the first one. -/
def exponentDigits (negative : Bool) (significand : Nat) (power : Int) (down : Bool)
    (exponent : Nat) (index : Nat) : List Symbol → Scan
  | [] => .done (float negative significand (if down then power - exponent else power + exponent)
      index) index []
  | s :: rest =>
    match digitOf s with
    | some d =>
      if 10 * exponent + d < 2147483648 then
        exponentDigits negative significand power down (10 * exponent + d) (index + 1) rest
      else if significand ≠ 0 ∧ ¬down then
        drop (.error (Problem.numberOutOfRange.at (index + 1))) (index + 1) rest
      else drop (.ok (.float (.zero negative))) (index + 1) rest
    | none => .done (float negative significand
        (if down then power - exponent else power + exponent) index) index (s :: rest)

/-- The first digit of an exponent, which has to be there. -/
def exponentStart (negative : Bool) (significand : Nat) (power : Int) (down : Bool) (index : Nat) :
    List Symbol → Scan
  | [] => breakOff index 1 []
  | s :: rest =>
    match digitOf s with
    | some d => exponentDigits negative significand power down d (index + 1) rest
    | none => breakOff index 1 (s :: rest)

/-- What follows the exponent mark. -/
def exponent (negative : Bool) (significand : Nat) (power : Int) (index : Nat) :
    List Symbol → Scan
  | some '+' :: rest => exponentStart negative significand power false (index + 1) rest
  | some '-' :: rest => exponentStart negative significand power true (index + 1) rest
  | rest => exponentStart negative significand power false index rest

/-- The digits behind the point; `seen` tells whether there was one, `full` whether the significand
has no room left. -/
def fraction (negative seen full : Bool) (significand : Nat) (power : Int) (index : Nat) :
    List Symbol → Scan
  | [] =>
    if seen then .done (float negative significand power index) index [] else breakOff index 1 []
  | s :: rest =>
    match digitOf s with
    | some d =>
      if full ∨ greatest < 10 * significand + d then
        fraction negative true true significand power (index + 1) rest
      else fraction negative true false (10 * significand + d) (power - 1) (index + 1) rest
    | none =>
      if !seen then breakOff index 1 (s :: rest)
      else if s = some 'e' ∨ s = some 'E' then
        exponent negative significand power (index + 1) rest
      else .done (float negative significand power index) index (s :: rest)

/-- The digits in front of the point; `extra` counts those that found no room. -/
def wholeDigits (negative : Bool) (significand extra : Nat) (index : Nat) : List Symbol → Scan
  | [] => .done (if extra = 0 then whole negative significand index
      else float negative significand extra index) index []
  | s :: rest =>
    match digitOf s with
    | some d =>
      if extra = 0 ∧ 10 * significand + d ≤ greatest then
        wholeDigits negative (10 * significand + d) 0 (index + 1) rest
      else wholeDigits negative significand (extra + 1) (index + 1) rest
    | none =>
      if s = some '.' then fraction negative false false significand extra (index + 1) rest
      else if s = some 'e' ∨ s = some 'E' then
        exponent negative significand extra (index + 1) rest
      else .done (if extra = 0 then whole negative significand index
        else float negative significand extra index) index (s :: rest)

/-- What follows the sign of a number: a zero stands alone in front of the point. -/
def unsigned (negative : Bool) (index : Nat) : List Symbol → Scan
  | [] => breakOff index 1 []
  | s :: rest =>
    match digitOf s with
    | none => breakOff index 1 (s :: rest)
    | some 0 =>
      match rest with
      | t :: _ =>
        match digitOf t with
        | some _ => .broken (.both .invalidNumber (index + 2))
        | none => wholeDigits negative 0 0 (index + 1) rest
      | [] => wholeDigits negative 0 0 (index + 1) rest
    | some d => wholeDigits negative d 0 (index + 1) rest

end NumberText
end Checkout.Json
