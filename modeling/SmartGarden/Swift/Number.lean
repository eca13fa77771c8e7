import Mathlib.Algebra.Group.Int.Defs
import Mathlib.Algebra.Group.Nat.Defs
import Mathlib.Data.Rat.Defs
import SmartGarden.Swift.String

/-!
This module contains the number formats of Swift's standard library: `Int(text)`, `Float(text)` and
`Double(text)` with the grammar that their documentation gives, the conversions between `Int` and
`Double`, and the texts of an `Int`.
-/

namespace Swift

def natOfDigits (base : Nat) (digit : Char → Nat) (ds : Str) : Nat :=
  ds.foldl (fun acc c => acc * base + digit c) 0

def decimalDigit (c : Char) : Nat :=
  c.toNat - '0'.toNat

def isHexDigit (c : Char) : Bool :=
  c.isDigit || ('a' ≤ c && c ≤ 'f')

def hexDigit (c : Char) : Nat :=
  if c.isDigit then decimalDigit c else c.toNat - 'a'.toNat + 10

def decimalNat? (ds : Str) : Option Nat :=
  if !ds.isEmpty && ds.all Char.isDigit then some (natOfDigits 10 decimalDigit ds) else none

def signedInt? : Str → Option Int
  | '-' :: ds => (decimalNat? ds).map fun n => -(n : Int)
  | '+' :: ds => (decimalNat? ds).map fun n => (n : Int)
  | ds => (decimalNat? ds).map fun n => (n : Int)

def Int? (s : Str) : Option Int :=
  (signedInt? s).filter fun n => -2 ^ 63 ≤ n && n < 2 ^ 63

def rounded (value : Rat) : Int :=
  if 0 ≤ value then (value + 1 / 2).floor else (value - 1 / 2).ceil

/--
`value` without its fraction, as `Int(value)` has it.
-/
def truncated (value : Rat) : Int :=
  if 0 ≤ value then value.floor else value.ceil

def truncatingRemainder (value other : Rat) : Rat :=
  value - truncated (value / other) * other

def description (n : Int) : Str :=
  if n < 0 then '-' :: Nat.toDigits 10 n.natAbs else Nat.toDigits 10 n.natAbs

/--
`String(format: "%02d", n)`. The conversion reads its argument as a 32 bit integer.
-/
def format02d (n : Int) : Str :=
  let v := n.bmod (2 ^ 32)
  let digits := Nat.toDigits 10 v.natAbs
  if v < 0 then
    '-' :: digits
  else if v < 10 then
    '0' :: digits
  else
    digits

/--
A `Float` or a `Double` before its significand is rounded.
-/
inductive FloatValue where
  | finite (value : Rat)
  | infinity (negative : Bool)
  | nan
  deriving DecidableEq, Repr

def FloatValue.neg : FloatValue → FloatValue
  | .finite value => .finite (-value)
  | .infinity negative => .infinity !negative
  | .nan => .nan

/--
`Int(value)`, which traps when the number has no `Int`.
-/
def FloatValue.toInt? : FloatValue → Option Int
  | .finite value =>
    let n := truncated value
    if -2 ^ 63 ≤ n ∧ n < 2 ^ 63 then some n else none
  | .infinity _ | .nan => none

def scale (significand base : Nat) (exponent : Int) : Rat :=
  match exponent with
  | .ofNat e => (significand : Rat) * ((base ^ e : Nat) : Rat)
  | .negSucc e => (significand : Rat) / ((base ^ (e + 1) : Nat) : Rat)

def significand? (base exponentBase pointWeight : Nat) (isDigit : Char → Bool) (digit : Char → Nat)
    (mark : Char) (s : Str) : Option FloatValue :=
  let whole := s.takeWhile isDigit
  let rest := s.dropWhile isDigit
  let fraction := if rest.head? = some '.' then rest.tail.takeWhile isDigit else []
  let rest := if rest.head? = some '.' then rest.tail.dropWhile isDigit else rest
  let significand := natOfDigits base digit (whole ++ fraction)
  let shift := -((pointWeight * fraction.length : Nat) : Int)
  if whole.isEmpty && fraction.isEmpty then
    none
  else
    match rest with
    | [] => some (.finite (scale significand exponentBase shift))
    | c :: exponent =>
      if c = mark then
        (signedInt? exponent).map fun e => .finite (scale significand exponentBase (shift + e))
      else
        none

def isPayload : Str → Bool
  | [] => true
  | '(' :: s =>
    s.getLast? == some ')' &&
      match s.dropLast with
      | '0' :: 'x' :: ds => ds.all isHexDigit
      | ds => ds.all Char.isDigit
  | _ => false

def unsignedFloat? (s : Str) : Option FloatValue :=
  let s := s.map Char.toLower
  if s = ['i', 'n', 'f'] ∨ s = ['i', 'n', 'f', 'i', 'n', 'i', 't', 'y'] then
    some (.infinity false)
  else if s.take 3 = ['n', 'a', 'n'] then
    if isPayload (s.drop 3) then some .nan else none
  else
    match s with
    | '0' :: 'x' :: ds => significand? 16 2 4 isHexDigit hexDigit 'p' ds
    | ds => significand? 10 10 1 Char.isDigit decimalDigit 'e' ds

/--
`Float(text)` and `Double(text)`, which accept the same texts.
-/
def Double? : Str → Option FloatValue
  | '-' :: s => (unsignedFloat? s).map FloatValue.neg
  | '+' :: s => unsignedFloat? s
  | s => unsignedFloat? s

example : Double? ['-', '1', '.', '5', 'e', '2'] = some (.finite (-150)) := by decide +kernel

example : Double? [' ', '5'] = none := by decide

end Swift
