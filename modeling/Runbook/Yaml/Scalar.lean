import Runbook.Text.Basic
import Runbook.Yaml.Basic

/-!
# What a plain scalar stands for

The rules of the core schema, tried in order: null, truth value, integer, double, string. An
integer that 64 bits do not hold but 128 bits do is an error; larger ones are doubles. Digits
after a leading zero are a string.
-/

namespace Runbook.Yaml

/-- What a plain scalar can stand for. -/
inductive Meaning where
  | value (value : Yaml)
  | outOfRange

/-- Is the scalar null? The empty one is. -/
def isNullWord (text : String) : Bool :=
  text = "" || text = "null" || text = "Null" || text = "NULL" || text = "~"

/-- The truth value that a word stands for. -/
def boolWord? (text : String) : Option Bool :=
  if text = "true" ∨ text = "True" ∨ text = "TRUE" then some true
  else if text = "false" ∨ text = "False" ∨ text = "FALSE" then some false
  else none

/-- Digits with a zero too many in front: a string, whatever its sign. -/
def isPaddedDigits (text : List Char) : Bool :=
  let digits :=
    match text with
    | '-' :: rest => rest
    | '+' :: rest => rest
    | _ => text
  1 < digits.length && digits.head? = some '0' && (digits.drop 1).all Text.isDigit

/-- A number whose base is named by two leading characters. -/
def basedNumber? : List Char → Option Nat
  | '0' :: 'x' :: digits => Text.number? 16 digits
  | '0' :: 'o' :: digits => Text.number? 8 digits
  | '0' :: 'b' :: digits => Text.number? 2 digits
  | _ => none

/-- The integer a text stands for, of any size. -/
def integer? (text : List Char) : Option Int :=
  match text with
  | '-' :: rest =>
      match basedNumber? rest with
      | some n => some (-(n : Int))
      | none => if isPaddedDigits text then none else (Text.number? 10 rest).map fun n => -(n : Int)
  | _ =>
      let rest :=
        match text with
        | '+' :: rest => rest
        | _ => text
      match basedNumber? rest with
      | some n => some n
      | none => if isPaddedDigits text then none else (Text.number? 10 rest).map fun n => (n : Int)

/-- Decimal digits with an optional fraction and an optional exponent, as a finite double. -/
def decimal? (negative : Bool) (text : List Char) : Option Binary64 := do
  let whole := text.takeWhile Text.isDigit
  let rest := text.dropWhile Text.isDigit
  let (fraction, rest) :=
    match rest with
    | '.' :: rest => (rest.takeWhile Text.isDigit, rest.dropWhile Text.isDigit)
    | _ => ([], rest)
  let digits ← Text.number? 10 (whole ++ fraction)
  let exponent : Int ←
    match rest with
    | [] => some 0
    | mark :: rest =>
        if mark = 'e' ∨ mark = 'E' then
          match rest with
          | '-' :: rest => (Text.number? 10 rest).map fun n => -(n : Int)
          | '+' :: rest => (Text.number? 10 rest).map fun n => (n : Int)
          | _ => (Text.number? 10 rest).map fun n => (n : Int)
        else none
  let value := Binary64.ofDecimal negative digits (exponent - fraction.length)
  if value.isFinite then some value else none

/-- The double a text stands for. Infinity and the number of no value have words of their
own, which a sign may stand before as the words allow. -/
def real? (text : List Char) : Option Binary64 :=
  let unsigned :=
    match text with
    | '+' :: rest => rest
    | _ => text
  let word (words : List String) (text : List Char) : Bool := words.contains (String.ofList text)
  if word [".inf", ".Inf", ".INF"] unsigned then some (Binary64.infinity false)
  else if word ["-.inf", "-.Inf", "-.INF"] text then some (Binary64.infinity true)
  else if word [".nan", ".NaN", ".NAN"] text then some Binary64.nan
  else
    match text, unsigned with
    | '+' :: _, '-' :: _ => none
    | _, '-' :: rest => decimal? true rest
    | _, _ => decimal? false unsigned

/-- An integer as a value, where 64 bits hold it. -/
def ofInteger (i : Int) : Meaning :=
  if -(Nat.pow 2 63 : Int) ≤ i ∧ i < (Nat.pow 2 64 : Int) then .value (.number (.integer i)) else .outOfRange

/-- Does a machine integer of 128 bits hold it? -/
def fitsWide (i : Int) : Bool := decide (-(Nat.pow 2 127 : Int) ≤ i ∧ i < (Nat.pow 2 128 : Int))

/-- What a plain scalar stands for. -/
def meaning (text : String) : Meaning :=
  let chars := text.toList
  if isNullWord text then .value .null
  else
    match boolWord? text with
    | some b => .value (.bool b)
    | none =>
        match (integer? chars).filter fitsWide with
        | some i => ofInteger i
        | none =>
            match if isPaddedDigits chars then none else real? chars with
            | some x => .value (.number (.real x))
            | none => .value (.string text)

end Runbook.Yaml
