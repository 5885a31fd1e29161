/-
  Counts as they are written on a command line.

  A numeral is a run of at least one decimal digit, with an optional plus sign before it and any
  number of leading zeros, whose value fits a machine word of 64 bits.
-/

namespace SourceWeaver.Text

/-- One more than the largest machine word. -/
def wordBound : Nat := Nat.pow 2 64

/-- The value of a digit in a base up to sixteen. -/
def digitValue? (base : Nat) (c : Char) : Option Nat :=
  let value :=
    if '0' ≤ c && c ≤ '9' then some (c.toNat - '0'.toNat)
    else if 'a' ≤ c && c ≤ 'f' then some (c.toNat - 'a'.toNat + 10)
    else if 'A' ≤ c && c ≤ 'F' then some (c.toNat - 'A'.toNat + 10)
    else none
  value.filter (· < base)

/-- The value of a run of digits, `none` if one of the characters is no digit. -/
def digitsValue? (base : Nat) (cs : List Char) : Option Nat :=
  cs.foldl (fun total c => do return (← total) * base + (← digitValue? base c)) (some 0)

/-- The machine word that a numeral stands for. -/
def word? (s : String) : Option Nat :=
  let digits := match s.toList with
    | '+' :: rest => rest
    | cs => cs
  if digits.isEmpty then none else (digitsValue? 10 digits).filter (· < wordBound)

end SourceWeaver.Text
