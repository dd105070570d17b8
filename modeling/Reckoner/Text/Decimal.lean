/-!
# Decimal numerals

Writing a number in decimal digits and reading it back.  Leading zeros change
nothing, so reading is a left inverse of writing but not conversely.
-/

namespace Reckoner.Decimal

/-- The decimal digits of a natural number, the most significant first. -/
def digits (number : Nat) : List Char :=
  Nat.toDigits 10 number

/-- The number that a run of decimal digits writes. -/
def value (run : List Char) : Nat :=
  Nat.ofDigitChars 10 run 0

@[simp]
theorem value_digits (number : Nat) : value (digits number) = number :=
  Nat.ofDigitChars_toDigits (by decide) (by decide)

/-- A signed 64-bit number in decimal, with a minus sign if it is negative. -/
def signed (number : Int64) : String :=
  if number < 0 then
    String.ofList ('-' :: digits number.toInt.natAbs)
  else
    String.ofList (digits number.toInt.natAbs)

/-- A natural number in decimal. -/
def natural (number : Nat) : String :=
  String.ofList (digits number)

end Reckoner.Decimal
