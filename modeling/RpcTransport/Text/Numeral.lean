/-!
# Unsigned numerals

A numeral is a nonempty run of ASCII digits, optionally after one plus sign, whose value is at
most a bound. Leading zeros are allowed, blanks and signs elsewhere are not. `Numeral.value?` is
what every setting, port and serialization id is read with; the bound is the width of its field.
-/

namespace RpcTransport.Numeral

def digit? (c : Char) : Option Nat :=
  if '0' ≤ c ∧ c ≤ '9' then some (c.toNat - 48) else none

def digitsValue? (cs : List Char) : Option Nat :=
  cs.foldl (fun acc c ↦ do return 10 * (← acc) + (← digit? c)) (some 0)

def unsigned? : List Char → Option Nat
  | [] => none
  | ['+'] => none
  | '+' :: cs => digitsValue? cs
  | cs => digitsValue? cs

/-- The value of a numeral, if it is at most `bound`. -/
def value? (bound : Nat) (cs : List Char) : Option Nat :=
  (unsigned? cs).filter (· ≤ bound)

theorem le_of_value? {bound n : Nat} {cs : List Char} (h : value? bound cs = some n) :
    n ≤ bound := by
  simpa using (Option.filter_eq_some_iff.1 h).2

end RpcTransport.Numeral
