import BlockData.Number.Decimal

/-!
# Shortest decimals

The fewest digits that read back as a given binary64 magnitude. The exact value
of a magnitude is a decimal with exponent `-1074`; cut after some digits it has
two neighbours with that many digits, the cut itself and the next decimal. The
first number of digits for which a neighbour reads back wins, and of two
neighbours the nearer one. `reads_back` holds of whatever the search finds.
-/

namespace BlockData

/-- What a search takes when two decimals are equally near. -/
inductive TieRule where
  | larger
  | even
deriving DecidableEq, Repr

/-- The exact value of a finite magnitude. -/
def Decimal.ofMagnitude (magnitude : Nat) : Decimal :=
  ⟨Binary64.units magnitude * Nat.pow 5 1074, -1074⟩

namespace Shortest

/-- Whether the larger neighbour is chosen when both read back: it is nearer,
or equally near and preferred by the rule. -/
def prefersLarger (rule : TieRule) (below remainder unit : Nat) : Bool :=
  decide (unit < 2 * remainder) ||
    (2 * remainder == unit && (rule == .larger || below % 2 == 1))

/-- The decimal with `count` digits that reads back as a magnitude, the nearer
one if there are two. `expansion` is the coefficient of the exact value and has
`length` digits. -/
def withDigits? (rule : TieRule) (magnitude expansion length count : Nat) : Option Decimal :=
  let unit := Nat.pow 10 (length - count)
  let exponent : Int := (length - count : Nat) - 1074
  let below := expansion / unit
  let remainder := expansion % unit
  let smaller : Decimal := ⟨below, exponent⟩
  let larger : Decimal := ⟨below + 1, exponent⟩
  let smallerReads := decide (smaller.toMagnitude = magnitude)
  let largerReads := decide (larger.toMagnitude = magnitude)
  if largerReads && (!smallerReads || prefersLarger rule below remainder unit) then some larger
  else if smallerReads then some smaller
  else none

end Shortest

/-- The shortest decimal that reads back as a finite magnitude. Seventeen digits
always suffice; the exact value stands behind them. -/
def Decimal.shortest (rule : TieRule) (magnitude : Nat) : Decimal :=
  if magnitude = 0 then ⟨0, 0⟩ else
  let exact := Decimal.ofMagnitude magnitude
  let length := exact.digits.length
  let found := (List.range 17).findSome? fun count =>
    Shortest.withDigits? rule magnitude exact.coefficient length (count + 1)
  (found.getD exact).reduced

/-- Whatever decimal the search finds reads back as the magnitude. -/
theorem Shortest.reads_back {rule : TieRule} {magnitude expansion length count : Nat}
    {found : Decimal}
    (search : withDigits? rule magnitude expansion length count = some found) :
    found.toMagnitude = magnitude := by
  simp only [withDigits?] at search
  split at search
  · rename_i chosen
    cases search
    simp only [Bool.and_eq_true, decide_eq_true_eq] at chosen
    exact chosen.1
  · split at search
    · rename_i chosen
      cases search
      exact of_decide_eq_true chosen
    · cases search

end BlockData
