import RomanTrade.Fault

/-!
# Unit price policies

Whether a unit price may be a fraction of a Credit.
-/

namespace RomanTrade

inductive UnitPricePolicy where
  | allowFractional
  | wholeCredits
  deriving DecidableEq, Repr

namespace UnitPricePolicy

def all : List UnitPricePolicy := [allowFractional, wholeCredits]

def text : UnitPricePolicy → String
  | allowFractional => "allow-fractional"
  | wholeCredits => "whole-credits"

def help : UnitPricePolicy → String
  | allowFractional =>
    "Keep exact fractional unit prices (3910 Credits for 20 units is 195.5 each)."
  | wholeCredits =>
    "Reject price statements whose unit price is not a whole number of Credits."

def ofText (written : String) : Except Fault UnitPricePolicy :=
  match all.find? fun policy => Text.sameIgnoringCase written policy.text with
  | some policy => .ok policy
  | none => .error (.value (.policy written (all.map text)))

end UnitPricePolicy
end RomanTrade
