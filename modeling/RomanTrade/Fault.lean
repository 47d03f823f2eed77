import RomanTrade.Json.Problem
import RomanTrade.Numeral.Validity
import RomanTrade.Text.Blank

/-!
# Faults

Everything that can go wrong in a session, as causes.  `Fault.message` is the wording that the
user sees.  `Fault.isUserFault` separates what was typed from what the surroundings did: files,
streams and settings.
-/

namespace RomanTrade

inductive FileFault where
  | notFound
  | exists
  | notADirectory
  | isADirectory
  | nameTooLong
  | nulInName
  /-- The bytes that were read are not UTF-8. -/
  | notText
  | other (reason : String)
  deriving DecidableEq, Repr

def FileFault.message : FileFault → String
  | .notFound => "No such file or directory (os error 2)"
  | .exists => "File exists (os error 17)"
  | .notADirectory => "Not a directory (os error 20)"
  | .isADirectory => "Is a directory (os error 21)"
  | .nameTooLong => "File name too long (os error 36)"
  | .nulInName => "file name contained an unexpected NUL byte"
  | .notText => "stream did not contain valid UTF-8"
  | .other reason => reason

inductive SettingsFault where
  | missing (path : String)
  | unreadable (path : String) (cause : FileFault)
  | malformed (path : String) (problem : Json.Problem)
  | unwritable (path : String) (cause : FileFault)
  | other (reason : String)
  deriving DecidableEq, Repr

def SettingsFault.message : SettingsFault → String
  | .missing path => s!"Configuration file '{path}' not found."
  | .unreadable path cause => s!"Failed to read {path}: {cause.message}"
  | .malformed path problem => s!"Invalid JSON in '{path}': {problem.message}"
  | .unwritable path cause => s!"Failed to write {path}: {cause.message}"
  | .other reason => reason

inductive ValueFault where
  | policy (written : String) (allowed : List String)
  | boolean (written : String)
  | key (written : String) (allowed : List String)
  | other (reason : String)
  deriving DecidableEq, Repr

def ValueFault.message : ValueFault → String
  | .policy written allowed =>
    let choices := ", ".intercalate allowed
    s!"Invalid unit price policy: '{Text.trim written}'. Allowed policies: {choices}"
  | .boolean written =>
    s!"Invalid string value for boolean: '{written}'. Valid values: True, False"
  | .key written allowed =>
    let choices := ", ".intercalate allowed
    s!"Unknown configuration key '{written}'. Valid keys: {choices}"
  | .other reason => reason

inductive Fault where
  /-- A line of a known shape with a wrong layout; the words are echoed. -/
  | malformed (echoed : List String)
  | unrecognized
  | unknownMaterial (name : String)
  | notAMaterial (name : String)
  | reservedWord (word : String)
  | tokenIsMaterial (word : String)
  | fractionalUnitPrice (material price : String)
  | priceOverflow (material : String)
  | invalidNumeral (written : String) (violation : Violation)
  | numeralOutOfRange (n : Nat)
  | unknownSymbol (detail : String)
  | settings (cause : SettingsFault)
  | value (cause : ValueFault)
  | file (cause : FileFault)
  | json (problem : Json.Problem)
  deriving DecidableEq, Repr

namespace Fault

def message : Fault → String
  | malformed echoed => s!"invalid input, ignored: {Text.joinWords echoed}"
  | unrecognized => "I have no idea what you are talking about"
  | unknownMaterial name => s!"unknown material: {name}"
  | notAMaterial name => s!"not a material: {name}"
  | reservedWord word => s!"reserved word cannot be defined: {word}"
  | tokenIsMaterial word => s!"already known as a material: {word}"
  | fractionalUnitPrice material price =>
    s!"unit price of {material} is not a whole number of Credits: {price}"
  | priceOverflow material => s!"price out of range for {material}"
  | invalidNumeral written _ => s!"no valid numeral: {written}"
  | numeralOutOfRange n => s!"no numeral for {n}: only 1 to 3999 can be written"
  | unknownSymbol detail => s!"not a roman symbol: {detail}"
  | settings cause => s!"Config error: {cause.message}"
  | value cause => s!"Parse error: {cause.message}"
  | file cause => s!"I/O error: {cause.message}"
  | json problem => s!"JSON error: {problem.message}"

/-- True of the faults that come from what the user typed. -/
def isUserFault : Fault → Bool
  | settings _ | file _ | json _ => false
  | _ => true

end Fault
end RomanTrade
