import RomanTrade.Policy

/-!
# Settings

The three settings of the program.  Each has a value and a description; changing a setting keeps
its description.
-/

namespace RomanTrade

structure Setting (α : Type) where
  value : α
  description : String
  deriving DecidableEq, Repr

structure Settings where
  unitPricePolicy : Setting UnitPricePolicy :=
    ⟨.allowFractional, "How to treat a unit price that is not a whole number of Credits."⟩
  fileLogging : Setting Bool := ⟨true, "Enable writing log messages to file."⟩
  showBanner : Setting Bool := ⟨true, "Print the banner and usage hints at startup."⟩
  deriving DecidableEq, Repr

inductive SettingKey where
  | unitPricePolicy
  | fileLogging
  | showBanner
  deriving DecidableEq, Repr

namespace SettingKey

def all : List SettingKey := [unitPricePolicy, fileLogging, showBanner]

def text : SettingKey → String
  | unitPricePolicy => "UNIT_PRICE_POLICY"
  | fileLogging => "FILE_LOGGING_ENABLED"
  | showBanner => "SHOW_BANNER"

/-- A key is written exactly as it is listed. -/
def ofText (written : String) : Except Fault SettingKey :=
  match all.find? fun key => key.text == written with
  | some key => .ok key
  | none => .error (.value (.key written (all.map text)))

end SettingKey

namespace Settings

def booleanText (value : Bool) : String :=
  if value then "True" else "False"

def readBoolean (written : String) : Except Fault Bool :=
  if Text.sameIgnoringCase written "true" then .ok true
  else if Text.sameIgnoringCase written "false" then .ok false
  else .error (.value (.boolean written))

def valueText (settings : Settings) : SettingKey → String
  | .unitPricePolicy => settings.unitPricePolicy.value.text
  | .fileLogging => booleanText settings.fileLogging.value
  | .showBanner => booleanText settings.showBanner.value

def description (settings : Settings) : SettingKey → String
  | .unitPricePolicy => settings.unitPricePolicy.description
  | .fileLogging => settings.fileLogging.description
  | .showBanner => settings.showBanner.description

def rows (settings : Settings) : List (String × String × String) :=
  SettingKey.all.map fun key => (key.text, settings.description key, settings.valueText key)

def change (settings : Settings) (key : SettingKey) (written : String) :
    Except Fault Settings :=
  match key with
  | .unitPricePolicy =>
    (UnitPricePolicy.ofText written).map fun value =>
      { settings with unitPricePolicy := { settings.unitPricePolicy with value } }
  | .fileLogging =>
    (readBoolean written).map fun value =>
      { settings with fileLogging := { settings.fileLogging with value } }
  | .showBanner =>
    (readBoolean written).map fun value =>
      { settings with showBanner := { settings.showBanner with value } }

end Settings
end RomanTrade
