import RomanTrade.Json.Skim
import RomanTrade.Settings.Basic

/-!
# Settings as a document

Settings are stored as a JSON object with one item per setting; an item holds a value and a
description.  The reader also takes sequences in the place of objects, leaves the default where an
item is missing and passes over unknown keys.  The writer always writes the three items in order.
-/

namespace RomanTrade
namespace Settings

open Json

structure ItemSchema (α : Type) where
  name : String
  readValue : List Char → Except Problem (α × List Char)

/-- The policy of a name in a document, which is written in lower case. -/
def policyNamed (written : String) : Except Problem UnitPricePolicy :=
  match UnitPricePolicy.all.find? fun policy => policy.text == written with
  | some policy => .ok policy
  | none => .error (.unknownVariant written (UnitPricePolicy.all.map UnitPricePolicy.text))

/-- Reads a policy: its name, or an object with the name as its only key and null behind it. -/
def readPolicyValue (input : List Char) :
    Except Problem (UnitPricePolicy × List Char) :=
  match skipSpace input with
  | [] => .error .endInValue
  | c :: rest =>
    if c = '\x22' then do
      let (name, after) ← readString rest
      let policy ← policyNamed name
      return (policy, after)
    else if c = '\x7b' then do
      match ← nextKey true rest with
      | (none, _) => .error .expectedValue
      | (some name, after) =>
        let policy ← policyNamed name
        let after ← readColon after
        let after ← readNull after
        match skipSpace after with
        | [] => .error .endInObject
        | d :: more => if d = '\x7d' then return (policy, more) else .error .expectedValue
    else .error .expectedValue

/-- Reads a truth value, which is stored as a string. -/
def readBooleanValue (input : List Char) : Except Problem (Bool × List Char) := do
  let (written, after) ← readStringValue "a string" input
  match readBoolean written with
  | .ok value => return (value, after)
  | .error fault => .error (.refusedText fault.message)

def policySchema : ItemSchema UnitPricePolicy := ⟨"UnitPricePolicyConfigItem", readPolicyValue⟩

def fileLoggingSchema : ItemSchema Bool := ⟨"FileLoggingConfigItem", readBooleanValue⟩

def showBannerSchema : ItemSchema Bool := ⟨"ShowBannerConfigItem", readBooleanValue⟩

/-- Reads an item written as a sequence of value and description, from behind its bracket. -/
def readItemSequence {α : Type} (schema : ItemSchema α) (input : List Char) :
    Except Problem (Setting α × List Char) := do
  let (hasValue, input) ← nextElement true input
  if !hasValue then
    .error (.invalidLength 0 s!"struct {schema.name} with 2 elements")
  else
    let (value, input) ← schema.readValue input
    let (hasDescription, input) ← nextElement false input
    if !hasDescription then
      .error (.invalidLength 1 s!"struct {schema.name} with 2 elements")
    else
      let (description, input) ← readStringValue "a string" input
      let input ← closeSequence input
      return (⟨value, description⟩, input)

structure PartialItem (α : Type) where
  value : Option α := none
  description : Option String := none

def PartialItem.complete {α : Type} (item : PartialItem α) : Except Problem (Setting α) :=
  match item.value, item.description with
  | none, _ => .error (.missingField "value")
  | some _, none => .error (.missingField "description")
  | some value, some description => .ok ⟨value, description⟩

def readItemField {α : Type} (schema : ItemSchema α) (item : PartialItem α) (key : String)
    (input : List Char) : Except Problem (PartialItem α × List Char) :=
  if key = "value" then
    if item.value.isSome then .error (.duplicateField key)
    else do
      let (value, input) ← schema.readValue (← readColon input)
      return ({ item with value := some value }, input)
  else if key = "description" then
    if item.description.isSome then .error (.duplicateField key)
    else do
      let (description, input) ← readStringValue "a string" (← readColon input)
      return ({ item with description := some description }, input)
  else do
    let input ← skimValue .ignored (← readColon input)
    return (item, input)

def readItemFields {α : Type} (schema : ItemSchema α) :
    Nat → Bool → PartialItem α → List Char → Except Problem (Setting α × List Char)
  | 0, _, _, _ => .error .endInObject
  | fuel + 1, isFirst, item, input => do
    match ← nextKey isFirst input with
    | (none, input) => return (← item.complete, input)
    | (some key, input) =>
      let (item, input) ← readItemField schema item key input
      readItemFields schema fuel false item input

/-- Reads an item.  An object has fewer fields than characters. -/
def readItem {α : Type} (schema : ItemSchema α) (input : List Char) :
    Except Problem (Setting α × List Char) :=
  match skipSpace input with
  | [] => .error .endInValue
  | c :: rest =>
    if c = '[' then readItemSequence schema rest
    else if c = '\x7b' then readItemFields schema (rest.length + 1) true {} rest
    else .error (wrongKind s!"struct {schema.name}" (c :: rest))

structure PartialSettings where
  unitPricePolicy : Option (Setting UnitPricePolicy) := none
  fileLogging : Option (Setting Bool) := none
  showBanner : Option (Setting Bool) := none

/-- Items that are missing have their defaults. -/
def PartialSettings.complete (items : PartialSettings) : Settings :=
  let defaults : Settings := {}
  { unitPricePolicy := items.unitPricePolicy.getD defaults.unitPricePolicy
    fileLogging := items.fileLogging.getD defaults.fileLogging
    showBanner := items.showBanner.getD defaults.showBanner }

def policyKey : String := "unit_price_policy"

def fileLoggingKey : String := "file_logging_enabled"

def showBannerKey : String := "show_banner"

def readEntry (items : PartialSettings) (key : String) (input : List Char) :
    Except Problem (PartialSettings × List Char) :=
  if key = policyKey then
    if items.unitPricePolicy.isSome then .error (.duplicateField key)
    else do
      let (item, input) ← readItem policySchema (← readColon input)
      return ({ items with unitPricePolicy := some item }, input)
  else if key = fileLoggingKey then
    if items.fileLogging.isSome then .error (.duplicateField key)
    else do
      let (item, input) ← readItem fileLoggingSchema (← readColon input)
      return ({ items with fileLogging := some item }, input)
  else if key = showBannerKey then
    if items.showBanner.isSome then .error (.duplicateField key)
    else do
      let (item, input) ← readItem showBannerSchema (← readColon input)
      return ({ items with showBanner := some item }, input)
  else do
    let input ← skimValue .ignored (← readColon input)
    return (items, input)

def readEntries : Nat → Bool → PartialSettings → List Char →
    Except Problem (Settings × List Char)
  | 0, _, _, _ => .error .endInObject
  | fuel + 1, isFirst, items, input => do
    match ← nextKey isFirst input with
    | (none, input) => return (items.complete, input)
    | (some key, input) =>
      let (items, input) ← readEntry items key input
      readEntries fuel false items input

/-- Reads the settings from a sequence of at most three items, from behind its bracket. -/
def readSequence (input : List Char) : Except Problem (Settings × List Char) := do
  let (hasPolicy, input) ← nextElement true input
  if !hasPolicy then return ({}, ← closeSequence input)
  else
    let (policy, input) ← readItem policySchema input
    let items : PartialSettings := { unitPricePolicy := some policy }
    let (hasLogging, input) ← nextElement false input
    if !hasLogging then return (items.complete, ← closeSequence input)
    else
      let (logging, input) ← readItem fileLoggingSchema input
      let items := { items with fileLogging := some logging }
      let (hasBanner, input) ← nextElement false input
      if !hasBanner then return (items.complete, ← closeSequence input)
      else
        let (banner, input) ← readItem showBannerSchema input
        let items := { items with showBanner := some banner }
        return (items.complete, ← closeSequence input)

def readSettings (input : List Char) : Except Problem (Settings × List Char) :=
  match skipSpace input with
  | [] => .error .endInValue
  | c :: rest =>
    if c = '[' then readSequence rest
    else if c = '\x7b' then readEntries (rest.length + 1) true {} rest
    else .error (wrongKind "struct ConfigFile" (c :: rest))

def ofDocument (document : String) : Except Problem Settings := do
  let (settings, rest) ← readSettings document.toList
  expectEnd rest
  return settings

/-! ### Writing -/

/-- One item as it is stored, indented by two spaces. -/
def itemDocument (key value description : String) : String :=
  "  " ++ escaped key ++ ": \x7b\n    " ++ escaped "value" ++ ": " ++ escaped value ++
    ",\n    " ++ escaped "description" ++ ": " ++ escaped description ++ "\n  \x7d"

def document (settings : Settings) : String :=
  let items :=
    [itemDocument policyKey (settings.valueText .unitPricePolicy)
        settings.unitPricePolicy.description,
      itemDocument fileLoggingKey (settings.valueText .fileLogging)
        settings.fileLogging.description,
      itemDocument showBannerKey (settings.valueText .showBanner)
        settings.showBanner.description]
  "\x7b\n" ++ ",\n".intercalate items ++ "\n\x7d"

end Settings
end RomanTrade
