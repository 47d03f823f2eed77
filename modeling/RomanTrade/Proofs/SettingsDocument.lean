import RomanTrade.Proofs.EscapedText
import RomanTrade.Settings.Document

/-!
# Settings read back from their document

The document that is written for settings is read as these settings.  Each reader takes its part of
the document from the front of the input and leaves the rest alone, so the parts are read back one
by one and put together in the order in which they are written.
-/

namespace RomanTrade

namespace Json

variable {space : List Char}

theorem skipSpace_append (hspace : space.all isSpace = true) (rest : List Char) :
    skipSpace (space ++ rest) = skipSpace rest :=
  List.dropWhile_append_of_pos (List.all_eq_true.mp hspace)

theorem skipSpace_escaped (hspace : space.all isSpace = true) (text : String)
    (rest : List Char) :
    skipSpace (space ++ ((escaped text).toList ++ rest)) =
      '\x22' :: (text.toList.flatMap escapedChar ++ '\x22' :: rest) := by
  rw [skipSpace_append hspace, toList_escaped]
  simp [skipSpace, isSpace]

theorem nextKey_escaped (hspace : space.all isSpace = true) (key : String)
    (rest : List Char) :
    nextKey true (space ++ ((escaped key).toList ++ rest)) = .ok (some key, rest) := by
  unfold nextKey
  simp [skipSpace_escaped hspace, readString_escaped, Except.map]

theorem nextKey_comma (hspace : space.all isSpace = true) (key : String) (rest : List Char) :
    nextKey false (',' :: (space ++ ((escaped key).toList ++ rest))) = .ok (some key, rest) := by
  have hcomma : skipSpace (',' :: (space ++ ((escaped key).toList ++ rest))) =
      ',' :: (space ++ ((escaped key).toList ++ rest)) := rfl
  unfold nextKey
  rw [hcomma]
  simp [skipSpace_escaped hspace, readString_escaped, Except.map]

theorem nextKey_close (hspace : space.all isSpace = true) (isFirst : Bool)
    (rest : List Char) :
    nextKey isFirst (space ++ '\x7d' :: rest) = .ok (none, rest) := by
  have hbrace : skipSpace ('\x7d' :: rest) = '\x7d' :: rest := rfl
  unfold nextKey
  simp [skipSpace_append hspace, hbrace]

theorem readColon_colon (rest : List Char) : readColon (':' :: rest) = .ok rest := rfl

theorem readStringValue_escaped (hspace : space.all isSpace = true)
    (expected text : String) (rest : List Char) :
    readStringValue expected (space ++ ((escaped text).toList ++ rest)) = .ok (text, rest) := by
  unfold readStringValue
  simp [skipSpace_escaped hspace, readString_escaped]

end Json

namespace Settings

open Json

theorem policyNamed_text (policy : UnitPricePolicy) : policyNamed policy.text = .ok policy := by
  cases policy with
  | allowFractional => rfl
  | wholeCredits => rfl

theorem readBoolean_booleanText (value : Bool) : readBoolean (booleanText value) = .ok value := by
  cases value with
  | false => rfl
  | true => rfl

variable {space : List Char}

theorem readPolicyValue_text (hspace : space.all isSpace = true) (policy : UnitPricePolicy)
    (rest : List Char) :
    readPolicyValue (space ++ ((escaped policy.text).toList ++ rest)) = .ok (policy, rest) := by
  unfold readPolicyValue
  rw [skipSpace_escaped hspace]
  simp only [if_true, readString_escaped, bind, Except.bind, policyNamed_text]
  rfl

theorem readBooleanValue_booleanText (hspace : space.all isSpace = true) (value : Bool)
    (rest : List Char) :
    readBooleanValue (space ++ ((escaped (booleanText value)).toList ++ rest)) =
      .ok (value, rest) := by
  unfold readBooleanValue
  rw [readStringValue_escaped hspace]
  simp only [bind, Except.bind, readBoolean_booleanText]
  rfl

/-! ### Items -/

/-- The fields of an item as they are written, from behind its opening brace. -/
def fieldLetters (value description : String) (rest : List Char) : List Char :=
  "\n    ".toList ++ ((escaped "value").toList ++ (':' :: (" ".toList ++ ((escaped value).toList ++
    (',' :: ("\n    ".toList ++ ((escaped "description").toList ++ (':' :: (" ".toList ++
      ((escaped description).toList ++ ("\n  ".toList ++ '\x7d' :: rest)))))))))))

variable {α : Type} {schema : ItemSchema α}

theorem readItemFields_field {fuel : Nat} {isFirst : Bool} {item next : PartialItem α}
    {key : String} {input behind after : List Char}
    (hkey : nextKey isFirst input = .ok (some key, behind))
    (hfield : readItemField schema item key behind = .ok (next, after)) :
    readItemFields schema (fuel + 1) isFirst item input =
      readItemFields schema fuel false next after := by
  rw [readItemFields]
  simp only [hkey, bind, Except.bind, hfield]

theorem readItemFields_close {fuel : Nat} {isFirst : Bool} {item : PartialItem α}
    {setting : Setting α} {input after : List Char}
    (hkey : nextKey isFirst input = .ok (none, after)) (hitem : item.complete = .ok setting) :
    readItemFields schema (fuel + 1) isFirst item input = .ok (setting, after) := by
  rw [readItemFields]
  simp only [hkey, bind, Except.bind, hitem]
  rfl

theorem readItemField_value {value : α} {item : PartialItem α} {input after : List Char}
    (hnew : item.value = none) (hvalue : schema.readValue input = .ok (value, after)) :
    readItemField schema item "value" (':' :: input) =
      .ok ({ item with value := some value }, after) := by
  unfold readItemField
  simp only [if_true, hnew, Option.isSome_none, Bool.false_eq_true, if_false, readColon_colon, bind,
    Except.bind, hvalue]
  rfl

theorem readItemField_description {description : String} {item : PartialItem α}
    {input after : List Char} (hnew : item.description = none)
    (hread : readStringValue "a string" input = .ok (description, after)) :
    readItemField schema item "description" (':' :: input) =
      .ok ({ item with description := some description }, after) := by
  have hother : "description" ≠ "value" := by decide
  unfold readItemField
  simp only [if_neg hother, if_true, hnew, Option.isSome_none, Bool.false_eq_true, if_false,
    readColon_colon, bind, Except.bind, hread]
  rfl

/-- An item is read back if its schema reads its value back. -/
theorem readItem_fieldLetters {value : α} {written : String}
    (hvalue : ∀ rest, schema.readValue (" ".toList ++ ((escaped written).toList ++ rest)) =
      .ok (value, rest)) (description : String) (rest : List Char) :
    readItem schema (" ".toList ++ '\x7b' :: fieldLetters written description rest) =
      .ok (⟨value, description⟩, rest) := by
  have hindent : "\n    ".toList.all isSpace = true := by decide
  have hfuel : 2 ≤ (fieldLetters written description rest).length := by
    unfold fieldLetters
    rw [List.length_append]
    exact Nat.le_add_right_of_le (by decide)
  obtain ⟨fuel, hlength⟩ := Nat.exists_eq_add_of_le' hfuel
  have hread : readItemFields schema (fuel + 3) true {} (fieldLetters written description rest) =
      .ok (⟨value, description⟩, rest) := by
    unfold fieldLetters
    rw [readItemFields_field (nextKey_escaped hindent _ _) (readItemField_value rfl (hvalue _)),
      readItemFields_field (nextKey_comma hindent _ _)
        (readItemField_description rfl (readStringValue_escaped (by decide) _ _ _)),
      readItemFields_close (nextKey_close (by decide) _ _) rfl]
  unfold readItem
  rw [skipSpace_append (by decide)]
  simp [skipSpace, isSpace, hlength, hread]

/-! ### The document -/

/-- An item of the document with its key, from the line feed in front of it. -/
def entryLetters (key value description : String) (rest : List Char) : List Char :=
  "\n  ".toList ++ ((escaped key).toList ++
    (':' :: (" ".toList ++ '\x7b' :: fieldLetters value description rest)))

theorem lineFeed_itemDocument_append (key value description : String) (rest : List Char) :
    '\n' :: ((itemDocument key value description).toList ++ rest) =
      entryLetters key value description rest := by
  have hindent : "\n  ".toList = '\n' :: "  ".toList := by decide
  have hopen : ": \x7b\n    ".toList = ':' :: (" ".toList ++ '\x7b' :: "\n    ".toList) := by decide
  have hcolon : ": ".toList = ':' :: " ".toList := by decide
  have hcomma : ",\n    ".toList = ',' :: "\n    ".toList := by decide
  have hclose : "\n  \x7d".toList = "\n  ".toList ++ ['\x7d'] := by decide
  unfold itemDocument entryLetters fieldLetters
  simp only [String.toList_append, hindent, hopen, hcolon, hcomma, hclose, List.append_assoc,
    List.cons_append, List.nil_append]

theorem toList_document (settings : Settings) :
    settings.document.toList =
      '\x7b' :: entryLetters policyKey settings.unitPricePolicy.value.text
        settings.unitPricePolicy.description
        (',' :: entryLetters fileLoggingKey (booleanText settings.fileLogging.value)
          settings.fileLogging.description
          (',' :: entryLetters showBannerKey (booleanText settings.showBanner.value)
            settings.showBanner.description ("\n".toList ++ ['\x7d']))) := by
  have hopen : "\x7b\n".toList = ['\x7b', '\n'] := by decide
  have hcomma : ",\n".toList = [',', '\n'] := by decide
  have hclose : "\n\x7d".toList = "\n".toList ++ ['\x7d'] := by decide
  unfold document
  simp only [String.intercalate_cons_cons, String.intercalate_singleton, String.toList_append, hopen,
    hcomma, hclose, List.append_assoc, List.cons_append, List.nil_append,
    ← lineFeed_itemDocument_append, valueText]

theorem readEntries_entry {fuel : Nat} {isFirst : Bool} {items next : PartialSettings}
    {key : String} {input behind after : List Char}
    (hkey : nextKey isFirst input = .ok (some key, behind))
    (hentry : readEntry items key behind = .ok (next, after)) :
    readEntries (fuel + 1) isFirst items input = readEntries fuel false next after := by
  rw [readEntries]
  simp only [hkey, bind, Except.bind, hentry]

theorem readEntries_close {fuel : Nat} {isFirst : Bool} {items : PartialSettings}
    {input after : List Char} (hkey : nextKey isFirst input = .ok (none, after)) :
    readEntries (fuel + 1) isFirst items input = .ok (items.complete, after) := by
  rw [readEntries]
  simp only [hkey, bind, Except.bind]
  rfl

variable {items : PartialSettings} {input after : List Char}

theorem readEntry_policy {item : Setting UnitPricePolicy} (hnew : items.unitPricePolicy = none)
    (hitem : readItem policySchema input = .ok (item, after)) :
    readEntry items policyKey (':' :: input) =
      .ok ({ items with unitPricePolicy := some item }, after) := by
  unfold readEntry
  simp only [if_true, hnew, Option.isSome_none, Bool.false_eq_true, if_false, readColon_colon, bind,
    Except.bind, hitem]
  rfl

theorem readEntry_fileLogging {item : Setting Bool} (hnew : items.fileLogging = none)
    (hitem : readItem fileLoggingSchema input = .ok (item, after)) :
    readEntry items fileLoggingKey (':' :: input) =
      .ok ({ items with fileLogging := some item }, after) := by
  have hother : fileLoggingKey ≠ policyKey := by decide
  unfold readEntry
  simp only [if_neg hother, if_true, hnew, Option.isSome_none, Bool.false_eq_true, if_false,
    readColon_colon, bind, Except.bind, hitem]
  rfl

theorem readEntry_showBanner {item : Setting Bool} (hnew : items.showBanner = none)
    (hitem : readItem showBannerSchema input = .ok (item, after)) :
    readEntry items showBannerKey (':' :: input) =
      .ok ({ items with showBanner := some item }, after) := by
  have hpolicy : showBannerKey ≠ policyKey := by decide
  have hlogging : showBannerKey ≠ fileLoggingKey := by decide
  unfold readEntry
  simp only [if_neg hpolicy, if_neg hlogging, if_true, hnew, Option.isSome_none,
    Bool.false_eq_true, if_false, readColon_colon, bind, Except.bind, hitem]
  rfl

theorem readItem_policy (item : Setting UnitPricePolicy) (rest : List Char) :
    readItem policySchema (" ".toList ++ '\x7b' :: fieldLetters item.value.text item.description rest) =
      .ok (item, rest) :=
  readItem_fieldLetters (readPolicyValue_text (by decide) item.value) item.description rest

theorem readItem_boolean {schema : ItemSchema Bool} (hschema : schema.readValue = readBooleanValue)
    (item : Setting Bool) (rest : List Char) :
    readItem schema
        (" ".toList ++ '\x7b' :: fieldLetters (booleanText item.value) item.description rest) =
      .ok (item, rest) := by
  apply readItem_fieldLetters
  rw [hschema]
  exact readBooleanValue_booleanText (by decide) item.value

/-- The document of settings is read as these settings, whatever their descriptions are. -/
theorem ofDocument_document (settings : Settings) : ofDocument settings.document = .ok settings := by
  have hindent : "\n  ".toList.all isSpace = true := by decide
  obtain ⟨letters, hletters⟩ : ∃ letters, settings.document.toList = '\x7b' :: letters :=
    ⟨_, settings.toList_document⟩
  have hfuel : 3 ≤ letters.length := by
    have hlength := congrArg List.length hletters
    rw [toList_document, entryLetters, List.length_cons, List.length_append] at hlength
    have hindented : "\n  ".toList.length = 3 := rfl
    simp only [List.length_cons] at hlength
    omega
  obtain ⟨fuel, hlength⟩ := Nat.exists_eq_add_of_le' hfuel
  have hread : readEntries (fuel + 4) true {} letters = .ok (settings, []) := by
    obtain rfl := (List.cons.inj (hletters.symm.trans settings.toList_document)).2
    rw [entryLetters, readEntries_entry (nextKey_escaped hindent _ _)
        (readEntry_policy rfl (readItem_policy _ _)),
      entryLetters, readEntries_entry (nextKey_comma hindent _ _)
        (readEntry_fileLogging rfl (readItem_boolean rfl _ _)),
      entryLetters, readEntries_entry (nextKey_comma hindent _ _)
        (readEntry_showBanner rfl (readItem_boolean rfl _ _)),
      readEntries_close (nextKey_close (by decide) _ _)]
    rfl
  have hsettings : readSettings settings.document.toList = .ok (settings, []) := by
    unfold readSettings
    simp [hletters, skipSpace, isSpace, hlength, hread]
  unfold ofDocument
  rw [hsettings]
  rfl

end Settings
end RomanTrade
