import RomanTrade.Text.CodePoint

/-!
# Blank characters and words

A line is read through its words, the maximal runs of characters that are not blank.  Blank means
the Unicode property `White_Space`; a zero-width space, for instance, is not blank.
-/

namespace RomanTrade
namespace Text

def blankRanges : CodePointRanges :=
  [(0x09, 0x0D), (0x20, 0x20), (0x85, 0x85), (0xA0, 0xA0), (0x1680, 0x1680), (0x2000, 0x200A),
   (0x2028, 0x2029), (0x202F, 0x202F), (0x205F, 0x205F), (0x3000, 0x3000)]

def isBlank (c : Char) : Bool :=
  isWithin blankRanges c

/-- Every character that core counts as white space is blank. -/
theorem isBlank_of_isWhitespace {c : Char} (h : c.isWhitespace = true) : isBlank c = true := by
  simp only [Char.isWhitespace, Bool.or_eq_true, decide_eq_true_eq] at h
  rcases h with ((rfl | rfl) | rfl) | rfl <;> decide

def trim (text : String) : String :=
  let opened := text.toList.dropWhile isBlank
  String.ofList (opened.reverse.dropWhile isBlank).reverse

def words (text : String) : List String :=
  ((text.toList.splitOnP isBlank).filter (!·.isEmpty)).map String.ofList

/-- Words on one line, with one space between neighbours. -/
def joinWords (ws : List String) : String :=
  " ".intercalate ws

/-- Texts that differ at most in the case of their ASCII letters. -/
def sameIgnoringCase (left right : String) : Bool :=
  left.toList.map Char.toLower == right.toList.map Char.toLower

end Text
end RomanTrade
