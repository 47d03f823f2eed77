import RomanTrade.Text.Blank

/-!
# Keywords

The words with a fixed meaning in statements.  None of them can be defined as a token or used as a
material.
-/

namespace RomanTrade

inductive Keyword where
  | is | how | much | many | credits | question
  deriving DecidableEq, Repr

namespace Keyword

def all : List Keyword := [is, how, much, many, credits, question]

def text : Keyword → String
  | is => "is"
  | how => "how"
  | much => "much"
  | many => "many"
  | credits => "Credits"
  | question => "?"

/-- `how` may begin a sentence and is read in any letter case; the other keywords are exact. -/
def accepts (keyword : Keyword) (token : String) : Bool :=
  match keyword with
  | how => Text.sameIgnoringCase token how.text
  | other => token == other.text

def isReserved (token : String) : Bool :=
  all.any fun keyword => keyword.accepts token

theorem accepts_text (keyword : Keyword) : keyword.accepts keyword.text = true := by
  cases keyword <;> decide

end Keyword

namespace Text

/-- A question mark glued to the last word becomes a word of its own. -/
def splitQuestion : List String → List String
  | [] => []
  | [last] =>
    match last.toList.reverse with
    | '?' :: c :: rest => [String.ofList (c :: rest).reverse, "?"]
    | _ => [last]
  | word :: next :: rest => word :: splitQuestion (next :: rest)

def tokenize (line : String) : List String :=
  splitQuestion (words line)

end Text
end RomanTrade
