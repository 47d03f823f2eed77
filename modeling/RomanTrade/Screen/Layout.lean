import RomanTrade.Screen.Ansi

/-!
# Banner and prompt

What the screen shows besides answers: a boxed banner in the middle of the terminal, and a prompt
line with a padding line above and below it.
-/

namespace RomanTrade
namespace Screen

def version : String := "0.1.0"

/-- The terminal's width when no terminal is attached. -/
def terminalWidth : Nat := 80

def bannerWidth : Nat := 50

def spaces (count : Nat) : String :=
  String.ofList (List.replicate count ' ')

/-- Content between spaces up to a width in visible characters; an odd space goes to the right. -/
def center (content : String) (width : Nat) : String :=
  let used := visibleWidth content
  if width ≤ used then content
  else
    let left := (width - used) / 2
    spaces left ++ content ++ spaces (width - used - left)

def title : String :=
  bold ++ "G A L A C T I C" ++ resetStyle ++ " " ++ lightGray ++ "(v" ++ version ++ ")" ++ resetStyle

def subtitle : String :=
  italic ++ "Roman numerals for merchants" ++ resetStyle

def symbolStrip : String :=
  gold ++ "I V X L C D M" ++ resetStyle

def boxed (content : String) : String :=
  "│" ++ content ++ "│"

def horizontalRule : String :=
  String.ofList (List.replicate bannerWidth '─')

def bannerContents : List String := [title, subtitle, symbolStrip]

/-- The banner in the middle of a terminal of so many columns. -/
def bannerLinesIn (columns : Nat) : List String :=
  let margin := spaces ((columns - (bannerWidth + 2)) / 2)
  let blank := boxed (spaces bannerWidth)
  let contents := bannerContents.map fun content => boxed (center content bannerWidth)
  let lines := ["╭" ++ horizontalRule ++ "╮", blank] ++ contents ++
    [blank, "╰" ++ horizontalRule ++ "╯"]
  lines.map (margin ++ ·)

def bannerLines : List String := bannerLinesIn terminalWidth

def banner : String :=
  String.join (bannerLines.map (· ++ "\n"))

def paddingLine : String :=
  promptStyle ++ clearLineRest ++ resetStyle ++ "\n"

/-- A prompt between two padding lines, with the cursor left behind the prompt. -/
def prompt (text : String) : String :=
  paddingLine ++
    promptStyle ++ text ++ clearLineRest ++ resetStyle ++ "\n" ++
    promptStyle ++ clearLineRest ++ resetStyle ++
    cursorUp ++ cursorColumn (visibleWidth text + 1) ++ promptStyle

end Screen
end RomanTrade
