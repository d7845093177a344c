/-!
# Styled lines

A line of output is a row of spans, each plain or in a style. On a terminal with colours a styled
span opens with the codes of its style and closes with a reset, after which any reset inside the
span is followed by the codes again; without colours only the text is left.
-/
namespace EnclaveChain.Terminal

/-- A colour of text. -/
inductive Colour where
  /-- Cyan. -/
  | cyan
  /-- Blue. -/
  | blue
  /-- Green. -/
  | green
  /-- Grey. -/
  | grey
  /-- Bright yellow. -/
  | yellow
  /-- Bright white. -/
  | white
deriving DecidableEq, Repr

/-- The code of a colour. -/
def Colour.code : Colour → String
  | cyan => "36"
  | blue => "34"
  | green => "32"
  | grey => "90"
  | yellow => "93"
  | white => "97"

/-- A piece of a line: its text and, unless it is plain, its colour and weight. -/
structure Span where
  /-- The text. -/
  text : String
  /-- The colour and whether the text is bold. -/
  style? : Option (Colour × Bool)
deriving DecidableEq, Repr

namespace Span

/-- Plain text. -/
def plain (text : String) : Span := ⟨text, none⟩

/-- Text in a colour. -/
def coloured (colour : Colour) (text : String) : Span := ⟨text, some (colour, false)⟩

/-- Bold text in a colour. -/
def bold (colour : Colour) (text : String) : Span := ⟨text, some (colour, true)⟩

/-- The code that ends a style. -/
def reset : String := "\x1b[0m"

/-- The code that begins a style. -/
def opening (colour : Colour) (bold : Bool) : String :=
  "\x1b[" ++ (if bold then "1;" else "") ++ colour.code ++ "m"

/-- A span as it is sent to a terminal. -/
def render (colours : Bool) (span : Span) : String :=
  match colours, span.style? with
  | true, some (colour, bold) =>
    let start := opening colour bold
    start ++ span.text.replace reset (reset ++ start) ++ reset
  | _, _ => span.text

end Span

/-- A line of output. -/
abbrev Line := List Span

/-- A line as it is sent to a terminal. -/
def Line.render (colours : Bool) (line : Line) : String :=
  String.join (line.map (Span.render colours)) ++ "\n"

/-- Lines as they are sent to a terminal. -/
def renderAll (colours : Bool) (lines : List Line) : String :=
  String.join (lines.map (Line.render colours))

/-! ### The lines of the program -/

/-- What is being done. -/
def progress (message : String) : Line := [.coloured .cyan "⏳", .plain " ", .coloured .cyan message]

/-- A fact. -/
def info (message : String) : Line := [.bold .blue "ℹ", .plain " ", .plain message]

/-- What was done. -/
def success (message : String) : Line := [.bold .green "✓", .plain " ", .coloured .green message]

/-- An empty line and the title of a section. -/
def sectionTitle (title : String) : Line :=
  [.plain "\n", .bold .yellow ("  ┌─[ " ++ title ++ " ]")]

/-- A line of a section with a label. -/
def labelled (label : String) (value : Span) : Line :=
  [.coloured .grey "  ├─", .plain "  ", .coloured .yellow (label ++ ":"), .plain " ", value]

/-- A labelled value. -/
def field (label value : String) : Line := labelled label (.coloured .white value)

/-- A label without a value. -/
def missing (label : String) : Line := labelled label (.coloured .grey "<empty>")

/-- The end of a section. -/
def sectionEnd : Line := [.coloured .yellow "  └─"]

end EnclaveChain.Terminal
