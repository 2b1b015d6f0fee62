/-!
# Styled text

Console output is a sequence of pieces, so that it can be shown with and without colors.

* `Piece` : text, the start of a style, or its end;
* `plain` : the text alone; `ansi` : the text with terminal escapes.
-/

namespace Conformance.Styled

/-- A text color. -/
inductive Color where
  /-- For failures. -/
  | red
  /-- For passes. -/
  | green
  /-- For what is left out. -/
  | yellow
  /-- For headings. -/
  | cyan
  deriving DecidableEq, Repr

/-- The digit of a color in a terminal escape. -/
def Color.digit : Color → String
  | .red => "1"
  | .green => "2"
  | .yellow => "3"
  | .cyan => "6"

/-- A piece of console output. -/
inductive Piece where
  /-- Text as it is. -/
  | text (s : String)
  /-- What follows has a color, and may be bold. -/
  | start (color : Color) (bold : Bool)
  /-- What follows has no style. -/
  | stop
  deriving DecidableEq, Repr

/-- A text in a style. -/
def styled (color : Color) (bold : Bool) (s : String) : List Piece :=
  [.start color bold, .text s, .stop]

/-- A piece without styles. -/
def Piece.plain : Piece → String
  | .text s => s
  | _ => ""

/-- A piece with terminal escapes. A style starts by clearing the one before it. -/
def Piece.ansi : Piece → String
  | .text s => s
  | .start color bold =>
    "\x1b[0m" ++ (if bold then "\x1b[1m" else "") ++ "\x1b[3" ++ color.digit ++ "m"
  | .stop => "\x1b[0m"

/-- Output without styles. -/
def plain (ps : List Piece) : String := String.join (ps.map Piece.plain)

/-- Output with terminal escapes. -/
def ansi (ps : List Piece) : String := String.join (ps.map Piece.ansi)

end Conformance.Styled
