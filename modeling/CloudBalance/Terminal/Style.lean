import CloudBalance.Text.Column

/-!
# Styled lines

A line for a terminal is a row of spans, each with a style and a width to which it is padded. Where
the terminal shows no styles, only the texts and the padding are left.
-/

namespace CloudBalance.Terminal

inductive Style where
  | plain
  | bold
  | dimmed
  | red
  | green
  | yellow
  | blue
  | cyan
  | boldRed
  | boldGreen
  deriving DecidableEq, Repr

/-- The parameters of the control sequence that starts a style. -/
def Style.code : Style → String
  | .plain => "0"
  | .bold => "1"
  | .dimmed => "2"
  | .red => "31"
  | .green => "32"
  | .yellow => "33"
  | .blue => "34"
  | .cyan => "36"
  | .boldRed => "1;31"
  | .boldGreen => "1;32"

structure Span where
  text : String
  style : Style
  /-- The least number of characters, the rest of which are spaces. -/
  width : Nat
  deriving DecidableEq, Repr

abbrev Line := List Span

namespace Span

def plain (text : String) : Span :=
  ⟨text, .plain, 0⟩

def styled (style : Style) (text : String) : Span :=
  ⟨text, style, 0⟩

/-- The span as a cell of a table. -/
def padded (width : Nat) (span : Span) : Span :=
  { span with width }

/-- The control sequence of some parameters. -/
def control (code : String) : String :=
  "\x1b[" ++ code ++ "m"

/-- The text of a span as a terminal takes it. A text that ends a style of its own accord goes on in
the style of its span. -/
def render (colour : Bool) (span : Span) : String :=
  if colour && span.style != .plain then
    let start := control span.style.code
    let stop := control "0"
    let text := (stop ++ start).intercalate (span.text.splitOn stop)
    start ++ Text.padRight span.width text ++ stop
  else Text.padRight span.width span.text

end Span

namespace Line

def empty : Line := []

def plain (text : String) : Line :=
  [.plain text]

def styled (style : Style) (text : String) : Line :=
  [.styled style text]

def render (colour : Bool) (line : Line) : String :=
  String.join (line.map (Span.render colour))

/-- The text alone. -/
def text (line : Line) : String :=
  line.render false

end Line

/-- Whether styles are shown, where the output goes to a file: only if the variable of the
environment that asks for it is set to something other than zero. -/
def showsStyles (forced : Option String) : Bool :=
  match forced with
  | some value => value != "0"
  | none => false

end CloudBalance.Terminal
