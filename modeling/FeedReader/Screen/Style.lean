/-!
# Styled text
-/

namespace FeedReader.Screen

inductive Color where
  | reset
  | black
  | red
  | green
  | yellow
  | blue
  | cyan
  | gray
  | darkGray
  | white
  deriving DecidableEq, Repr

/-- What a style sets; what it leaves open stays as it is underneath. -/
structure Style where
  foreground : Option Color := none
  background : Option Color := none
  bold : Bool := false
  underlined : Bool := false
  deriving DecidableEq, Repr

namespace Style

def patch (s upper : Style) : Style where
  foreground := upper.foreground.or s.foreground
  background := upper.background.or s.background
  bold := s.bold || upper.bold
  underlined := s.underlined || upper.underlined

end Style

structure Span where
  text : String
  style : Style := {}
  deriving DecidableEq, Repr

abbrev Line := List Span

def colored (color : Color) (text : String) : Span := ⟨text, { foreground := some color }⟩

def plainSpan (text : String) : Span := ⟨text, {}⟩

def lineText (line : Line) : String := String.join (line.map Span.text)

end FeedReader.Screen
