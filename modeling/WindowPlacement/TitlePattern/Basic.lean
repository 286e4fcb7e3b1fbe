/-!
# Patterns for window titles

The command `focus` chooses a window by its title.  To the rest of the library a pattern is
the text it was written as and the set of titles it accepts.
-/

namespace WindowPlacement

/-- A pattern for window titles. -/
structure TitlePattern where
  text : String
  accepts : String → Bool

end WindowPlacement
