/-!
# Lines of a text

A text is split at every line boundary: line feed, carriage return, the pair of both, vertical
tab, form feed, the three information separators U+001C to U+001E, next line (U+0085), and the
line and paragraph separators U+2028 and U+2029.

* `Line.ending` holds the carriage return or line feed that closes a line; any other boundary
  stays the last character of `Line.content`.
* `lines` splits, `unlines` puts together again (`unlines_lines`).
* `foldEndings` is the reading of a stored text in which every line ends with a line feed;
  `foldPairs` leaves carriage returns that stand alone.
-/

set_option autoImplicit false

namespace Protogen.Text

/-- One line of a text. -/
structure Line where
  content : List Char
  ending : List Char
  deriving DecidableEq

/-- Boundaries of lines other than the carriage return and the line feed. -/
def isQuietBreak (c : Char) : Bool :=
  c == '\x0b' || c == '\x0c' || c == '\x1c' || c == '\x1d' || c == '\x1e' ||
    c == '\u0085' || c == '\u2028' || c == '\u2029'

/-- The character put in front of the first of the lines that follow it. -/
def consLine (c : Char) : List Line → List Line
  | [] => [⟨[c], []⟩]
  | l :: ls => ⟨c :: l.content, l.ending⟩ :: ls

/-- The lines of a text; the last one has no ending if the text does not close with one. -/
def lines : List Char → List Line
  | [] => []
  | '\r' :: '\n' :: rest => ⟨[], ['\r', '\n']⟩ :: lines rest
  | c :: rest =>
    if c == '\r' || c == '\n' then ⟨[], [c]⟩ :: lines rest
    else if isQuietBreak c then ⟨[c], []⟩ :: lines rest
    else consLine c (lines rest)

/-- The text of a list of lines. -/
def unlines (ls : List Line) : List Char := ls.flatMap fun l => l.content ++ l.ending

/-- The text with every carriage return, alone or before a line feed, read as a line feed. -/
def foldEndings : List Char → List Char
  | [] => []
  | '\r' :: '\n' :: rest => '\n' :: foldEndings rest
  | c :: rest => (if c == '\r' then '\n' else c) :: foldEndings rest

/-- The text with every carriage return before a line feed left out. -/
def foldPairs : List Char → List Char
  | [] => []
  | '\r' :: '\n' :: rest => '\n' :: foldPairs rest
  | c :: rest => c :: foldPairs rest

theorem unlines_consLine (c : Char) (ls : List Line) :
    unlines (consLine c ls) = c :: unlines ls := by
  cases ls <;> simp [consLine, unlines]

/-- Splitting loses nothing. -/
theorem unlines_lines (text : List Char) : unlines (lines text) = text := by
  fun_induction lines text with
  | case1 => rfl
  | case2 rest ih => simpa [unlines] using ih
  | case3 c rest _ hc ih => simpa [unlines] using ih
  | case4 c rest _ _ _ ih => simpa [unlines] using ih
  | case5 c rest _ _ _ ih => simp [unlines_consLine, ih]

end Protogen.Text
