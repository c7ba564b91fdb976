/-!
# Lines

Where the lines of a text end: at any of the line breaks of Unicode, of which a carriage return and
a line feed after it are one.
-/

namespace Keyring.Text

/-- The characters that end a line. -/
def isLineBreak (c : Char) : Bool :=
  let code := c.toNat
  (0x0a ≤ code && code ≤ 0x0d) || (0x1c ≤ code && code ≤ 0x1e) || code = 0x85
    || code = 0x2028 || code = 0x2029

/-- The lines of the rest of a text, where `current` holds the line at hand, last character first.
What follows the last break is a line unless it is empty. -/
def linesFrom (current : List Char) : List Char → List (List Char)
  | [] => if current.isEmpty then [] else [current.reverse]
  | [c] => if isLineBreak c then [current.reverse] else [(c :: current).reverse]
  | c :: d :: rest =>
    if c = '\r' ∧ d = '\n' then current.reverse :: linesFrom [] rest
    else if isLineBreak c then current.reverse :: linesFrom [] (d :: rest)
    else linesFrom (c :: current) (d :: rest)

/-- The lines of a text, without their ends. -/
def lines (text : List Char) : List (List Char) := linesFrom [] text

/-- The text with a line feed for each carriage return, and for each carriage return together with
a line feed after it. -/
def unifyNewlines : List Char → List Char
  | [] => []
  | [c] => [if c = '\r' then '\n' else c]
  | c :: d :: rest =>
    if c = '\r' ∧ d = '\n' then '\n' :: unifyNewlines rest
    else (if c = '\r' then '\n' else c) :: unifyNewlines (d :: rest)

end Keyring.Text
