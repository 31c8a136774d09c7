/-
White space, and cutting it off the ends of a text.

`isBlank` is the class of white space characters of Unicode, all twenty-five of them, the line and paragraph
separators included. `isAsciiBlank` is the smaller class that separates the words of an expression: the vertical tab
is in the first and not in the second.
-/

namespace Templating.Text

/-- white space in any script -/
def isBlank (c : Char) : Bool :=
  let code := c.toNat
  (0x9 ≤ code && code ≤ 0xD) || code == 0x20 || code == 0x85 || code == 0xA0 || code == 0x1680 ||
    (0x2000 ≤ code && code ≤ 0x200A) || code == 0x2028 || code == 0x2029 || code == 0x202F || code == 0x205F ||
    code == 0x3000

/-- space, tab, line feed, form feed and carriage return -/
def isAsciiBlank (c : Char) : Bool :=
  c == ' ' || c == '\t' || c == '\n' || c == '\x0c' || c == '\r'

/-- the text without its longest end of characters in `p` -/
def dropEndWhile (p : Char → Bool) (text : List Char) : List Char :=
  (text.reverse.dropWhile p).reverse

/-- the text without white space in front -/
def trimStart (text : List Char) : List Char :=
  text.dropWhile isBlank

/-- the text without white space behind -/
def trimEnd (text : List Char) : List Char :=
  dropEndWhile isBlank text

/-- the text without white space at either end -/
def trim (text : List Char) : List Char :=
  trimEnd (trimStart text)

theorem isBlank_of_isAsciiBlank {c : Char} (h : isAsciiBlank c = true) : isBlank c = true := by
  simp only [isAsciiBlank, Bool.or_eq_true, beq_iff_eq] at h
  rcases h with (((rfl | rfl) | rfl) | rfl) | rfl <;> decide

@[simp] theorem trimStart_nil : trimStart [] = [] := rfl

@[simp] theorem trimEnd_nil : trimEnd [] = [] := rfl

@[simp] theorem trim_nil : trim [] = [] := rfl

end Templating.Text
