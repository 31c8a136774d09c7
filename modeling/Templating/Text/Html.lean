/-
Text inside markup: the five characters that markup gives a meaning are written as entities.
-/

namespace Templating.Text

/-- what a character is written as inside markup -/
def escapeChar : Char → List Char
  | '&' => "&amp;".toList
  | '<' => "&lt;".toList
  | '>' => "&gt;".toList
  | '"' => "&#34;".toList
  | '\'' => "&#39;".toList
  | c => [c]

/-- the text with the five special characters as entities -/
def escapeChars (text : List Char) : List Char :=
  text.flatMap escapeChar

/-- `escapeChars` on strings -/
def escapeHtml (text : String) : String :=
  String.ofList (escapeChars text.toList)

@[simp] theorem escapeChars_nil : escapeChars [] = [] := rfl

@[simp] theorem escapeChars_cons (c : Char) (text : List Char) :
    escapeChars (c :: text) = escapeChar c ++ escapeChars text := rfl

end Templating.Text
