/-
Arguments of a tag: a cursor among the words behind its name.

What a reader passed over stays behind the cursor, also when the reader fails halfway. Faults are told at the tag that
the arguments belong to.
-/
import Templating.Error
import Templating.Expr.Parser

namespace Templating

/-- a cursor among the words of one tag -/
structure Arguments extends Expr.Cursor where
  site : Site

namespace Arguments

/-- the arguments of a tag -/
def ofText (site : Site) (text : String) : Except TemplateError Arguments :=
  match Expr.tokens text.toList with
  | .ok words => .ok ⟨.start words, site⟩
  | .error fault => .error (.malformed site fault)

/-- the result of a reader, and the arguments behind it -/
def read {α : Type} (a : Arguments) (reader : Expr.Reader α) : Except TemplateError α × Arguments :=
  match reader.run a.toCursor with
  | (.ok result, cursor) => (.ok result, { a with toCursor := cursor })
  | (.error fault, cursor) => (.error (.malformed a.site fault), { a with toCursor := cursor })

/-- the result of a reader, when nothing else is to be read -/
def readAll {α : Type} (a : Arguments) (reader : Expr.Reader α) : Except TemplateError α :=
  (a.read reader).1

end Arguments

end Templating
