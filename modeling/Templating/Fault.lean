/-
What can go wrong with a template, and how it is told.

A fault is a cause without a place. `SyntaxFault` stops the compilation of a template, `EvalFault` the evaluation of
an expression, `RenderFault` the rendering of a page, `LoadFault` the search for a source and `ScanFault` the scan of
a directory. Each has one function `message` that words it.
-/
import Templating.Expr.Operator

namespace Templating

open Templating.Expr (Symbol Comparison)

/-- why a template does not compile -/
inductive SyntaxFault where
  -- regions of the source
  | outputNotClosed
  | tagNotClosed
  | commentNotClosed
  | verbatimNotClosed
  | tagNameMissing
  -- words of an expression
  | unexpectedCharacter (c : Char)
  | stringNotClosed
  | invalidNumber (digits : String)
  -- expressions
  | endOfExpression
  | unexpectedSymbol (symbol : Symbol)
  | expected (symbol : Symbol)
  | separatorMissing (close : Symbol)
  | memberNameMissing
  | filterNameMissing
  | unknownFilter (name : String)
  -- tags
  | outputNotAtEnd
  | unknownTag (name : String)
  | argumentsNotAllowed
  | malformedArguments (tag : String)
  | blockNotClosed (ends : List String)
  | loopVariableMissing
  | secondVariableMissing
  | keywordInMissing
  | nameMissing
  | propNameMissing
  | fragmentNameMissing
  -- components
  | componentNameMissing
  | unknownComponent (name : String)
  | tooDeep (name : String) (limit : Nat)
  | noTemplate (name : String)
  | slotDataMissing
  | slotDataInvalid (reason : String)
  | attributeKeyMissing
  | slotNameMissing
  -- tags of the host
  | custom (message : String)
  deriving DecidableEq, Repr

/-- the text between single quotes -/
def inQuotes (text : String) : String :=
  "'" ++ text ++ "'"

/-- the words of a fault -/
def SyntaxFault.message : SyntaxFault → String
  | outputNotClosed => "Variable output not closed, expected '\x7d\x7d'."
  | tagNotClosed => "Tag not closed, expected '%\x7d'."
  | commentNotClosed => "Comment not closed, expected '#\x7d'."
  | verbatimNotClosed => "verbatim tag not closed, expected 'endverbatim'."
  | tagNameMissing => "Tag name must be an identifier."
  | unexpectedCharacter c => "unexpected character " ++ inQuotes (String.singleton c)
  | stringNotClosed => "string not closed"
  | invalidNumber digits => "invalid number " ++ inQuotes digits
  | endOfExpression => "Unexpected end of expression."
  | unexpectedSymbol symbol => "Unexpected symbol " ++ inQuotes symbol.text ++ "."
  | expected symbol => "Expected " ++ inQuotes symbol.text ++ "."
  | separatorMissing close => "Expected ',' or " ++ inQuotes close.text ++ "."
  | memberNameMissing => "Expected an identifier after '.'."
  | filterNameMissing => "Filter name must be an identifier."
  | unknownFilter name => "Filter " ++ inQuotes name ++ " does not exist."
  | outputNotAtEnd => "Unexpected token in variable output."
  | unknownTag name => "Tag " ++ inQuotes name ++ " not found or not allowed here."
  | argumentsNotAllowed => "Arguments not allowed here."
  | malformedArguments tag => "Malformed " ++ inQuotes tag ++ "-tag arguments."
  | blockNotClosed ends => "Unexpected end of template, expected one of: " ++ ", ".intercalate ends ++ "."
  | loopVariableMissing => "Expected an identifier as loop variable."
  | secondVariableMissing => "Expected an identifier after ','."
  | keywordInMissing => "Expected keyword 'in'."
  | nameMissing => "Expected an identifier."
  | propNameMissing => "Expected a key (identifier)."
  | fragmentNameMissing => "fragment tag needs at least a string as name."
  | componentNameMissing => "component tag needs a component name as first argument."
  | unknownComponent name => "component " ++ inQuotes name ++ " can not be resolved."
  | tooDeep name limit =>
    "component " ++ inQuotes name ++ " exceeds the maximum nesting depth of " ++ toString limit ++ "."
  | noTemplate name => "component " ++ inQuotes name ++ " has no template."
  | slotDataMissing => "slotData (slot-data in with an HTML-like syntax) property needs value."
  | slotDataInvalid reason => "slotData (slot-data in with an HTML-like syntax) value is invalid: " ++ reason
  | attributeKeyMissing => "Expected an identifier"
  | slotNameMissing => "slot tag needs a slot name as first argument."
  | custom message => message

/-- why an expression has no value -/
inductive EvalFault where
  | unknownMethod (method typeName : String)
  | methodArguments (method expected : String)
  | notComparable (op : Comparison) (left right : String)
  | notNumeric (typeName : String)
  | overflow (i : Int64)
  deriving DecidableEq

/-- the words of a fault -/
def EvalFault.message : EvalFault → String
  | unknownMethod method typeName => inQuotes typeName ++ " has no method " ++ inQuotes method
  | methodArguments method expected => "method " ++ inQuotes method ++ " expects " ++ expected
  | notComparable op left right => "cannot compare " ++ left ++ " " ++ op.text ++ " " ++ right
  | notNumeric typeName => "cannot negate " ++ typeName
  | overflow i => "negating " ++ toString i.toInt ++ " overflows"

/-- why a page does not render -/
inductive RenderFault where
  | evaluation (fault : EvalFault)
  | notIterable (typeName : String)
  | unknownFragment (name : String)
  | setupFailed (component cause : String)
  | custom (message : String) (cause : Option String)
  deriving DecidableEq

/-- the words of a fault -/
def RenderFault.message : RenderFault → String
  | evaluation fault => fault.message
  | notIterable typeName => inQuotes typeName ++ " is not iterable"
  | unknownFragment name => "fragment " ++ inQuotes name ++ " not found."
  | setupFailed component _ => "setup of component " ++ inQuotes component ++ " failed"
  | custom message _ => message

/-- what lies behind a fault, where it was caused by another failure -/
def RenderFault.cause? : RenderFault → Option String
  | setupFailed _ cause => some cause
  | custom _ cause => cause
  | _ => none

/-- why a file or a directory can not be read or written -/
inductive FileFault where
  | notFound
  | exists
  | notDirectory
  | isDirectory
  | notText
  deriving DecidableEq, Repr

/-- the words of a fault -/
def FileFault.message : FileFault → String
  | notFound => "No such file or directory (os error 2)"
  | «exists» => "File exists (os error 17)"
  | notDirectory => "Not a directory (os error 20)"
  | isDirectory => "Is a directory (os error 21)"
  | notText => "stream did not contain valid UTF-8"

/-- why a source can not be loaded or a directory can not be listed -/
inductive LoadFault where
  | unknownTemplate (path : String)
  | notDirectory (path : String)
  | file (fault : FileFault)
  | custom (message : String)
  deriving DecidableEq, Repr

/-- the words of a fault -/
def LoadFault.message : LoadFault → String
  | unknownTemplate path => "template " ++ inQuotes path ++ " not found"
  | notDirectory path => path ++ " is not a directory"
  | file fault => fault.message
  | custom message => message

/-- why a scan of a directory comes to no result -/
inductive ScanFault where
  | unlisted (fault : LoadFault)
  /-- a path would be cut inside a character, in front of this byte: the scan panics -/
  | notBoundary (byte : Nat)
  deriving DecidableEq, Repr

/-- the words of a fault -/
def ScanFault.message : ScanFault → String
  | unlisted fault => fault.message
  | notBoundary byte => "byte index " ++ toString byte ++ " is not a char boundary"

end Templating
