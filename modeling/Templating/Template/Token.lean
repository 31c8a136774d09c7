/-
The tokens that a template is compiled from.

Tokens are what is left of the regions once the trim marks have done their work and comments are gone. A mark behind a
region takes the white space from the start of the text that follows at once. A mark before a region takes it from the
end of the last token, when that is a text; a text that loses everything is no token.
-/
import Templating.Template.Region

namespace Templating.Template

/-- a part of a template -/
inductive Token where
  | text (s : String)
  | output (expr : String) (position : Position)
  | tag (name args : String) (position : Position)
  deriving DecidableEq, Repr

/-- tokens so far, the last one first, and whether the next text loses the white space in front -/
structure Assembly where
  tokens : List Token
  trimNext : Bool

namespace Assembly

/-- nothing so far -/
def start : Assembly := ⟨[], false⟩

/-- tokens with one more text, unless it is empty -/
def pushText (tokens : List Token) (text : List Char) : List Token :=
  if text.isEmpty then tokens else .text (String.ofList text) :: tokens

/-- tokens whose last one lost the white space at its end, when it is a text and the mark is set -/
def trimLast (mark : Bool) (tokens : List Token) : List Token :=
  match mark, tokens with
  | true, .text s :: rest => pushText rest (Text.trimEnd s.toList)
  | _, tokens => tokens

/-- a text behind a region with or without a mark -/
def trimFirst (mark : Bool) (text : List Char) : List Char :=
  if mark then Text.trimStart text else text

/-- one more region -/
def step (a : Assembly) : Region → Assembly
  | .text s => { a with tokens := pushText a.tokens (trimFirst a.trimNext s) }
  | .comment => { a with trimNext := false }
  | .output position inner marks =>
    ⟨.output (String.ofList inner) position :: trimLast marks.before a.tokens, marks.behind⟩
  | .tag position name args marks =>
    ⟨.tag (String.ofList name) (String.ofList args) position :: trimLast marks.before a.tokens, marks.behind⟩
  | .verbatim body opening closing =>
    ⟨pushText (trimLast opening.before a.tokens) (trimFirst opening.behind body), closing.behind⟩

end Assembly

/-- the tokens of regions -/
def tokensOf (all : List Region) : List Token :=
  (all.foldl Assembly.step .start).tokens.reverse

/-- the tokens of a source in order -/
def tokens (source : String) : Except Misplaced (List Token) :=
  (regions source.toList).map tokensOf

/-- the place behind a source -/
def endOf (source : String) : Position :=
  Position.start.after source.toList

end Templating.Template
