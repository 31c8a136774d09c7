/-
Passes over a source before it is compiled.

A pass removes what a list of patterns matches, one pattern after the other, or writes component markup as tags, or is
a function of the host. A pipeline is a list of passes; each works on what the one before it left.
-/
import Templating.Markup.Expansion
import Templating.Pattern.Reader
import Templating.Pattern.Machine

namespace Templating

/-- a change of a whole source -/
inductive Pass where
  | removal (patterns : List Pattern)
  | componentTags (tagPrefix : String)
  | host (process : String → String)

/-- passes in the order in which they run -/
abbrev Pipeline := List Pass

namespace Pass

/-- the pass that removes what written patterns match, when all of them are well-formed -/
def ofPatterns? (patterns : List String) : Option Pass :=
  (patterns.mapM Pattern.ofText?).map .removal

/-- what a pass makes of a source -/
def run (source : String) : Pass → String
  | removal patterns => String.ofList (patterns.foldl (fun text p => p.remove text) source.toList)
  | componentTags tagPrefix => (Markup.expand tagPrefix source).code
  | host process => process source

end Pass

/-- what a pipeline makes of a source -/
def Pipeline.run (source : String) (pipeline : Pipeline) : String :=
  pipeline.foldl Pass.run source

/-- the pipeline with one more pass in a given place, or at the end when there are fewer -/
def Pipeline.insertAt (place : Nat) (pass : Pass) (pipeline : Pipeline) : Pipeline :=
  pipeline.take place ++ pass :: pipeline.drop place

end Templating
