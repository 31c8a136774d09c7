/-
From tokens to nodes.

Tags that have a body are blocks. The compiler keeps the blocks that are open, the innermost first, and the nodes of
the innermost body so far; `Context.step` takes one token. A tag that ends or continues the innermost block is read as
such before it is looked up in the table of tags, so inside a component `slot` starts a named slot and elsewhere an
outlet.

`Context.read` says what a token means and touches no cache. Only a component tag asks for more: the template of its
component, whose compilation may add to the cache of compiled files; what was added stays there when the compilation
fails later.
-/
import Templating.Component.Registry
import Templating.Template.Arguments
import Templating.Template.Node
import Templating.Template.Token

namespace Templating

open Templating.Expr (Reader)

/-- a compilation: it may fail, and it may add to the cache either way -/
abbrev Compile (α : Type) := ExceptT TemplateError (StateM (Dict Template)) α

/-- the result of a compilation that starts with a cache, and the cache behind it -/
def Compile.outcome {α : Type} (x : Compile α) (cache : Dict Template) : Except TemplateError α × Dict Template :=
  StateT.run (ExceptT.run x) cache

/-- a compilation that leaves the cache alone -/
def Compile.ofExcept {α : Type} (outcome : Except TemplateError α) : Compile α :=
  ExceptT.mk (pure outcome)

namespace Template

/-- what a tag does -/
inductive Tag where
  | conditional
  | loop
  | assign
  | props
  | outlet
  | fragment
  | component
  | custom (tag : CustomTag)

/-- the tags of every template set -/
def builtinTags : Dict Tag :=
  .ofList
    [("if", .conditional), ("for", .loop), ("set", .assign), ("props", .props), ("slot", .outlet),
      ("fragment", .fragment), ("component", .component)]

/-- what the tags of one template are compiled against -/
structure Context where
  template : String
  depth : Nat
  limit : Nat
  tags : Dict Tag
  registry : Registry
  /-- compiles the template of a component, none when it has none; not available at the depth limit -/
  componentTemplate : Option (Component → Compile (Option Template))

/-- an open block and what is known of it -/
inductive Block where
  | arm (position : Position) (done : List (Expr × List Node)) (condition : Expr)
  | otherwise (position : Position) (arms : List (Expr × List Node))
  | loop (position : Position) (head : LoopHead)
  | loopEmpty (position : Position) (head : LoopHead) (body : List Node)
  | outlet (slot : String)
  | fragment (name : String)
  | component (use : ComponentUse) (template : String) (body : List Node) (slots : List (String × List Node))
  | namedSlot (use : ComponentUse) (template : String) (body : List Node) (slots : List (String × List Node))
      (name : String) (content : List Node)
  | custom (tag : CustomTag) (use : TagUse) (closing : String)

/-- the tags that end or continue a block -/
def Block.ends : Block → List String
  | arm _ _ _ => ["elif", "else", "endif"]
  | otherwise _ _ => ["endif"]
  | loop _ _ => ["empty", "endfor"]
  | loopEmpty _ _ _ => ["endfor"]
  | outlet _ => ["endslot"]
  | fragment _ => ["endfragment"]
  | component _ _ _ _ => ["slot", "endcomponent"]
  | namedSlot _ _ _ _ _ _ => ["endslot"]
  | custom _ _ closing => [closing]

/-- an open block and the nodes before it -/
structure Frame where
  block : Block
  outer : List Node

/-- a template in the making -/
structure Blocks where
  /-- the innermost body so far -/
  nodes : List Node
  /-- the open blocks, the innermost first -/
  frames : List Frame
  props : List String
  fragments : Dict (List Node)

namespace Blocks

/-- nothing yet -/
def start : Blocks := ⟨[], [], [], .empty⟩

/-- one more node in the innermost body -/
def push (b : Blocks) (node : Node) : Blocks :=
  { b with nodes := b.nodes ++ [node] }

/-- one more open block -/
def opened (b : Blocks) (block : Block) : Blocks :=
  { b with nodes := [], frames := ⟨block, b.nodes⟩ :: b.frames }

end Blocks

/-! ## arguments -/

/-- the arguments of a tag are an expression and nothing else -/
def expressionOnly (tag : String) : Reader Expr := do
  let e ← Expr.expression
  if 0 < (← Expr.wordsLeft) then .fail (.malformedArguments tag)
  return e

/-- the expression of an output -/
def outputExpression : Reader Expr := do
  let e ← Expr.expression
  if 0 < (← Expr.wordsLeft) then .fail .outputNotAtEnd
  return e

/-- the second variable of a loop tag, behind a comma -/
def secondVariable : Reader (Option String) := do
  if ← Expr.acceptSymbol .comma then
    match ← Expr.acceptIdent with
    | none => .fail .secondVariableMissing
    | some name => return some name
  else return none

/-- the arguments of a loop tag -/
def loopHead : Reader LoopHead := do
  match ← Expr.acceptIdent with
  | none => .fail .loopVariableMissing
  | some key =>
    let value ← secondVariable
    unless ← Expr.acceptKeyword "in" do
      .fail .keywordInMissing
    let items ← expressionOnly "for"
    return ⟨key, value, items⟩

/-- the arguments of an assignment -/
def assignment : Reader (String × Expr) := do
  match ← Expr.acceptIdent with
  | none => .fail .nameMissing
  | some name =>
    Expr.expectSymbol .assign
    let e ← expressionOnly "set"
    return (name, e)

/-- the default of a prop, behind an equals sign -/
def propDefault : Reader (Option Expr) := do
  if ← Expr.acceptSymbol .assign then
    let e ← Expr.expression
    return some e
  else return none

/-- props with their defaults, commas between them or not -/
def propList : (fuel : Nat) → Reader (List (String × Option Expr))
  | 0 => return []
  | fuel + 1 => do
    if (← Expr.wordsLeft) = 0 then return []
    match ← Expr.acceptIdent with
    | none => .fail .propNameMissing
    | some key =>
      let default ← propDefault
      let _ ← Expr.acceptSymbol .comma
      let rest ← propList fuel
      return (key, default) :: rest

/-- the slot name of an outlet -/
def outletName : Reader String := do
  let name ← Expr.acceptString
  if 0 < (← Expr.wordsLeft) then .fail (.malformedArguments "slot")
  return name.getD defaultSlot

/-- the slot data of a component tag -/
def slotDataArgument : Reader SlotData := do
  if ← Expr.acceptKeyword "slotData" then
    Expr.expectSymbol .assign
    match ← Expr.acceptString with
    | none => .fail .slotDataMissing
    | some value =>
      match SlotData.ofText? value with
      | some data => return data
      | none => .fail (.slotDataInvalid SlotData.invalidReason)
  else return .nothing

/-- keys and expressions up to the end of the arguments -/
def pairs : (fuel : Nat) → Reader (List (String × Expr))
  | 0 => return []
  | fuel + 1 => do
    if (← Expr.wordsLeft) = 0 then return []
    match ← Expr.acceptString with
    | none => .fail .attributeKeyMissing
    | some key =>
      Expr.expectSymbol .assign
      let e ← Expr.expression
      let rest ← pairs fuel
      return (key, e) :: rest

/-- the props and attributes of a component tag -/
def withAttrs : Reader (List (String × Expr)) := do
  if ← Expr.acceptKeyword "withAttrs" then pairs (← Expr.wordsLeft) else return []

/-- the arguments of a component tag behind the component name -/
def componentArguments : Reader (SlotData × List (String × Expr)) := do
  let slotData ← slotDataArgument
  let given ← withAttrs
  if 0 < (← Expr.wordsLeft) then .fail (.malformedArguments "component")
  return (slotData, given)

/-! ## end tags -/

/-- what an end tag makes of a block: it goes on with another body, or it is a node -/
inductive Closing where
  | resumed (block : Block) (nodes : List Node)
  | complete (node : Node) (fragment : Option String)

/-- an end tag takes no arguments -/
def noArguments (arguments : Arguments) : Except TemplateError Unit :=
  if arguments.count = 0 then .ok () else .error (.malformed arguments.site .argumentsNotAllowed)

/-- a tag that ends or continues a block with the nodes of its body -/
def Block.finish (block : Block) (tag : String) (arguments : Arguments) (nodes : List Node) :
    Except TemplateError Closing :=
  match block with
  | .arm position done condition =>
    if tag = "elif" then do
      let next ← arguments.readAll (expressionOnly "elif")
      return .resumed (.arm position (done ++ [(condition, nodes)]) next) []
    else do
      noArguments arguments
      if tag = "else" then return .resumed (.otherwise position (done ++ [(condition, nodes)])) []
      else return .complete (.conditional position (done ++ [(condition, nodes)]) []) none
  | .otherwise position arms => do
    noArguments arguments
    return .complete (.conditional position arms nodes) none
  | .loop position head => do
    noArguments arguments
    if tag = "empty" then return .resumed (.loopEmpty position head nodes) []
    else return .complete (.loop position head nodes []) none
  | .loopEmpty position head body => do
    noArguments arguments
    return .complete (.loop position head body nodes) none
  | .outlet slot => do
    noArguments arguments
    return .complete (.outlet slot nodes) none
  | .fragment name => do
    noArguments arguments
    return .complete (.fragment nodes) (some name)
  | .component use template body slots =>
    if tag = "endcomponent" then do
      noArguments arguments
      return .complete (.component use template body (slots ++ [(defaultSlot, nodes)])) none
    else do
      match ← arguments.readAll Expr.acceptString with
      | none => .error (.malformed arguments.site .slotNameMissing)
      | some name => return .resumed (.namedSlot use template body slots name nodes) []
  | .namedSlot use template body slots name content => do
    noArguments arguments
    return .resumed (.component use template body (slots ++ [(name, nodes)])) content
  | .custom tag use _ => return .complete (.custom tag use nodes) none

/-- the template behind an end tag of its innermost block -/
def Blocks.close (b : Blocks) (frame : Frame) (outer : List Frame) (tag : String) (arguments : Arguments) :
    Except TemplateError Blocks := do
  match ← frame.block.finish tag arguments b.nodes with
  | .resumed block nodes => return { b with nodes, frames := ⟨block, frame.outer⟩ :: outer }
  | .complete node fragment =>
    let fragments :=
      match fragment with
      | some name => b.fragments.insert name b.nodes
      | none => b.fragments
    return { b with nodes := frame.outer ++ [node], frames := outer, fragments }

/-! ## start tags -/

/-- a component tag whose component is known, with the arguments behind the component's name -/
structure ComponentTag where
  position : Position
  name : String
  component : Component
  arguments : Arguments

/-- a component tag behind the component: its arguments, and which of them are props -/
def useOf (component : Component) (template : Template) (position : Position) (slotData : SlotData)
    (given : List (String × Expr)) : ComponentUse :=
  let declared := if component.props.isEmpty then template.props else component.props
  { position
    name := component.name
    setup := component.setup
    props := given.filter fun (key, _) => declared.contains key
    attributes := given.filter fun (key, _) => !declared.contains key
    slotData }

/-- the block that a component tag opens once the template of its component is there -/
def ComponentTag.block (tag : ComponentTag) (template : Template) : Except TemplateError Block := do
  let (slotData, given) ← tag.arguments.readAll componentArguments
  return .component (useOf tag.component template tag.position slotData given) template.name template.nodes []

/-- what a token makes of a template: more of it, or a tag that waits for the template of its component -/
inductive Reading where
  | ready (b : Blocks)
  | component (tag : ComponentTag)

/-- a component tag up to the name of its component, which must be known -/
def Context.componentTag (c : Context) (position : Position) (arguments : Arguments) :
    Except TemplateError ComponentTag := do
  let (named, arguments) := arguments.read Expr.acceptString
  match ← named with
  | none => .error (.malformed arguments.site .componentNameMissing)
  | some name =>
    match c.registry.get? name with
    | none => .error (.malformed arguments.site (.unknownComponent name))
    | some component => return ⟨position, name, component, arguments⟩

/-- a tag of the host opens a block when it has an end tag, and is a node otherwise -/
def Context.customTag (c : Context) (b : Blocks) (tag : CustomTag) (arguments : Arguments) :
    Except TemplateError Blocks :=
  let use : TagUse := ⟨c.template, c.depth⟩
  match tag.refusal use arguments.count with
  | some message => .error (.malformed arguments.site (.custom message))
  | none =>
    match tag.closing with
    | some closing => .ok (b.opened (.custom tag use closing))
    | none => .ok (b.push (.custom tag use []))

/-- a tag that starts something -/
def Context.openTag (c : Context) (b : Blocks) (tag : Tag) (position : Position) (arguments : Arguments) :
    Except TemplateError Reading :=
  match tag with
  | .conditional => do
    let condition ← arguments.readAll (expressionOnly "if")
    return .ready (b.opened (.arm position [] condition))
  | .loop => do
    let head ← arguments.readAll loopHead
    return .ready (b.opened (.loop position head))
  | .assign => do
    let (name, e) ← arguments.readAll assignment
    return .ready (b.push (.assign position name e))
  | .props => do
    let list ← arguments.readAll (propList arguments.count)
    let defaults := list.filterMap fun (key, default) => default.map fun e => (key, e)
    return .ready { b.push (.defaults position defaults) with props := list.map (·.1) }
  | .outlet => do
    let name ← arguments.readAll outletName
    return .ready (b.opened (.outlet name))
  | .fragment => do
    match ← arguments.readAll Expr.acceptString with
    | none => .error (.malformed arguments.site .fragmentNameMissing)
    | some name => return .ready (b.opened (.fragment name))
  | .component => (c.componentTag position arguments).map .component
  | .custom tag => (c.customTag b tag arguments).map .ready

/-! ## tokens -/

/-- a tag that neither ends nor continues a block, by the table of tags -/
def Context.startTag (c : Context) (b : Blocks) (name : String) (position : Position) (arguments : Arguments) :
    Except TemplateError Reading :=
  match c.tags.get? name with
  | some tag => c.openTag b tag position arguments
  | none => .error (.malformed arguments.site (.unknownTag name))

/-- one more tag -/
def Context.readTag (c : Context) (b : Blocks) (name : String) (position : Position) (arguments : Arguments) :
    Except TemplateError Reading :=
  match b.frames with
  | frame :: outer =>
    if name ∈ frame.block.ends then (b.close frame outer name arguments).map .ready
    else c.startTag b name position arguments
  | [] => c.startTag b name position arguments

/-- one more token -/
def Context.read (c : Context) (b : Blocks) : Token → Except TemplateError Reading
  | .text s => .ok (.ready (b.push (.text s)))
  | .output expr position => do
    let arguments ← Arguments.ofText ⟨c.template, position⟩ expr
    let e ← arguments.readAll outputExpression
    return .ready (b.push (.output e position))
  | .tag name args position => do
    let arguments ← Arguments.ofText ⟨c.template, position⟩ args
    c.readTag b name position arguments

/-- a component tag opens a block; its component must not be too deep, and must have a template -/
def Context.openComponent (c : Context) (b : Blocks) (tag : ComponentTag) : Compile Blocks :=
  match c.componentTemplate with
  | none => throw (.malformed tag.arguments.site (.tooDeep tag.name c.limit))
  | some compile => do
    match ← compile tag.component with
    | none => throw (.malformed tag.arguments.site (.noTemplate tag.name))
    | some template =>
      let block ← Compile.ofExcept (tag.block template)
      return b.opened block

/-- the template behind one more token -/
def Context.step (c : Context) (b : Blocks) (token : Token) : Compile Blocks := do
  match ← Compile.ofExcept (c.read b token) with
  | .ready b => return b
  | .component tag => c.openComponent b tag

/-- all blocks are closed at the end -/
def Context.finish (c : Context) (b : Blocks) (position : Position) : Except TemplateError Blocks :=
  match b.frames with
  | [] => .ok b
  | frame :: _ => .error (.malformed ⟨c.template, position⟩ (.blockNotClosed frame.block.ends))

/-- the nodes, props and fragments of tokens; `position` is the place behind the last -/
def Context.document (c : Context) (all : List Token) (position : Position) : Compile Blocks := do
  let b ← all.foldlM c.step .start
  Compile.ofExcept (c.finish b position)

end Template

end Templating
