import Templating.Attributes
import Templating.Cli.Command
import Templating.Cli.Usage
import Templating.Component.Registry
import Templating.Component.Setup
import Templating.Component.SlotData
import Templating.Config
import Templating.Decimal.Shortest
import Templating.Dict
import Templating.Error
import Templating.Expr.Basic
import Templating.Expr.Eval
import Templating.Expr.Operator
import Templating.Expr.Parser
import Templating.Expr.Reader
import Templating.Expr.Token
import Templating.Fault
import Templating.FileTree
import Templating.Json.Basic
import Templating.Json.Reader
import Templating.Json.Writer
import Templating.Loader
import Templating.Main
import Templating.Markup.Attribute
import Templating.Markup.Event
import Templating.Markup.Expansion
import Templating.Pass
import Templating.Path
import Templating.Pattern.Basic
import Templating.Pattern.Bracket
import Templating.Pattern.Escape
import Templating.Pattern.Machine
import Templating.Pattern.Reader
import Templating.Pattern.Size
import Templating.Pattern.Source
import Templating.Position
import Templating.Report
import Templating.Scope
import Templating.Template.Arguments
import Templating.Template.Block
import Templating.Template.Node
import Templating.Template.Region
import Templating.Template.Render
import Templating.Template.Token
import Templating.TemplateSet
import Templating.Text.Blank
import Templating.Text.Case
import Templating.Text.CaseTable
import Templating.Text.CategoryTable
import Templating.Text.CharSet
import Templating.Text.Fold
import Templating.Text.Hex
import Templating.Text.Html
import Templating.Text.Property
import Templating.Text.PropertyTable
import Templating.Text.Scan
import Templating.Text.ScriptTable
import Templating.Value
import Templating.Proofs.FreshCompilation
import Templating.Operation
import Templating.Proofs.CacheCoherence
import Templating.Proofs.DepthLimit
import Templating.Proofs.Isolation
import Templating.Proofs.WordReaders
import Templating.Proofs.Reading
import Templating.Proofs.Written
import Templating.Proofs.CleanValue
import Templating.Proofs.Escaping
import Templating.Proofs.CompilationRules
import Templating.Proofs.Recursion
import Templating.Proofs.DictLaws
import Templating.Proofs.ComponentTree
import Templating.Proofs.ComponentData
import Templating.Proofs.Buffer
import Templating.Proofs.StaticAttributes
import Templating.Proofs.TagSyntax
import Templating.Proofs.Cutting
import Templating.Proofs.RepeatedExpansion
import Templating.Proofs.TrimMarks
import Templating.Proofs.VerbatimText
import Templating.Proofs.Cursor
import Templating.Proofs.MoreWords
import Templating.Proofs.ExpressionText
import Templating.Proofs.DynamicAttributes
import Templating.Proofs.QuoteScan
import Templating.Proofs.ByteScan
import Templating.Proofs.SourceRegions
import Templating.Proofs.Comments
import Templating.Proofs.PrintedSource
import Templating.Proofs.StringLiterals
import Templating.Proofs.ExpressionWords
import Templating.Proofs.WordLayout
import Templating.Proofs.ExpressionLevels
import Templating.Proofs.PrintedExpression
import Templating.Proofs.BlockGrammar
import Templating.Proofs.TokenTerminals
import Templating.Proofs.BlockStructure
import Templating.Proofs.PhraseParts
import Templating.Proofs.KeptContent
import Templating.Proofs.Assignments
import Templating.Proofs.RenderFailure
import Templating.Proofs.TokenPlaces
import Templating.Proofs.ErrorPlaces
import Templating.Proofs.Entities
import Templating.Proofs.RenderedAttributes
import Templating.Proofs.DirectoryFiles
import Templating.Proofs.CompileErrors
import Templating.Proofs.VisibleVariables
import Templating.Proofs.FragmentTags
import Templating.Proofs.FragmentRendering
import Templating.Proofs.DottedPaths
import Templating.Proofs.NameResolution
import Templating.Proofs.ScannedNames
import Templating.Proofs.SharedVariables
import Templating.Proofs.OrderedAttributes
import Templating.Proofs.AttributeText
import Templating.Proofs.SlotKeys
import Templating.Proofs.DoubleRounding
import Templating.Proofs.IntegerDoubles
import Templating.Proofs.IntegerComparison
import Templating.Proofs.SlotLists
import Templating.Proofs.LineIndex
import Templating.Proofs.SourcePositions
import Templating.Proofs.ReportExtent
import Templating.Proofs.DeclaredProps
import Templating.Proofs.RelatedScopes
import Templating.Proofs.PrintedWords
import Templating.Proofs.CursorProgress
import Templating.Proofs.ArgumentCursor
import Templating.Proofs.JsonRoundTrip
import Templating.Proofs.EnclosedContent
import Templating.Proofs.HeadlessComponents
