import ThemedViews.Config
import ThemedViews.ContentCache
import ThemedViews.Decimal.Binary
import ThemedViews.Decimal.Shortest
import ThemedViews.Decimal.Spelling
import ThemedViews.Expansion
import ThemedViews.FileTree
import ThemedViews.Halt
import ThemedViews.Handle
import ThemedViews.Heap
import ThemedViews.Host
import ThemedViews.MessageBag
import ThemedViews.Path
import ThemedViews.Proofs.AttributeReading
import ThemedViews.Proofs.BlockExtraction
import ThemedViews.Proofs.CacheHistories
import ThemedViews.Proofs.CacheTransparency
import ThemedViews.Proofs.ClosingTagSearch
import ThemedViews.Proofs.CompletedRenderings
import ThemedViews.Proofs.CompositionScopes
import ThemedViews.Proofs.ContextWindows
import ThemedViews.Proofs.DepthLimit
import ThemedViews.Proofs.DetachedHandlers
import ThemedViews.Proofs.DistinctFiles
import ThemedViews.Proofs.EditDistance
import ThemedViews.Proofs.ErrorLocations
import ThemedViews.Proofs.ExpandedLocations
import ThemedViews.Proofs.GrammarRuns
import ThemedViews.Proofs.HandedTexts
import ThemedViews.Proofs.HandleFrames
import ThemedViews.Proofs.HandleOrigins
import ThemedViews.Proofs.ImmediateRestoration
import ThemedViews.Proofs.IssuedPlaceholders
import ThemedViews.Proofs.LayoutTexts
import ThemedViews.Proofs.MarkedParsing
import ThemedViews.Proofs.MarkedTags
import ThemedViews.Proofs.MarkedTexts
import ThemedViews.Proofs.MessageHistories
import ThemedViews.Proofs.NestedClosingTags
import ThemedViews.Proofs.NestedRendering
import ThemedViews.Proofs.NonceIndependence
import ThemedViews.Proofs.NoparseScanning
import ThemedViews.Proofs.OrderedDocuments
import ThemedViews.Proofs.ParsingOutcomes
import ThemedViews.Proofs.PartialHistories
import ThemedViews.Proofs.PartialInheritance
import ThemedViews.Proofs.PartialTurns
import ThemedViews.Proofs.PathReading
import ThemedViews.Proofs.PathValues
import ThemedViews.Proofs.PendingTexts
import ThemedViews.Proofs.PlaceholderRestoration
import ThemedViews.Proofs.PlainData
import ThemedViews.Proofs.PluginOutputs
import ThemedViews.Proofs.PrintedForests
import ThemedViews.Proofs.PrintedTags
import ThemedViews.Proofs.RenderHistories
import ThemedViews.Proofs.RendererPasses
import ThemedViews.Proofs.RenderingCourses
import ThemedViews.Proofs.ResolvedData
import ThemedViews.Proofs.SharedHistories
import ThemedViews.Proofs.SuggestedNames
import ThemedViews.Proofs.TagExpansion
import ThemedViews.Proofs.TagExtension
import ThemedViews.Proofs.TaglessTemplates
import ThemedViews.Proofs.TemplateReading
import ThemedViews.Proofs.TextCutting
import ThemedViews.Proofs.UnlimitedDepth
import ThemedViews.Proofs.ViewLookups
import ThemedViews.Proofs.ViewNesting
import ThemedViews.Proofs.ViewPaths
import ThemedViews.Proofs.WorkspaceChanges
import ThemedViews.Proofs.WrittenConfigs
import ThemedViews.Proofs.WrittenTexts
import ThemedViews.Renderer
import ThemedViews.Resolution
import ThemedViews.Surroundings
import ThemedViews.Table
import ThemedViews.TagParser
import ThemedViews.Tags.Parser
import ThemedViews.Tags.Protection
import ThemedViews.Tags.Recognition
import ThemedViews.Template.Arithmetic
import ThemedViews.Template.Diagnosis
import ThemedViews.Template.Evaluate
import ThemedViews.Template.Expr
import ThemedViews.Template.Failure
import ThemedViews.Template.Filter
import ThemedViews.Template.Frame
import ThemedViews.Template.Function
import ThemedViews.Template.Grammar
import ThemedViews.Template.Node
import ThemedViews.Template.Peg
import ThemedViews.Template.Pointer
import ThemedViews.Template.Reading
import ThemedViews.Template.Run
import ThemedViews.Template.Test
import ThemedViews.TemplateError
import ThemedViews.Text.Basic
import ThemedViews.Text.Case
import ThemedViews.Text.Cluster
import ThemedViews.Text.Distance
import ThemedViews.Text.Markup
import ThemedViews.Text.Property
import ThemedViews.Text.Quoted
import ThemedViews.Toml.Node
import ThemedViews.Toml.Quoted
import ThemedViews.Toml.Reader
import ThemedViews.Toml.Scalar
import ThemedViews.Toml.Writer
import ThemedViews.Value.Basic
import ThemedViews.Value.Printer
import ThemedViews.View.Basic
import ThemedViews.View.Data
import ThemedViews.View.Rendering
import ThemedViews.ViewError
import ThemedViews.Word
import ThemedViews.Workspace
