import DocPreview.Comment.CodeBlock
import DocPreview.Comment.CodeReference
import DocPreview.Comment.Links
import DocPreview.Comment.Parse
import DocPreview.Declaration.Json
import DocPreview.Dialect
import DocPreview.FileTree.Basic
import DocPreview.Html.Basic
import DocPreview.Include.Expand
import DocPreview.Json.Reader
import DocPreview.Json.Writer
import DocPreview.Main
import DocPreview.Number.Decimal
import DocPreview.Options.Basic
import DocPreview.Options.File
import DocPreview.Page.Content
import DocPreview.Page.Style
import DocPreview.Signature.Cache
import DocPreview.Text.Capital
import DocPreview.Text.Lines
import DocPreview.TypeExpr.Spelling
import DocPreview.XPath.Query
import DocPreview.Xml.Document
import DocPreview.Xml.Event
import DocPreview.Proofs.Comment.KeptLinks
import DocPreview.Proofs.Comment.Markers
import DocPreview.Proofs.Comment.Subtree
import DocPreview.Proofs.Signature.CallHistory
import DocPreview.Proofs.Signature.Layout
import DocPreview.Proofs.Include.DocumentView
import DocPreview.Proofs.Include.FileHistory
import DocPreview.Proofs.Include.ResolverRuns
import DocPreview.Proofs.Include.Expansion
import DocPreview.Proofs.Include.ModeComparison
import DocPreview.Proofs.Include.Moments
import DocPreview.Proofs.Include.NestingGuard
import DocPreview.Proofs.Page.Arrangement
import DocPreview.Proofs.Page.SignatureUse
import DocPreview.Proofs.Page.StyleComparison
import DocPreview.Proofs.Session.Transparency
import DocPreview.Proofs.Declaration.RoundTrip
import DocPreview.Proofs.Html.ReadBack
import DocPreview.Proofs.TypeExpr.Grammar
import DocPreview.Proofs.TypeExpr.Respelling
import DocPreview.Proofs.Xml.RoundTrip
import DocPreview.Proofs.Signature.Decomposition
import DocPreview.Proofs.Signature.ParameterList
import DocPreview.Proofs.Include.Failures
import DocPreview.Proofs.Comment.CodeBlock
import DocPreview.Proofs.Page.ListEntries
import DocPreview.Proofs.Page.Surfacing
import DocPreview.Proofs.Page.Complaints
import DocPreview.Proofs.Signature.Neighbours
import DocPreview.Proofs.Signature.Makeup
import DocPreview.Proofs.Signature.LineContinuation
import DocPreview.Proofs.Signature.TokenLayout
import DocPreview.Proofs.Signature.VisibilityWord
import DocPreview.Proofs.Page.Unrecognized
import DocPreview.Proofs.Comment.RepeatedLinks
import DocPreview.Proofs.Page.LinkSuppression
import DocPreview.Proofs.Page.ReferenceForms
import DocPreview.Proofs.Comment.BlockEnd
import DocPreview.Proofs.Signature.ConnectedTypes
import DocPreview.Proofs.Comment.CodeLayout
import DocPreview.Proofs.Comment.Location
import DocPreview.Proofs.Html.Search
import DocPreview.Proofs.Page.MemberListing
import DocPreview.Proofs.Page.MalformedComment
import DocPreview.Proofs.Comment.ReferenceLabel
import DocPreview.Proofs.Comment.TabStops
import DocPreview.Proofs.Page.ListLayouts
import DocPreview.Proofs.CommandLine.Wording
import DocPreview.Proofs.CommandLine.EndToEnd
