import QuestScript.Block.Basic
import QuestScript.Block.Source
import QuestScript.Card.Basic
import QuestScript.Card.Combat
import QuestScript.Card.Renderer
import QuestScript.Card.Roleplay
import QuestScript.Character.Blank
import QuestScript.Character.CaseTable
import QuestScript.Character.PrintTable
import QuestScript.Character.Properties
import QuestScript.Character.PunctuationTable
import QuestScript.Character.Ranges
import QuestScript.Character.WidthTable
import QuestScript.Command.Arguments
import QuestScript.Command.Category
import QuestScript.Command.Compile
import QuestScript.Command.Config
import QuestScript.Command.Effects
import QuestScript.Command.Format
import QuestScript.Command.Frontmatter
import QuestScript.Command.Run
import QuestScript.Command.Test
import QuestScript.Compilation
import QuestScript.Diagnostic.Basic
import QuestScript.Diagnostic.Log
import QuestScript.Diagnostic.Problem
import QuestScript.Files.Tree
import QuestScript.Group
import QuestScript.Line
import QuestScript.Main
import QuestScript.Markup.Block
import QuestScript.Markup.Entity
import QuestScript.Markup.Event
import QuestScript.Markup.Inline
import QuestScript.Markup.Link
import QuestScript.Markup.Phrase
import QuestScript.Markup.Scan
import QuestScript.Markup.Tag
import QuestScript.Markup.Token
import QuestScript.Number.Numeral
import QuestScript.Number.Shortest
import QuestScript.Outline.Node
import QuestScript.Quest.Attribute
import QuestScript.Quest.Header
import QuestScript.Render.Pass
import QuestScript.Render.Segment
import QuestScript.Render.Unit
import QuestScript.Report.Basic
import QuestScript.Report.Layout
import QuestScript.Report.Snippet
import QuestScript.Report.Span
import QuestScript.Report.Style
import QuestScript.Text.Basic
import QuestScript.Text.Lines
import QuestScript.Text.Lower
import QuestScript.Text.Pattern
import QuestScript.Text.Quoted
import QuestScript.Text.Span
import QuestScript.Toml.Dates
import QuestScript.Toml.Decode
import QuestScript.Toml.Document
import QuestScript.Toml.Fault
import QuestScript.Toml.Lines
import QuestScript.Toml.Numbers
import QuestScript.Toml.Reader
import QuestScript.Toml.Strings
import QuestScript.Toml.Value
import QuestScript.Toml.Writer
import QuestScript.Xml.Escape
import QuestScript.Xml.Format
import QuestScript.Xml.Node
import QuestScript.Proofs.Group.Cut
import QuestScript.Proofs.Group.Table
import QuestScript.Proofs.Render.Span
import QuestScript.Proofs.Render.Fresh
import QuestScript.Proofs.Render.States
import QuestScript.Proofs.Render.Parent
import QuestScript.Proofs.Render.Taken
import QuestScript.Proofs.Nest.Basic
import QuestScript.Proofs.Nest.Run
import QuestScript.Proofs.Nest.Pass
import QuestScript.Proofs.Render.Jump
import QuestScript.Proofs.Render.Map
import QuestScript.Proofs.Card.Reading
import QuestScript.Proofs.Card.Placed
import QuestScript.Proofs.Card.Marked
import QuestScript.Proofs.Card.Order
import QuestScript.Proofs.Render.Mixed
import QuestScript.Proofs.Block.Lines
import QuestScript.Proofs.Group.Owner
import QuestScript.Proofs.Card.Outline
import QuestScript.Proofs.Render.Again
import QuestScript.Proofs.Line
import QuestScript.Proofs.Render.Contract
import QuestScript.Proofs.Render.Lookup
import QuestScript.Proofs.Render.Heading
import QuestScript.Proofs.Render.Rename
import QuestScript.Proofs.Card.Rename
import QuestScript.Proofs.Group.Append
import QuestScript.Proofs.Render.Append
import QuestScript.Proofs.Render.Reindent
import QuestScript.Proofs.Render.Emission
import QuestScript.Proofs.Card.Codes
import QuestScript.Proofs.Card.Quests
import QuestScript.Proofs.Card.Header
import QuestScript.Proofs.Quest.Attributes
import QuestScript.Proofs.Card.Metadata
import QuestScript.Proofs.Text.Lines
import QuestScript.Proofs.Block.Span
import QuestScript.Proofs.Card.Messages
import QuestScript.Proofs.Xml.Reader
import QuestScript.Proofs.Xml.Tags
import QuestScript.Proofs.Xml.ReadBack
import QuestScript.Proofs.Command.Compile
import QuestScript.Proofs.Text.Trim
import QuestScript.Proofs.Text.Parts
import QuestScript.Proofs.Text.Pattern
import QuestScript.Proofs.Lookup
import QuestScript.Proofs.Files.Tree
import QuestScript.Proofs.Command.Category
import QuestScript.Proofs.Command.Test
import QuestScript.Proofs.Card.Narrative
import QuestScript.Proofs.Card.Combat
import QuestScript.Proofs.Number.Spelling
import QuestScript.Proofs.Number.Numeral
import QuestScript.Proofs.Quest.Written
import QuestScript.Proofs.Number.Finite
import QuestScript.Proofs.Quest.Messages
import QuestScript.Proofs.Block.Normal
import QuestScript.Proofs.Card.Labels
import QuestScript.Proofs.Outline.ReadBack
import QuestScript.Proofs.Markup.WellFormed
import QuestScript.Proofs.Trigger
import QuestScript.Proofs.Command.Frontmatter
import QuestScript.Proofs.Number.Nearest
import QuestScript.Proofs.Command.Select
import QuestScript.Proofs.Command.Arguments
