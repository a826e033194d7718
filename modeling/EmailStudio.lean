import EmailStudio.Api.Answer
import EmailStudio.Api.Body
import EmailStudio.Api.Document
import EmailStudio.Api.Message
import EmailStudio.Api.Query
import EmailStudio.Api.Route
import EmailStudio.Api.Service
import EmailStudio.Catalog
import EmailStudio.CommandLine.Arguments
import EmailStudio.CommandLine.Command
import EmailStudio.CommandLine.Run
import EmailStudio.Config.DatabaseUrl
import EmailStudio.Config.Settings
import EmailStudio.Config.VariableFile
import EmailStudio.Designs.Database
import EmailStudio.Designs.Design
import EmailStudio.Designs.Store
import EmailStudio.Document.Block
import EmailStudio.Document.Kind
import EmailStudio.Document.Props
import EmailStudio.Document.Template
import EmailStudio.Editor.Data
import EmailStudio.Editor.Social
import EmailStudio.Fault
import EmailStudio.Identifier
import EmailStudio.Image.Base64
import EmailStudio.Image.DataUrl
import EmailStudio.Image.Upload
import EmailStudio.Intake.Field
import EmailStudio.Intake.Issue
import EmailStudio.Intake.Number
import EmailStudio.Log.Entry
import EmailStudio.Log.Level
import EmailStudio.Main
import EmailStudio.Markup.Block
import EmailStudio.Markup.Columns
import EmailStudio.Markup.Padding
import EmailStudio.Markup.Tree
import EmailStudio.Migration.Address
import EmailStudio.Migration.DesignTable
import EmailStudio.Migration.History
import EmailStudio.Migration.Session
import EmailStudio.Number.Binary64
import EmailStudio.Number.Decimal
import EmailStudio.Number.Shortest
import EmailStudio.Proofs.Api.Agreement
import EmailStudio.Proofs.Api.Answer
import EmailStudio.Proofs.Api.Atomicity
import EmailStudio.Proofs.Api.Change
import EmailStudio.Proofs.Api.Containment
import EmailStudio.Proofs.Api.DraftKeeping
import EmailStudio.Proofs.Api.Drafts
import EmailStudio.Proofs.Api.Finite
import EmailStudio.Proofs.Api.Naming
import EmailStudio.Proofs.Api.Overlap
import EmailStudio.Proofs.Api.Pickers
import EmailStudio.Proofs.Api.Reloading
import EmailStudio.Proofs.Api.Reopening
import EmailStudio.Proofs.Api.Session
import EmailStudio.Proofs.Api.Uploads
import EmailStudio.Proofs.CommandLine.Previewing
import EmailStudio.Proofs.CommandLine.Rendering
import EmailStudio.Proofs.CommandLine.Serving
import EmailStudio.Proofs.Config.Origins
import EmailStudio.Proofs.Config.Settings
import EmailStudio.Proofs.Config.Variables
import EmailStudio.Proofs.Designs.Listing
import EmailStudio.Proofs.Designs.Store
import EmailStudio.Proofs.Document.Alike
import EmailStudio.Proofs.Document.Normal
import EmailStudio.Proofs.Document.Reading
import EmailStudio.Proofs.Document.Respelling
import EmailStudio.Proofs.Document.RoundTrip
import EmailStudio.Proofs.Editor.Address
import EmailStudio.Proofs.Editor.Addressing
import EmailStudio.Proofs.Editor.Merging
import EmailStudio.Proofs.Editor.Opening
import EmailStudio.Proofs.Editor.Reloading
import EmailStudio.Proofs.Editor.Reopening
import EmailStudio.Proofs.Editor.Returning
import EmailStudio.Proofs.Editor.Saving
import EmailStudio.Proofs.Editor.Settings
import EmailStudio.Proofs.Editor.Social
import EmailStudio.Proofs.Editor.Unfolding
import EmailStudio.Proofs.Editor.Zones
import EmailStudio.Proofs.Image.Decoding
import EmailStudio.Proofs.Intake.Reading
import EmailStudio.Proofs.Log.Scopes
import EmailStudio.Proofs.Markup.Columns
import EmailStudio.Proofs.Markup.Faults
import EmailStudio.Proofs.Markup.Filling
import EmailStudio.Proofs.Markup.Flattening
import EmailStudio.Proofs.Markup.Grammar
import EmailStudio.Proofs.Markup.Holes
import EmailStudio.Proofs.Markup.Measure
import EmailStudio.Proofs.Markup.Nesting
import EmailStudio.Proofs.Markup.Order
import EmailStudio.Proofs.Markup.Respelling
import EmailStudio.Proofs.Markup.Safety
import EmailStudio.Proofs.Markup.Spreading
import EmailStudio.Proofs.Markup.Writing
import EmailStudio.Proofs.Migration.Address
import EmailStudio.Proofs.Number.Digits
import EmailStudio.Proofs.Number.Exact
import EmailStudio.Proofs.Number.Numeral
import EmailStudio.Proofs.Number.Shortest
import EmailStudio.Proofs.Outcome
import EmailStudio.Proofs.Publishing.FreeText
import EmailStudio.Proofs.Publishing.Inert
import EmailStudio.Proofs.Publishing.Publisher
import EmailStudio.Proofs.Publishing.Rendering
import EmailStudio.Proofs.Storage.Directory
import EmailStudio.Proofs.Storage.Disk
import EmailStudio.Proofs.Storage.History
import EmailStudio.Proofs.Text.Escape
import EmailStudio.Proofs.Text.Unescape
import EmailStudio.Proofs.Validation.Grammar
import EmailStudio.Proofs.Validation.Locality
import EmailStudio.Proofs.Validation.Places
import EmailStudio.Proofs.Validation.Respelling
import EmailStudio.Proofs.Validation.Soundness
import EmailStudio.Proofs.Validation.Sources
import EmailStudio.Proofs.Value.Equality
import EmailStudio.Proofs.Value.Fields
import EmailStudio.Proofs.Value.Respelling
import EmailStudio.Proofs.Value.Substance
import EmailStudio.Publishing.Publisher
import EmailStudio.Publishing.Rendering
import EmailStudio.Schema.Reader
import EmailStudio.Schema.Script
import EmailStudio.Schema.Statement
import EmailStudio.Schema.Table
import EmailStudio.Storage.Bucket
import EmailStudio.Storage.Directory
import EmailStudio.Storage.Images
import EmailStudio.Storage.Local
import EmailStudio.Storage.Tree
import EmailStudio.Text.Blank
import EmailStudio.Text.Camel
import EmailStudio.Text.Case
import EmailStudio.Text.CaseTable
import EmailStudio.Text.CharRanges
import EmailStudio.Text.Digit
import EmailStudio.Text.Escape
import EmailStudio.Text.Integer
import EmailStudio.Text.Lines
import EmailStudio.Text.Path
import EmailStudio.Text.Percent
import EmailStudio.Text.Split
import EmailStudio.Text.Unprintable
import EmailStudio.Text.WordChar
import EmailStudio.Time
import EmailStudio.Url.Host
import EmailStudio.Url.Parts
import EmailStudio.Validation.Issue
import EmailStudio.Validation.Rule
import EmailStudio.Validation.Template
import EmailStudio.Value.Basic
import EmailStudio.Value.Edit
import EmailStudio.Value.Integer
import EmailStudio.Value.Reader
import EmailStudio.Value.Text
import EmailStudio.Value.Token
import EmailStudio.Value.Writer
