import ModelReach.Decimal.Binary64
import ModelReach.Decimal.Layout
import ModelReach.Decimal.Shortest
import ModelReach.Facts.Annotation
import ModelReach.Facts.Basic
import ModelReach.Facts.Builtin
import ModelReach.Facts.Class
import ModelReach.Facts.Import
import ModelReach.Facts.Member
import ModelReach.Facts.Module
import ModelReach.Facts.Scope
import ModelReach.Facts.TypeRef
import ModelReach.Files.Glob
import ModelReach.Files.Path
import ModelReach.Files.Scan
import ModelReach.Files.Tree
import ModelReach.Files.Wildcard
import ModelReach.Json.Basic
import ModelReach.Json.Reader
import ModelReach.Json.Writer
import ModelReach.Main
import ModelReach.Proofs.Ancestry.Classes
import ModelReach.Proofs.Ancestry.Distances
import ModelReach.Proofs.Ancestry.Names
import ModelReach.Proofs.Ancestry.Types
import ModelReach.Proofs.Catalogue.Agreement
import ModelReach.Proofs.Catalogue.Answers
import ModelReach.Proofs.Catalogue.Entries
import ModelReach.Proofs.Catalogue.Growth
import ModelReach.Proofs.Catalogue.Identity
import ModelReach.Proofs.Catalogue.Keys
import ModelReach.Proofs.Catalogue.Lifetime
import ModelReach.Proofs.Catalogue.Loaded
import ModelReach.Proofs.Catalogue.Meaning
import ModelReach.Proofs.Catalogue.Mirror
import ModelReach.Proofs.Catalogue.Provenance
import ModelReach.Proofs.Catalogue.Questions
import ModelReach.Proofs.Catalogue.Reading
import ModelReach.Proofs.Catalogue.Sound
import ModelReach.Proofs.Catalogue.Typing
import ModelReach.Proofs.Catalogue.Use
import ModelReach.Proofs.Facts.Calls
import ModelReach.Proofs.Facts.Faults
import ModelReach.Proofs.Facts.Hidden
import ModelReach.Proofs.Facts.Imports
import ModelReach.Proofs.Facts.Module
import ModelReach.Proofs.Facts.NormalForm
import ModelReach.Proofs.Facts.Quoting
import ModelReach.Proofs.Facts.Rereading
import ModelReach.Proofs.Files.Absolute
import ModelReach.Proofs.Files.Alike
import ModelReach.Proofs.Files.Modules
import ModelReach.Proofs.Files.Paths
import ModelReach.Proofs.Files.Patterns
import ModelReach.Proofs.Files.Removal
import ModelReach.Proofs.Files.Scans
import ModelReach.Proofs.Files.Search
import ModelReach.Proofs.Files.Spellings
import ModelReach.Proofs.Files.Walks
import ModelReach.Proofs.Inheritance.Asking
import ModelReach.Proofs.Inheritance.Gathering
import ModelReach.Proofs.Inheritance.Linearization
import ModelReach.Proofs.Inheritance.Merging
import ModelReach.Proofs.Inheritance.Opening
import ModelReach.Proofs.Inheritance.Order
import ModelReach.Proofs.Inheritance.Resolution
import ModelReach.Proofs.Inheritance.Walks
import ModelReach.Proofs.Inheritance.Ways
import ModelReach.Proofs.Json.Faults
import ModelReach.Proofs.Masking.Facts
import ModelReach.Proofs.Masking.Invisible
import ModelReach.Proofs.Masking.Readings
import ModelReach.Proofs.Masking.Schemas
import ModelReach.Proofs.Masking.Twins
import ModelReach.Proofs.Masking.Views
import ModelReach.Proofs.Reach.Build
import ModelReach.Proofs.Reach.Closure
import ModelReach.Proofs.Reach.Constancy
import ModelReach.Proofs.Reach.Derived
import ModelReach.Proofs.Reach.Following
import ModelReach.Proofs.Reach.Leaves
import ModelReach.Proofs.Reach.Phases
import ModelReach.Proofs.Reach.Places
import ModelReach.Proofs.Reach.Sets
import ModelReach.Proofs.Reach.Stricter
import ModelReach.Proofs.Reach.Union
import ModelReach.Proofs.Run.Collect
import ModelReach.Proofs.Run.Declaring
import ModelReach.Proofs.Run.Documents
import ModelReach.Proofs.Run.Entries
import ModelReach.Proofs.Run.Isolation
import ModelReach.Proofs.Run.Loading
import ModelReach.Proofs.Run.Options
import ModelReach.Proofs.Run.Order
import ModelReach.Proofs.Run.Outcomes
import ModelReach.Proofs.Run.Result
import ModelReach.Proofs.Run.Spellings
import ModelReach.Proofs.Run.Steps
import ModelReach.Proofs.Schema.Describing
import ModelReach.Proofs.Schema.Optional
import ModelReach.Proofs.Schema.References
import ModelReach.Proofs.Schema.Required
import ModelReach.Proofs.Source.Faults
import ModelReach.Proofs.Text.Dotted
import ModelReach.Proofs.Text.Normal
import ModelReach.Proofs.Text.Pieces
import ModelReach.Proofs.Text.Sorting
import ModelReach.Proofs.Text.Tables
import ModelReach.Proofs.Text.Utf8
import ModelReach.Reach.Builder
import ModelReach.Run.Arguments
import ModelReach.Run.Collect
import ModelReach.Run.CommandLine
import ModelReach.Run.Log
import ModelReach.Run.Modules
import ModelReach.Run.Options
import ModelReach.Run.Service
import ModelReach.Run.Summary
import ModelReach.Schema.Artifact
import ModelReach.Schema.Document
import ModelReach.Schema.Model
import ModelReach.Schema.Property
import ModelReach.Source.Escape
import ModelReach.Source.Fault
import ModelReach.Source.Grammar.Basic
import ModelReach.Source.Grammar.Expression
import ModelReach.Source.Grammar.Pattern
import ModelReach.Source.Grammar.Statement
import ModelReach.Source.Identifier
import ModelReach.Source.Interpolation
import ModelReach.Source.Lexer
import ModelReach.Source.Number
import ModelReach.Source.Printer
import ModelReach.Source.Quotation
import ModelReach.Source.Reading
import ModelReach.Source.Syntax
import ModelReach.Source.Token
import ModelReach.Text.Basic
import ModelReach.Text.Blank
import ModelReach.Text.CharacterName
import ModelReach.Text.CombiningClass
import ModelReach.Text.Composition
import ModelReach.Text.Decomposition
import ModelReach.Text.Dotted
import ModelReach.Text.IdentifierChar
import ModelReach.Text.Margin
import ModelReach.Text.Names.Alphabets
import ModelReach.Text.Names.Forms
import ModelReach.Text.Names.Further
import ModelReach.Text.Names.Pictures
import ModelReach.Text.Names.Scripts
import ModelReach.Text.Names.Syllables
import ModelReach.Text.Names.Symbols
import ModelReach.Text.Normal
import ModelReach.Text.Printable
import ModelReach.Text.Quoted
import ModelReach.Text.RangeTable
import ModelReach.Text.Utf8
import ModelReach.Types.Catalogue
import ModelReach.Types.Descriptor
import ModelReach.Types.Loading
import ModelReach.Types.Policy
import ModelReach.Types.Referenced
import ModelReach.Types.TypeSet
import ModelReach.Types.View
import ModelReach.Validation.Basic
import ModelReach.Validation.Document
import ModelReach.Validation.TypeRef
import ModelReach.Validation.Values
