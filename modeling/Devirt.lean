import Devirt.Decimal.Rounding
import Devirt.Decimal.Shortest
import Devirt.Decimal.Style
import Devirt.Detection.Family
import Devirt.Detection.Scan
import Devirt.Detection.SwitchBody
import Devirt.Extraction.Extract
import Devirt.Json.Basic
import Devirt.Json.Printer
import Devirt.Json.Reader
import Devirt.Machine.Document
import Devirt.Main
import Devirt.Pattern.Basic
import Devirt.Proofs.Decimal.Describing
import Devirt.Proofs.Decimal.Doubles
import Devirt.Proofs.Decimal.Floors
import Devirt.Proofs.Decimal.Naturals
import Devirt.Proofs.Decimal.Nearest
import Devirt.Proofs.Decimal.Numerals
import Devirt.Proofs.Decimal.Range
import Devirt.Proofs.Decimal.ReadBack
import Devirt.Proofs.Decimal.Shortest
import Devirt.Proofs.Detection.Agreement
import Devirt.Proofs.Detection.Bodies
import Devirt.Proofs.Detection.Counting
import Devirt.Proofs.Detection.Faultless
import Devirt.Proofs.Detection.Locations
import Devirt.Proofs.Detection.Regions
import Devirt.Proofs.Detection.Tokens
import Devirt.Proofs.Extraction.Labels
import Devirt.Proofs.Extraction.Names
import Devirt.Proofs.Json.Layout
import Devirt.Proofs.Json.RoundTrip
import Devirt.Proofs.Json.Scalars
import Devirt.Proofs.Pattern.Matches
import Devirt.Proofs.Pattern.Passages
import Devirt.Proofs.Pattern.Preference
import Devirt.Proofs.Pattern.Readers
import Devirt.Proofs.Realm.Bounds
import Devirt.Proofs.Realm.Builders
import Devirt.Proofs.Realm.Entry
import Devirt.Proofs.Realm.Evaluation
import Devirt.Proofs.Realm.Guards
import Devirt.Proofs.Realm.Steady
import Devirt.Proofs.Replay.Balance
import Devirt.Proofs.Replay.Branching
import Devirt.Proofs.Replay.Iteration
import Devirt.Proofs.Replay.Naming
import Devirt.Proofs.Replay.Recording
import Devirt.Proofs.Replay.Trees
import Devirt.Proofs.Restoration.Assistance
import Devirt.Proofs.Restoration.Branches
import Devirt.Proofs.Restoration.Choices
import Devirt.Proofs.Restoration.Cleanup
import Devirt.Proofs.Restoration.Collapsing
import Devirt.Proofs.Restoration.Entrances
import Devirt.Proofs.Restoration.EntryCalls
import Devirt.Proofs.Restoration.EntryFaults
import Devirt.Proofs.Restoration.Faultless
import Devirt.Proofs.Restoration.Folding
import Devirt.Proofs.Restoration.GuardNesting
import Devirt.Proofs.Restoration.Guards
import Devirt.Proofs.Restoration.Indices
import Devirt.Proofs.Restoration.Inlining
import Devirt.Proofs.Restoration.Keeping
import Devirt.Proofs.Restoration.Numerals
import Devirt.Proofs.Restoration.Peeling
import Devirt.Proofs.Restoration.Radix
import Devirt.Proofs.Restoration.Reading
import Devirt.Proofs.Restoration.Settling
import Devirt.Proofs.Restoration.Tails
import Devirt.Proofs.Restoration.Unwrapping
import Devirt.Proofs.Sandbox.Exchange
import Devirt.Proofs.Sandbox.Permits
import Devirt.Proofs.Sandbox.Slots
import Devirt.Proofs.Script.Expressions
import Devirt.Proofs.Script.Functions
import Devirt.Proofs.Script.Literals
import Devirt.Proofs.Script.Numbers
import Devirt.Proofs.Script.Outlines
import Devirt.Proofs.Script.Readers
import Devirt.Proofs.Script.Spelling
import Devirt.Proofs.Script.Statements
import Devirt.Proofs.Settings.RoundTrip
import Devirt.Proofs.Source.Ascii
import Devirt.Proofs.Source.Brackets
import Devirt.Proofs.Source.Cutting
import Devirt.Proofs.Source.Divisions
import Devirt.Proofs.Source.Edits
import Devirt.Proofs.Source.Gaps
import Devirt.Proofs.Source.Keywords
import Devirt.Proofs.Source.Lines
import Devirt.Proofs.Source.Nesting
import Devirt.Proofs.Source.Operands
import Devirt.Proofs.Source.Partners
import Devirt.Proofs.Source.Recoding
import Devirt.Proofs.Source.Removal
import Devirt.Proofs.Source.Replacing
import Devirt.Proofs.Source.Restarting
import Devirt.Proofs.Source.Resuming
import Devirt.Proofs.Source.Scanner
import Devirt.Proofs.Source.Showing
import Devirt.Proofs.Source.Stretches
import Devirt.Proofs.Source.Strings
import Devirt.Proofs.Source.Templates
import Devirt.Proofs.Source.Utf8
import Devirt.Proofs.Yaml.Documents
import Devirt.Proofs.Yaml.Forms
import Devirt.Proofs.Yaml.Literal
import Devirt.Proofs.Yaml.Plain
import Devirt.Proofs.Yaml.Quoted
import Devirt.Realm.Assignment
import Devirt.Realm.Bootstrap
import Devirt.Realm.Call
import Devirt.Realm.Closure
import Devirt.Realm.Conversion
import Devirt.Realm.Display
import Devirt.Realm.Evaluate
import Devirt.Realm.Execute
import Devirt.Realm.Generator
import Devirt.Realm.Iterate
import Devirt.Realm.Library.Arrays
import Devirt.Realm.Library.Basic
import Devirt.Realm.Library.Collections
import Devirt.Realm.Library.Documents
import Devirt.Realm.Library.Globals
import Devirt.Realm.Library.Iterators
import Devirt.Realm.Library.Numbers
import Devirt.Realm.Library.Objects
import Devirt.Realm.Library.Regexps
import Devirt.Realm.Library.Strings
import Devirt.Realm.Library.Substitution
import Devirt.Realm.Member
import Devirt.Realm.Native
import Devirt.Realm.Operator
import Devirt.Realm.Outcome
import Devirt.Realm.Run
import Devirt.Realm.Scope
import Devirt.Realm.Setup
import Devirt.Realm.Value
import Devirt.Realm.World
import Devirt.Replay.Mnemonic
import Devirt.Replay.Run
import Devirt.Replay.State
import Devirt.Replay.Step
import Devirt.Replay.Value
import Devirt.Restoration.Cleanup
import Devirt.Restoration.Layers
import Devirt.Restoration.Outcome
import Devirt.Restoration.Report
import Devirt.Restoration.Restore
import Devirt.Restoration.StringTable
import Devirt.Restoration.Wrapper
import Devirt.Sandbox.Exchange
import Devirt.Sandbox.Execute
import Devirt.Sandbox.Limiter
import Devirt.Script.Names
import Devirt.Script.Parser
import Devirt.Script.Parser.Expression
import Devirt.Script.Parser.Function
import Devirt.Script.Parser.State
import Devirt.Script.Parser.Statement
import Devirt.Script.Parser.Target
import Devirt.Script.Regexp.Basic
import Devirt.Script.Regexp.Matcher
import Devirt.Script.Regexp.Parser
import Devirt.Script.Regexp.Reader
import Devirt.Script.Regexp.Sets
import Devirt.Script.Render
import Devirt.Script.Token
import Devirt.Script.Tree
import Devirt.Settings.Basic
import Devirt.Settings.Formats
import Devirt.Settings.Printer
import Devirt.Settings.Reader
import Devirt.Source.CodeMap
import Devirt.Source.Edit
import Devirt.Source.Literal
import Devirt.Source.Location
import Devirt.Source.Scanner
import Devirt.Text.Blank
import Devirt.Text.Case
import Devirt.Text.Classes
import Devirt.Text.Normal
import Devirt.Text.Normal.Canonical
import Devirt.Text.Normal.Compatible
import Devirt.Text.Property
import Devirt.Text.Property.Basic
import Devirt.Text.Property.Categories
import Devirt.Text.Property.Scripts
import Devirt.Text.Property.Traits
import Devirt.Text.Units
import Devirt.Toml.Basic
import Devirt.Toml.Reader
import Devirt.Yaml.Basic
import Devirt.Yaml.Number
import Devirt.Yaml.Printer
import Devirt.Yaml.Reader
import Devirt.Yaml.Scalar
