/-
  Reroute — moving import paths to a new layout by rules.
-/
import Reroute.CharSet
import Reroute.Command
import Reroute.CommandLine
import Reroute.Context
import Reroute.Discovery
import Reroute.Document.Basic
import Reroute.Document.Json
import Reroute.Document.Toml.Parser
import Reroute.Document.Toml.Scalar
import Reroute.Document.Toml.Table
import Reroute.Document.Toml.Text
import Reroute.Draft
import Reroute.Failure
import Reroute.FileTree.Basic
import Reroute.FileTree.Disk
import Reroute.FileTree.Resolution
import Reroute.Glob
import Reroute.Json
import Reroute.Main
import Reroute.Migration
import Reroute.Path.Basic
import Reroute.Path.Expansion
import Reroute.Pattern.Basic
import Reroute.Pattern.Class
import Reroute.Pattern.Escape
import Reroute.Pattern.Fault
import Reroute.Pattern.Flags
import Reroute.Pattern.Node
import Reroute.Pattern.Parser
import Reroute.Pattern.Program
import Reroute.Pattern.Property
import Reroute.Pattern.Search
import Reroute.Presets
import Reroute.Proofs.Accounting
import Reroute.Proofs.ApplyRun
import Reroute.Proofs.AuthHooks
import Reroute.Proofs.Blocks
import Reroute.Proofs.Candidates
import Reroute.Proofs.DiscoveredFiles
import Reroute.Proofs.Drafts
import Reroute.Proofs.DryRun
import Reroute.Proofs.EmptyMatches
import Reroute.Proofs.ExitStatus
import Reroute.Proofs.FeatureFirst
import Reroute.Proofs.FileTree.Entries
import Reroute.Proofs.FileTree.Following
import Reroute.Proofs.FileTree.Reading
import Reroute.Proofs.FileTree.Shape
import Reroute.Proofs.FileTree.Writing
import Reroute.Proofs.FirstFlaw
import Reroute.Proofs.GroupNames
import Reroute.Proofs.Imports
import Reroute.Proofs.Independence
import Reroute.Proofs.Listing
import Reroute.Proofs.Loading
import Reroute.Proofs.MoveOrder
import Reroute.Proofs.Moves
import Reroute.Proofs.Nullability
import Reroute.Proofs.Paths
import Reroute.Proofs.Pattern.Captured
import Reroute.Proofs.Pattern.Closure
import Reroute.Proofs.Pattern.Language
import Reroute.Proofs.Pattern.Layout
import Reroute.Proofs.Pattern.Leftmost
import Reroute.Proofs.Pattern.Literal
import Reroute.Proofs.Pattern.Matches
import Reroute.Proofs.Pattern.Numbering
import Reroute.Proofs.Pattern.Passes
import Reroute.Proofs.Pattern.Words
import Reroute.Proofs.Phases
import Reroute.Proofs.Planning
import Reroute.Proofs.PlanningPasses
import Reroute.Proofs.PresetOrder
import Reroute.Proofs.Recording
import Reroute.Proofs.References
import Reroute.Proofs.ReplacedWords
import Reroute.Proofs.Replacement
import Reroute.Proofs.RootPrefix
import Reroute.Proofs.RootSpelling
import Reroute.Proofs.SecondRun
import Reroute.Proofs.Splicing
import Reroute.Proofs.Substitution
import Reroute.Proofs.TableImport
import Reroute.Proofs.Template.Grammar
import Reroute.Proofs.Template.RoundTrip
import Reroute.Proofs.Text.ByteOrder
import Reroute.Proofs.Visits
import Reroute.Registry
import Reroute.Report
import Reroute.Rule
import Reroute.RulesFile
import Reroute.Style
import Reroute.Substitution
import Reroute.Template.Basic
import Reroute.Template.Expansion
import Reroute.Template.Parser
import Reroute.Template.Printer
import Reroute.Text.Digits
import Reroute.Text.Pieces
import Reroute.Unicode.Basic
import Reroute.Unicode.CaseFold
import Reroute.Unicode.Category
import Reroute.Unicode.Contributory
import Reroute.Unicode.Derived
import Reroute.Unicode.Ranges
import Reroute.Unicode.Script
