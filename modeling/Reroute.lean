import Reroute.Action.Answer
import Reroute.Action.Edit
import Reroute.Action.Shape
import Reroute.Action.Target
import Reroute.BuildError
import Reroute.CommandLine.Arguments
import Reroute.CommandLine.Grammar
import Reroute.CommandLine.Help
import Reroute.CommandLine.LogFilter
import Reroute.CommandLine.Run
import Reroute.Condition.Basic
import Reroute.Condition.FileMatch
import Reroute.Condition.NumberMatch
import Reroute.Condition.Test
import Reroute.Condition.TextMatch
import Reroute.Config.Compile
import Reroute.Config.Document
import Reroute.Config.Error
import Reroute.Config.Lower
import Reroute.Config.Place
import Reroute.Config.Read
import Reroute.Config.Record
import Reroute.Engine
import Reroute.Extension
import Reroute.Files.Tree
import Reroute.Glob
import Reroute.Hcl.Blank
import Reroute.Hcl.Number
import Reroute.Hcl.Quoted
import Reroute.Hcl.Reader
import Reroute.Hcl.Value
import Reroute.LiveRules
import Reroute.Main
import Reroute.Proofs.Condition.Captures
import Reroute.Proofs.Condition.DocumentRoot
import Reroute.Proofs.Condition.IgnoredCase
import Reroute.Proofs.Condition.Merging
import Reroute.Proofs.Condition.Table
import Reroute.Proofs.Config.Actions
import Reroute.Proofs.Config.Conditions
import Reroute.Proofs.Config.Extending
import Reroute.Proofs.Config.Faults
import Reroute.Proofs.Config.Forest
import Reroute.Proofs.Config.Lowering
import Reroute.Proofs.Config.Negation
import Reroute.Proofs.Config.Places
import Reroute.Proofs.Config.RedirectTypes
import Reroute.Proofs.Config.Tables
import Reroute.Proofs.Request.AllowLists
import Reroute.Proofs.Request.BothEnds
import Reroute.Proofs.Request.Bounds
import Reroute.Proofs.Request.CutAtDepth
import Reroute.Proofs.Request.Elements
import Reroute.Proofs.Request.EndSlashes
import Reroute.Proofs.Request.FarIndices
import Reroute.Proofs.Request.FirstSegment
import Reroute.Proofs.Request.FrontKept
import Reroute.Proofs.Request.Memory
import Reroute.Proofs.Request.Modified
import Reroute.Proofs.Request.Names
import Reroute.Proofs.Request.PathText
import Reroute.Proofs.Request.QueryMerged
import Reroute.Proofs.Request.QueryRewritten
import Reroute.Proofs.Request.QueryText
import Reroute.Proofs.Request.Queue
import Reroute.Proofs.Request.ReadBack
import Reroute.Proofs.Request.Received
import Reroute.Proofs.Request.RootedPath
import Reroute.Proofs.Request.SegmentBounds
import Reroute.Proofs.Request.SegmentInserted
import Reroute.Proofs.Request.WorkingUrl
import Reroute.Proofs.Rule.Answers
import Reroute.Proofs.Rule.Changes
import Reroute.Proofs.Rule.Composition
import Reroute.Proofs.Rule.Flags
import Reroute.Proofs.Rule.Law
import Reroute.Proofs.Rule.Moments
import Reroute.Proofs.Rule.Outline
import Reroute.Proofs.Rule.Recording
import Reroute.Proofs.Rule.Respelled
import Reroute.Proofs.Rule.Sequence
import Reroute.Proofs.Rule.Stages
import Reroute.Proofs.Rule.Transcript
import Reroute.Proofs.Table
import Reroute.Proofs.Template.Braces
import Reroute.Proofs.Template.Compile
import Reroute.Proofs.Template.Expansion
import Reroute.Proofs.Template.Nesting
import Reroute.Proofs.Template.Spans
import Reroute.Proofs.Text.Basic
import Reroute.Proofs.Text.LetterCase
import Reroute.Proofs.Text.Numeral
import Reroute.Proofs.Text.Utf8
import Reroute.Proofs.Value.AbsolutePath
import Reroute.Proofs.Value.PercentCoding
import Reroute.Proofs.Value.Read
import Reroute.Proofs.Value.Respelled
import Reroute.Proofs.Walk.Block
import Reroute.Proofs.Walk.Mode
import Reroute.Proofs.Walk.Result
import Reroute.Regex.CharSet
import Reroute.Regex.NamedSet
import Reroute.Regex.Parser
import Reroute.Regex.Program
import Reroute.Regex.Property
import Reroute.Regex.Runs
import Reroute.Regex.Search
import Reroute.Regex.Syntax
import Reroute.Regex.Weight
import Reroute.Request.Deferred
import Reroute.Request.Fields
import Reroute.Request.Head
import Reroute.Request.Path
import Reroute.Request.Query
import Reroute.Request.State
import Reroute.Request.Status
import Reroute.Rule.Basic
import Reroute.Rule.Evaluate
import Reroute.Rule.Outline
import Reroute.Template.Compile
import Reroute.Template.Span
import Reroute.Text.AgeRuns
import Reroute.Text.Basic
import Reroute.Text.BinaryRanges
import Reroute.Text.Break
import Reroute.Text.ByteRow
import Reroute.Text.CaseRuns
import Reroute.Text.CategoryRuns
import Reroute.Text.Character
import Reroute.Text.Display
import Reroute.Text.Json
import Reroute.Text.LetterCase
import Reroute.Text.Numeral
import Reroute.Text.Percent
import Reroute.Text.PropertyRanges
import Reroute.Text.ScriptExtensions
import Reroute.Text.ScriptRuns
import Reroute.Text.Utf8
import Reroute.Value.Basic
import Reroute.Value.Getter
import Reroute.Value.LookupTable
import Reroute.Value.Operation
import Reroute.Value.Scope
import Reroute.Walk.Env
import Reroute.Walk.Event
import Reroute.Walk.Log
import Reroute.Walk.Record
import Reroute.Walk.Scratch
