import ApkFeatures.Analysis.CallGraphs
import ApkFeatures.Analysis.Manifests
import ApkFeatures.Analysis.Table
import ApkFeatures.Application
import ApkFeatures.Artifact
import ApkFeatures.Batch
import ApkFeatures.Buffer
import ApkFeatures.CallGraph.Basic
import ApkFeatures.CallGraph.Callers
import ApkFeatures.CallGraph.Features
import ApkFeatures.CallGraph.Indexed
import ApkFeatures.CallGraph.IndexedCallers
import ApkFeatures.CallGraph.IndexedSensitive
import ApkFeatures.CallGraph.Schema
import ApkFeatures.CallGraph.Sensitive
import ApkFeatures.CommandLine.Arguments
import ApkFeatures.CommandLine.LogFilter
import ApkFeatures.CommandLine.Run
import ApkFeatures.CommandLine.Similarity
import ApkFeatures.Failure
import ApkFeatures.Family
import ApkFeatures.Feature
import ApkFeatures.FilePath
import ApkFeatures.FileTree.Access
import ApkFeatures.FileTree.Basic
import ApkFeatures.FileTree.Changes
import ApkFeatures.FileTree.Resolve
import ApkFeatures.Formats
import ApkFeatures.Gml.Basic
import ApkFeatures.Gml.Reader
import ApkFeatures.Gml.Reference
import ApkFeatures.Gml.Token
import ApkFeatures.Log
import ApkFeatures.Main
import ApkFeatures.Manifest.Intents
import ApkFeatures.Manifest.Permissions
import ApkFeatures.Number.Binary64
import ApkFeatures.Number.Decimal
import ApkFeatures.Number.Shortest
import ApkFeatures.Proofs.Agreement
import ApkFeatures.Proofs.Analysis.Alike
import ApkFeatures.Proofs.Analysis.Independence
import ApkFeatures.Proofs.Analysis.Outcomes
import ApkFeatures.Proofs.Analysis.Tables
import ApkFeatures.Proofs.Application
import ApkFeatures.Proofs.Application.Listing
import ApkFeatures.Proofs.Batch.Datasets
import ApkFeatures.Proofs.Batch.Frame
import ApkFeatures.Proofs.Batch.Interleaving
import ApkFeatures.Proofs.Batch.Leftovers
import ApkFeatures.Proofs.Batch.Merging
import ApkFeatures.Proofs.Batch.Outcomes
import ApkFeatures.Proofs.Batch.Schedules
import ApkFeatures.Proofs.CallGraph.Additions
import ApkFeatures.Proofs.CallGraph.Bounds
import ApkFeatures.Proofs.CallGraph.Callers
import ApkFeatures.Proofs.CallGraph.Classification
import ApkFeatures.Proofs.CallGraph.Features
import ApkFeatures.Proofs.CallGraph.Indexed
import ApkFeatures.Proofs.CallGraph.IndexedCallers
import ApkFeatures.Proofs.CallGraph.Irrelevance
import ApkFeatures.Proofs.CallGraph.Renumbering
import ApkFeatures.Proofs.CallGraph.Resolution
import ApkFeatures.Proofs.CallGraph.Schema
import ApkFeatures.Proofs.CallGraph.Shown
import ApkFeatures.Proofs.CallGraph.Truncation
import ApkFeatures.Proofs.CallGraph.Weight
import ApkFeatures.Proofs.Decompression
import ApkFeatures.Proofs.Extraction
import ApkFeatures.Proofs.Feature
import ApkFeatures.Proofs.Feature.Assignments
import ApkFeatures.Proofs.FilePath
import ApkFeatures.Proofs.FileTree.Contents
import ApkFeatures.Proofs.FileTree.Copying
import ApkFeatures.Proofs.FileTree.Descending
import ApkFeatures.Proofs.FileTree.Folders
import ApkFeatures.Proofs.FileTree.Likeness
import ApkFeatures.Proofs.FileTree.Removing
import ApkFeatures.Proofs.FileTree.Resolve
import ApkFeatures.Proofs.FileTree.Spelling
import ApkFeatures.Proofs.FileTree.Writing
import ApkFeatures.Proofs.Footprint
import ApkFeatures.Proofs.Freshness
import ApkFeatures.Proofs.Gml.Descent
import ApkFeatures.Proofs.Gml.Flattening
import ApkFeatures.Proofs.Gml.Grammar
import ApkFeatures.Proofs.Gml.Joining
import ApkFeatures.Proofs.Gml.Lexing
import ApkFeatures.Proofs.Gml.Numbers
import ApkFeatures.Proofs.Gml.Position
import ApkFeatures.Proofs.Gml.Reading
import ApkFeatures.Proofs.Gml.References
import ApkFeatures.Proofs.Gml.Refusal
import ApkFeatures.Proofs.Gml.Rendering
import ApkFeatures.Proofs.Gml.Spelling
import ApkFeatures.Proofs.Manifest.Declarations
import ApkFeatures.Proofs.Manifest.Mentions
import ApkFeatures.Proofs.Report.Decoding
import ApkFeatures.Proofs.Report.Merging
import ApkFeatures.Proofs.Report.Ordering
import ApkFeatures.Proofs.Report.Repeats
import ApkFeatures.Proofs.Report.Stopping
import ApkFeatures.Proofs.Report.Table
import ApkFeatures.Proofs.Report.Width
import ApkFeatures.Proofs.Settings
import ApkFeatures.Proofs.Step
import ApkFeatures.Proofs.Text.Lines
import ApkFeatures.Proofs.Text.Utf8
import ApkFeatures.Proofs.Vocabulary
import ApkFeatures.Proofs.Xml.Balance
import ApkFeatures.Proofs.Xml.Element
import ApkFeatures.Report.Basic
import ApkFeatures.Report.Dataset
import ApkFeatures.Report.File
import ApkFeatures.Report.Json
import ApkFeatures.Report.Pretty
import ApkFeatures.Report.Serializer
import ApkFeatures.Report.Summary
import ApkFeatures.Settings.Basic
import ApkFeatures.Settings.File
import ApkFeatures.Settings.Load
import ApkFeatures.Settings.Quoted
import ApkFeatures.Settings.Reader
import ApkFeatures.Step
import ApkFeatures.Text.Blank
import ApkFeatures.Text.Lines
import ApkFeatures.Text.Numeral
import ApkFeatures.Text.Quoted
import ApkFeatures.Text.Search
import ApkFeatures.Text.Unprintable
import ApkFeatures.Text.Utf8
import ApkFeatures.Tool.Command
import ApkFeatures.Tool.Script
import ApkFeatures.Tool.Shell
import ApkFeatures.Vocabulary.Basic
import ApkFeatures.Vocabulary.Index
import ApkFeatures.Vocabulary.IntentActions
import ApkFeatures.Vocabulary.Permissions
import ApkFeatures.Vocabulary.SensitiveApis
import ApkFeatures.Xml.Character
import ApkFeatures.Xml.Declaration
import ApkFeatures.Xml.Doctype
import ApkFeatures.Xml.Event
import ApkFeatures.Xml.Place
import ApkFeatures.Xml.Reader
import ApkFeatures.Xml.Source
import ApkFeatures.Xml.Tag
