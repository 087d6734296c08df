import Bookbinder.FileSystem.Changes
import Bookbinder.Workbench.Rehearsal
import Bookbinder.Main
import Bookbinder.Shell.Reading
import Bookbinder.Shell.Arithmetic
import Bookbinder.Shell.Pattern
import Bookbinder.Proofs.Text.Encoding
import Bookbinder.Proofs.Toml.Entries
import Bookbinder.Proofs.FileSystem.Writing
import Bookbinder.Proofs.Machine.Operations
import Bookbinder.Proofs.Settings.Document
import Bookbinder.Proofs.Settings.Reload
import Bookbinder.Proofs.FileSystem.Standing
import Bookbinder.Proofs.Machine.Visits
import Bookbinder.Proofs.Build.Pipeline
import Bookbinder.Proofs.FileSystem.Leads
import Bookbinder.Proofs.FileSystem.Trees
import Bookbinder.Proofs.FileSystem.SpotText
import Bookbinder.Proofs.FileSystem.Resolution
import Bookbinder.Proofs.FileSystem.Below
import Bookbinder.Proofs.FileSystem.Containment
import Bookbinder.Proofs.FileSystem.Operations
import Bookbinder.Proofs.Machine.Outcomes
import Bookbinder.Proofs.Archive.Extraction
import Bookbinder.Proofs.Archive.Containment
import Bookbinder.Proofs.Delivery.Containment
import Bookbinder.Proofs.Compression.Stored
import Bookbinder.Proofs.Archive.Blocks
import Bookbinder.Proofs.CommandLine.Words
import Bookbinder.Proofs.Settings.Offenders
import Bookbinder.Proofs.Archive.Faults
import Bookbinder.Proofs.Build.Resolution
import Bookbinder.Proofs.Delivery.Reports
import Bookbinder.Proofs.CommandLine.Which
import Bookbinder.Proofs.Shell.Idle
import Bookbinder.Proofs.Compression.Cut
import Bookbinder.Proofs.Archive.Cut
import Bookbinder.Proofs.Archive.Layout
import Bookbinder.Proofs.Machine.Endings
import Bookbinder.Proofs.Archive.Agreement
import Bookbinder.Proofs.Delivery.Cut
import Bookbinder.Proofs.Machine.Looks
import Bookbinder.Proofs.CommandLine.BookDirectory
import Bookbinder.Proofs.CommandLine.Building
import Bookbinder.Proofs.CommandLine.ReadOnly
import Bookbinder.Proofs.Build.Announcement
import Bookbinder.Proofs.CommandLine.DryRun
import Bookbinder.Proofs.CommandLine.Turns
import Bookbinder.Proofs.CommandLine.ExitStatus
import Bookbinder.Proofs.Archive.Output
import Bookbinder.Proofs.CommandLine.Records
import Bookbinder.Proofs.CommandLine.Reporting
import Bookbinder.Proofs.CommandLine.Init
import Bookbinder.Proofs.Delivery.Download
import Bookbinder.Proofs.Delivery.Files
import Bookbinder.Proofs.Delivery.Requests
import Bookbinder.Proofs.Delivery.Addresses
import Bookbinder.Proofs.Template.Grammar
import Bookbinder.Proofs.Template.Expansion
import Bookbinder.Proofs.Settings.Templates
import Bookbinder.Proofs.Terminal.Sequences
import Bookbinder.Proofs.CommandLine.Failures
import Bookbinder.Proofs.CommandLine.Results
import Bookbinder.Proofs.FileSystem.Children
import Bookbinder.Proofs.CommandLine.InitOnce
import Bookbinder.Proofs.Process.Starting
import Bookbinder.Proofs.Workbench.Commands
import Bookbinder.Proofs.Build.Found
import Bookbinder.Proofs.FileSystem.Dots
import Bookbinder.Proofs.CommandLine.Target
import Bookbinder.Proofs.Attempts
import Bookbinder.Proofs.Toml.Scalars
import Bookbinder.Proofs.Toml.Locality
import Bookbinder.Proofs.Toml.Statements
import Bookbinder.Proofs.Toml.Spelling
import Bookbinder.Proofs.Toml.Inline
import Bookbinder.Proofs.Toml.Tables
import Bookbinder.Proofs.Settings.Partial
import Bookbinder.Proofs.Settings.Cover
import Bookbinder.Proofs.Settings.Layout
import Bookbinder.Proofs.Settings.Bare
import Bookbinder.Proofs.Settings.Overlaid
import Bookbinder.Proofs.Settings.Overlay
import Bookbinder.Proofs.Duration.Reading
import Bookbinder.Proofs.CommandLine.Guard
import Bookbinder.Proofs.Delivery.Permissions
import Bookbinder.Proofs.Archive.Spelled
import Bookbinder.Proofs.Archive.Tape
import Bookbinder.Proofs.Archive.Reel
import Bookbinder.Proofs.FileSystem.Growth
import Bookbinder.Proofs.Archive.Unpacking
import Bookbinder.Proofs.Compression.Codes
import Bookbinder.Proofs.Compression.Deflation
import Bookbinder.Proofs.Compression.Wrapping
import Bookbinder.Proofs.Build.Overrides
import Bookbinder.Proofs.Settings.LineEnds
import Bookbinder.Proofs.Terminal.Box
