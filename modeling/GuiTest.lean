import GuiTest.Application.Rehearsal
import GuiTest.Files.Disk
import GuiTest.Main
import GuiTest.Report.Basic
import GuiTest.Proofs.Element.Position
import GuiTest.Proofs.Locator.Search
import GuiTest.Proofs.Waiting.Schedule
import GuiTest.Proofs.Waiting.Trace
import GuiTest.Proofs.ObjectMap.Entry
import GuiTest.Proofs.ObjectMap.NameTable
import GuiTest.Proofs.ObjectMap.Resolve
import GuiTest.Proofs.Text.ByteOrder
import GuiTest.Proofs.ObjectMap.Fault
import GuiTest.Proofs.Application.Desktop
import GuiTest.Proofs.Application.History
import GuiTest.Proofs.Application.Ownership
import GuiTest.Proofs.Waiting.Failure
import GuiTest.Proofs.Waiting.Journal
import GuiTest.Proofs.Locator.WellFormed
import GuiTest.Proofs.Waiting.Sighting
import GuiTest.Proofs.Application.Forwarding
import GuiTest.Proofs.Locator.Overriding
import GuiTest.Proofs.Text.Glob
import GuiTest.Proofs.Regex.Matching
import GuiTest.Proofs.Regex.Seam
import GuiTest.Proofs.Regex.Bracket
import GuiTest.Proofs.Regex.Piece
import GuiTest.Proofs.Regex.Frame
import GuiTest.Proofs.Regex.Bounds
import GuiTest.Proofs.Regex.Whole
import GuiTest.Proofs.Element.Change
import GuiTest.Proofs.Waiting.Menu
import GuiTest.Proofs.Json.Token
import GuiTest.Proofs.Json.RoundTrip
import GuiTest.Proofs.Json.Decode
import GuiTest.Proofs.Element.Json
import GuiTest.Proofs.Application.Snapshot
import GuiTest.Proofs.Report.Entry
import GuiTest.Proofs.Report.Log
import GuiTest.Proofs.Application.Reaction
import GuiTest.Proofs.CommandLine.Find
import GuiTest.Proofs.Suite.Settings
import GuiTest.Proofs.CommandLine.Expect
import GuiTest.Proofs.Application.Frame
import GuiTest.Proofs.Text.Cutting
import GuiTest.Proofs.Waiting.Course
import GuiTest.Proofs.Element.Insertion
import GuiTest.Proofs.Locator.Insertion
import GuiTest.Proofs.Locator.Description
import GuiTest.Proofs.Suite.Installations
import GuiTest.Proofs.Suite.Variables
import GuiTest.Proofs.Report.Sections
import GuiTest.Proofs.Regex.Anchored
import GuiTest.Proofs.Files.Path
import GuiTest.Proofs.Unicode.Casing
import GuiTest.Proofs.Project.Files
import GuiTest.Proofs.Project.OpenedFile
import GuiTest.Proofs.Project.TemplateName
import GuiTest.Proofs.Text.Utf8
import GuiTest.Proofs.Json.Spelling
import GuiTest.Proofs.Json.Grammar
import GuiTest.Proofs.Json.Record
import GuiTest.Proofs.Files.Disk
import GuiTest.Proofs.Suite.Timing
