import LineShell.Text.Words
import LineShell.Text.Lines
import LineShell.Path.Normal
import LineShell.Path.Home
import LineShell.FileSystem.Fault
import LineShell.FileSystem.Basic
import LineShell.FileSystem.Operations
import LineShell.FileSystem.Calls
import LineShell.Palette
import LineShell.History
import LineShell.WorkingDirectory
import LineShell.Flags
import LineShell.FileSystem.Copy
import LineShell.Command.Work
import LineShell.Command.Run
import LineShell.Reply
import LineShell.Completion
import LineShell.Settings.Load
import LineShell.LogFilter
import LineShell.Platform
import LineShell.Platform.Unix
import LineShell.Program.Basic
import LineShell.Program
import LineShell.FileSystem.Planting
import LineShell.FileSystem.Listing
import LineShell.Main
import LineShell.Command.Unchecked
import LineShell.Proofs.Path.Location
import LineShell.Proofs.FileSystem.Update
import LineShell.Proofs.FileSystem.Walk
import LineShell.Proofs.FileSystem.Operations
import LineShell.Proofs.FileSystem.CopyFile
import LineShell.Proofs.FileSystem.Replay
import LineShell.Proofs.FileSystem.Preorder
import LineShell.Proofs.FileSystem.Plain
import LineShell.Proofs.FileSystem.Overlay
import LineShell.Proofs.FileSystem.CopyTree
import LineShell.Proofs.Session
import LineShell.Proofs.Command.Work
import LineShell.Proofs.Command.Target
import LineShell.Proofs.Command.Copy
import LineShell.Proofs.FileSystem.Removal
import LineShell.Proofs.FileSystem.Trail
import LineShell.Proofs.FileSystem.Growth
import LineShell.Proofs.Command.Effects
import LineShell.Proofs.Line
import LineShell.Proofs.History
import LineShell.Proofs.Containment
import LineShell.Proofs.WorkingDirectory
import LineShell.Proofs.Sink
import LineShell.Proofs.Unchecked
import LineShell.Proofs.Path.Normal
import LineShell.Proofs.Path.Reading
import LineShell.Proofs.Path.Home
import LineShell.Proofs.Tilde
import LineShell.Proofs.FileSystem.NormalPath
import LineShell.Proofs.Resolve
import LineShell.Proofs.Text.Lines
import LineShell.Proofs.Exit
import LineShell.Proofs.Flags
import LineShell.Proofs.Platform
import LineShell.Proofs.Program
import LineShell.Proofs.Output
import LineShell.Proofs.PrintedHistory
import LineShell.Proofs.Color
import LineShell.Proofs.Command.Spelling
import LineShell.Proofs.Text.Cursor
import LineShell.Proofs.Text.Runs
import LineShell.Proofs.Completion
import LineShell.Proofs.FileSystem.Nesting
import LineShell.Proofs.FileSystem.FailedCopy
import LineShell.Proofs.Command.EmptyDirectories
import LineShell.Proofs.Accepting
import LineShell.Proofs.Extending
import LineShell.Proofs.FileSystem.NewEntry
import LineShell.Proofs.Command.Touch
import LineShell.Proofs.Command.TakingBack
import LineShell.Proofs.Command.OneByOne
import LineShell.Proofs.Command.ChangeDirectory
import LineShell.Proofs.Highlight
import LineShell.Proofs.Grammar
import LineShell.Proofs.Settings.Line
import LineShell.Proofs.Settings.File
import LineShell.Proofs.Settings.Quoted
import LineShell.Proofs.Path.NormalForm
import LineShell.Proofs.NormalLine
