import LinePatch.Bytes.Lines
import LinePatch.FileSystem.Edit
import LinePatch.Main
import LinePatch.Program
import LinePatch.Proofs.AssertReturn
import LinePatch.Proofs.AssertReturn.Repeated
import LinePatch.Proofs.AssertReturn.Undone
import LinePatch.Proofs.FilePatch.Contents
import LinePatch.Proofs.FilePatch.Frame
import LinePatch.Proofs.FilePatch.FullDevice
import LinePatch.Proofs.FilePatch.Log
import LinePatch.Proofs.Pass.Counters
import LinePatch.Proofs.Program
import LinePatch.Proofs.Program.Precedence
import LinePatch.Proofs.Stream.Concatenation
import LinePatch.Proofs.Stream.Ending
import LinePatch.Proofs.Stream.Groups
import LinePatch.Proofs.Stream.Interruption
import LinePatch.Proofs.Stream.LineStructure
import LinePatch.Proofs.Stream.Position
import LinePatch.Proofs.Stream.SecondPass
import LinePatch.Proofs.Stream.Termination
import LinePatch.Proofs.Stream.Unchanged
import LinePatch.Proofs.Stream.Whole
import LinePatch.Proofs.Stream.WriteCalls
import LinePatch.Proofs.Substitution.Border
import LinePatch.Proofs.Substitution.Cursor
import LinePatch.Proofs.Substitution.Distinction
import LinePatch.Proofs.Substitution.Greedy
import LinePatch.Proofs.Substitution.Independent
import LinePatch.Proofs.Textual
import LinePatch.Sink.Scripted
