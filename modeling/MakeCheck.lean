import MakeCheck.Case.Makefile
import MakeCheck.Command.Run
import MakeCheck.Check.Command
import MakeCheck.Check.Files
import MakeCheck.Check.Rules
import MakeCheck.CommandLine.Session
import MakeCheck.FileStore.Filling
import MakeCheck.FileStore.Times
import MakeCheck.Host.Standard
import MakeCheck.Json.Printer
import MakeCheck.Main
import MakeCheck.Makefile.Json
import MakeCheck.Makefile.Listing
import MakeCheck.Program.Lookup
import MakeCheck.Program.Utility
import MakeCheck.Shell.Evaluation
import MakeCheck.Shell.Script
import MakeCheck.Proofs.Outline.Reading
import MakeCheck.Proofs.RoundTrip
import MakeCheck.Proofs.Insertion
import MakeCheck.Proofs.Listing
import MakeCheck.Proofs.Overlap
import MakeCheck.Proofs.Noise
import MakeCheck.Proofs.Json.Printer
import MakeCheck.Proofs.Case.Life
import MakeCheck.Proofs.Grammar
import MakeCheck.Proofs.Verdict
import MakeCheck.Proofs.Appearance
import MakeCheck.Proofs.Template
import MakeCheck.Proofs.Case.Copy
import MakeCheck.Proofs.Outcome
import MakeCheck.Proofs.Files
import MakeCheck.Proofs.Outline.Log
import MakeCheck.Proofs.Readable
import MakeCheck.Proofs.Course
import MakeCheck.Proofs.Environment
