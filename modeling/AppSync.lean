import AppSync.Calendar.Timestamp
import AppSync.Console.Table
import AppSync.FileTree
import AppSync.Json.Printer
import AppSync.Json.Reader
import AppSync.Load.Session
import AppSync.Main
import AppSync.Proofs.Generation
import AppSync.Proofs.Load.Report
import AppSync.Proofs.Manifest
import AppSync.Proofs.Sdl.RoundTrip
import AppSync.Proofs.Sdl.Validity
import AppSync.Proofs.Writing
import AppSync.Schema.Authorization
import AppSync.Sdl.Check
import AppSync.Source.Returned
import AppSync.Text.Identifier
import AppSync.Proofs.Text.Order
import AppSync.Proofs.Document.Lookup
import AppSync.Proofs.Sdl.Order
import AppSync.Proofs.Strictness
import AppSync.Proofs.Load.SpelledOut
import AppSync.Proofs.Json.RoundTrip
import AppSync.Proofs.Manifest.Text
import AppSync.Proofs.Rereading
import AppSync.Proofs.Load.Totality
import AppSync.Proofs.Command.Prediction
import AppSync.Proofs.Sdl.Sparing
import AppSync.Proofs.Source.Declared
import AppSync.Proofs.Sdl.Constant
import AppSync.Proofs.Sdl.Description
import AppSync.Proofs.Source.Nullability
import AppSync.Proofs.Calendar.Timestamp
import AppSync.Proofs.Writing.Untouched
import AppSync.Proofs.Load.Bookkeeping
import AppSync.Proofs.Config.FileName
import AppSync.Proofs.Command.Sizes
import AppSync.Proofs.Config.File
import AppSync.Proofs.Load.File
import AppSync.Proofs.Load.Fallback
import AppSync.Proofs.Version
