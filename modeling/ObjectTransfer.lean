import ObjectTransfer.CommandLine.Run
import ObjectTransfer.Main
import ObjectTransfer.Proofs.Catalog.Documents
import ObjectTransfer.Proofs.Catalog.Durability
import ObjectTransfer.Proofs.Catalog.FailedWrites
import ObjectTransfer.Proofs.Catalog.Writing
import ObjectTransfer.Proofs.CommandLine.Copying
import ObjectTransfer.Proofs.CommandLine.ExitCode
import ObjectTransfer.Proofs.CommandLine.Opening
import ObjectTransfer.Proofs.CommandLine.OperationCodes
import ObjectTransfer.Proofs.CommandLine.Retrieving
import ObjectTransfer.Proofs.CommandLine.Sessions
import ObjectTransfer.Proofs.CommandLine.Termination
import ObjectTransfer.Proofs.CommandLine.Uploading
import ObjectTransfer.Proofs.CommandLine.Waiting
import ObjectTransfer.Proofs.Device.Calls
import ObjectTransfer.Proofs.Device.Frame
import ObjectTransfer.Proofs.Device.Handles
import ObjectTransfer.Proofs.Device.History
import ObjectTransfer.Proofs.Device.Operations
import ObjectTransfer.Proofs.Device.Refinement
import ObjectTransfer.Proofs.Device.Refusals
import ObjectTransfer.Proofs.Device.Reuse
import ObjectTransfer.Proofs.Device.Shelf
import ObjectTransfer.Proofs.Device.Texts
import ObjectTransfer.Proofs.Device.Thumbnails
import ObjectTransfer.Proofs.Device.Turns
import ObjectTransfer.Proofs.Files.Calm
import ObjectTransfer.Proofs.Files.Folders
import ObjectTransfer.Proofs.Files.Frame
import ObjectTransfer.Proofs.Files.Fresh
import ObjectTransfer.Proofs.Files.Rewriting
import ObjectTransfer.Proofs.Json.Codec
import ObjectTransfer.Proofs.Json.Forms
import ObjectTransfer.Proofs.Json.Grammar
import ObjectTransfer.Proofs.Json.Records
import ObjectTransfer.Proofs.Json.Tokens
import ObjectTransfer.Proofs.Pipe.Accounting
import ObjectTransfer.Proofs.Pipe.Blocking
import ObjectTransfer.Proofs.Pipe.Checks
import ObjectTransfer.Proofs.Pipe.Ends
import ObjectTransfer.Proofs.Settings.Overlay
import ObjectTransfer.Proofs.Settings.RoundTrip
import ObjectTransfer.Proofs.Text.Denotation
import ObjectTransfer.Proofs.Text.Displays
import ObjectTransfer.Proofs.Text.Utf8
import ObjectTransfer.Proofs.Toml.Layout
import ObjectTransfer.Proofs.Toml.Lookup
import ObjectTransfer.Proofs.Toml.Positions
import ObjectTransfer.Proofs.Toml.Strings
import ObjectTransfer.Proofs.Transfer.Bounded
import ObjectTransfer.Proofs.Transfer.Cleanup
import ObjectTransfer.Proofs.Transfer.Completion
import ObjectTransfer.Proofs.Transfer.Delivery
import ObjectTransfer.Proofs.Transfer.Draining
import ObjectTransfer.Proofs.Transfer.EndToEnd
import ObjectTransfer.Proofs.Transfer.Layout
import ObjectTransfer.Proofs.Transfer.LocalCommit
import ObjectTransfer.Proofs.Transfer.LocalOutcome
import ObjectTransfer.Proofs.Transfer.LocalUpload
import ObjectTransfer.Proofs.Transfer.Performance
import ObjectTransfer.Proofs.Transfer.Streaming
import ObjectTransfer.Proofs.Transfer.Supply
import ObjectTransfer.Proofs.Transfer.UploadCommit
import ObjectTransfer.Proofs.Worker.Admission
import ObjectTransfer.Proofs.Worker.SerialExecution
import ObjectTransfer.Proofs.Worker.Settling
import ObjectTransfer.Proofs.Worker.Sharing
import ObjectTransfer.Proofs.Worker.Shutdown
import ObjectTransfer.Proofs.Worker.Snapshots
