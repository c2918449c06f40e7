import FirmwareVars.Bytes
import FirmwareVars.Text.Utf8
import FirmwareVars.Text.Printable
import FirmwareVars.Text.GraphemeExtend
import FirmwareVars.Text.Quoted
import FirmwareVars.Checksum.Crc32
import FirmwareVars.Guid
import FirmwareVars.Fs.OsError
import FirmwareVars.Fs.Path
import FirmwareVars.Fs.Tree
import FirmwareVars.Fs.Change
import FirmwareVars.Fs.Snapshot
import FirmwareVars.Fs.Make
import FirmwareVars.Fs.Remove
import FirmwareVars.Attributes
import FirmwareVars.Error
import FirmwareVars.Key
import FirmwareVars.Diagnostic
import FirmwareVars.Record
import FirmwareVars.Config
import FirmwareVars.Sys.Basic
import FirmwareVars.Sys.Host
import FirmwareVars.Store.Basic
import FirmwareVars.Store.Guard
import FirmwareVars.Store.Read
import FirmwareVars.Store.Persist
import FirmwareVars.Store.Write
import FirmwareVars.Store.Remove
import FirmwareVars.Store.Listing
import FirmwareVars.Store.Probe
import FirmwareVars.Export.Body
import FirmwareVars.Export.File
import FirmwareVars.Export.Transfer
import FirmwareVars.Session
import FirmwareVars.Cli.Number
import FirmwareVars.Cli.Args
import FirmwareVars.Cli.Commands
import FirmwareVars.Cli.Exit
import FirmwareVars.Cli.Help
import FirmwareVars.Cli.Run
import FirmwareVars.Main
import FirmwareVars.Proofs.Fs.Inodes
import FirmwareVars.Proofs.Fs.Resolve
import FirmwareVars.Proofs.Names
import FirmwareVars.Proofs.Run
import FirmwareVars.Proofs.Trace
import FirmwareVars.Proofs.Store.Window
import FirmwareVars.Proofs.Store.Commit
import FirmwareVars.Proofs.Store.Records
import FirmwareVars.Proofs.Store.Failure
import FirmwareVars.Proofs.Export.Codec
import FirmwareVars.Proofs.Store.Reads
import FirmwareVars.Proofs.Store.Immutable
import FirmwareVars.Proofs.Store.Listing
import FirmwareVars.Proofs.Concurrent.Pool
import FirmwareVars.Proofs.Concurrent.Ownership
import FirmwareVars.Proofs.Concurrent.Phases
import FirmwareVars.Proofs.Concurrent.Readers
import FirmwareVars.Proofs.Concurrent.Creators
import FirmwareVars.Proofs.Export.Transfer
import FirmwareVars.Proofs.Store.KeyPaths
import FirmwareVars.Proofs.Store.CopyLoop
import FirmwareVars.Proofs.Store.Mirror
import FirmwareVars.Proofs.KeyText
import FirmwareVars.Proofs.Checksum.Crc32
import FirmwareVars.Proofs.Text.Utf8
import FirmwareVars.Proofs.Export.Integrity
