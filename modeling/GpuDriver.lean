import GpuDriver.Command
import GpuDriver.CommandLine.Help
import GpuDriver.CommandLine.Invocation
import GpuDriver.CommandLine.Run
import GpuDriver.CommandLine.Scan
import GpuDriver.CommandLine.Words
import GpuDriver.Compile.Architecture
import GpuDriver.Compile.Failure
import GpuDriver.Compile.Load
import GpuDriver.Compile.Report
import GpuDriver.Compile.WithNvcc
import GpuDriver.Compile.WithNvrtc
import GpuDriver.Configuration
import GpuDriver.Device
import GpuDriver.Driver.Call
import GpuDriver.Error
import GpuDriver.FileTree
import GpuDriver.Image
import GpuDriver.InProcess.Compiler
import GpuDriver.InProcess.Context
import GpuDriver.InProcess.Launch
import GpuDriver.InProcess.Link
import GpuDriver.InProcess.Module
import GpuDriver.InProcess.State
import GpuDriver.InProcess.Step
import GpuDriver.IoError
import GpuDriver.Launch.Argument
import GpuDriver.Launch.Extent
import GpuDriver.Launch.OptionList
import GpuDriver.Launch.Packing
import GpuDriver.Library.EntryPoint
import GpuDriver.Library.LoadFault
import GpuDriver.Library.Loader
import GpuDriver.Library.Native
import GpuDriver.Library.ObjectFile
import GpuDriver.Library.Scripted
import GpuDriver.Library.Search
import GpuDriver.LittleEndian
import GpuDriver.Main
import GpuDriver.Nvrtc.Call
import GpuDriver.Owned.Context
import GpuDriver.Owned.Driver
import GpuDriver.Owned.LinkSession
import GpuDriver.Owned.Module
import GpuDriver.Owned.Program
import GpuDriver.Path
import GpuDriver.Platform
import GpuDriver.Proofs.CommandLine.Compile
import GpuDriver.Proofs.CommandLine.Link
import GpuDriver.Proofs.CommandLine.Output
import GpuDriver.Proofs.CommandLine.Primary
import GpuDriver.Proofs.Compile.Architecture
import GpuDriver.Proofs.Compile.Diagnostics
import GpuDriver.Proofs.Compile.Dump
import GpuDriver.Proofs.Compile.Lifecycle
import GpuDriver.Proofs.Compile.Load
import GpuDriver.Proofs.Compile.Reported
import GpuDriver.Proofs.Compile.Translated
import GpuDriver.Proofs.Compile.WorkFiles
import GpuDriver.Proofs.Compile.WorkingDirectory
import GpuDriver.Proofs.FileTree
import GpuDriver.Proofs.InProcess.Allocation
import GpuDriver.Proofs.InProcess.Apart
import GpuDriver.Proofs.InProcess.Change
import GpuDriver.Proofs.InProcess.Declared
import GpuDriver.Proofs.InProcess.Failure
import GpuDriver.Proofs.InProcess.Freshness
import GpuDriver.Proofs.InProcess.Handles
import GpuDriver.Proofs.InProcess.Integrity
import GpuDriver.Proofs.InProcess.Launch
import GpuDriver.Proofs.InProcess.Lifetime
import GpuDriver.Proofs.InProcess.Link
import GpuDriver.Proofs.InProcess.LinkHistory
import GpuDriver.Proofs.InProcess.Memory
import GpuDriver.Proofs.InProcess.ModuleSymbols
import GpuDriver.Proofs.InProcess.Nesting
import GpuDriver.Proofs.InProcess.Primary
import GpuDriver.Proofs.InProcess.Programs
import GpuDriver.Proofs.InProcess.Run
import GpuDriver.Proofs.InProcess.Stack
import GpuDriver.Proofs.InProcess.Success
import GpuDriver.Proofs.InProcess.Written
import GpuDriver.Proofs.Launch.OptionList
import GpuDriver.Proofs.Launch.Packing
import GpuDriver.Proofs.Library.Binding
import GpuDriver.Proofs.Owned.Context
import GpuDriver.Proofs.Owned.Launch
import GpuDriver.Proofs.Owned.LinkSession
import GpuDriver.Proofs.Owned.LoadPaths
import GpuDriver.Proofs.Owned.Owner
import GpuDriver.Proofs.Owned.Success
import GpuDriver.Proofs.Platform
import GpuDriver.Proofs.Ptx.Comment
import GpuDriver.Proofs.Ptx.Complete
import GpuDriver.Proofs.Ptx.Declarations
import GpuDriver.Proofs.Ptx.Loss
import GpuDriver.Proofs.Ptx.Seam
import GpuDriver.Proofs.Ptx.Stripped
import GpuDriver.Proofs.Session.Books
import GpuDriver.Proofs.Session.Release
import GpuDriver.Proofs.Settings
import GpuDriver.Proofs.Source.Flaw
import GpuDriver.Proofs.Source.Kernel
import GpuDriver.Proofs.Source.Translation
import GpuDriver.Proofs.Table
import GpuDriver.Proofs.Text.Lines
import GpuDriver.Proofs.Text.Numeral
import GpuDriver.Proofs.Text.Octets
import GpuDriver.Proofs.Text.Pieces
import GpuDriver.Proofs.World
import GpuDriver.Ptx.Comment
import GpuDriver.Ptx.Symbols
import GpuDriver.Session.Object
import GpuDriver.Session.Run
import GpuDriver.Settings
import GpuDriver.Source.Kernel
import GpuDriver.Source.Scalar
import GpuDriver.Source.Translation
import GpuDriver.Status
import GpuDriver.Table
import GpuDriver.Temporary
import GpuDriver.Text.Blank
import GpuDriver.Text.Braces
import GpuDriver.Text.Numeral
import GpuDriver.Text.Pieces
import GpuDriver.Text.Printable
import GpuDriver.Text.Quoted
import GpuDriver.Text.Utf8
import GpuDriver.Workbench
import GpuDriver.World
