import JavaBuild.Text.Blank
import JavaBuild.Text.Digit
import JavaBuild.Text.Word
import JavaBuild.Text.Lower
import JavaBuild.Digest.Sha256
import JavaBuild.Data.Binary64
import JavaBuild.Data.Timsort
import JavaBuild.Text.Utf8
import JavaBuild.Data.Json
import JavaBuild.Data.Json.Reader
import JavaBuild.Text.Surrogate
import JavaBuild.Text.Printable
import JavaBuild.Files.Path
import JavaBuild.Files.Disk
import JavaBuild.Host
import JavaBuild.Release
import JavaBuild.Javac.Flags
import JavaBuild.Javac.ArgumentFile
import JavaBuild.Diagnostic
import JavaBuild.Options
import JavaBuild.Javac.Output
import JavaBuild.Diagnostic.Report
import JavaBuild.Data.Zip
import JavaBuild.Compression.Inflate
import JavaBuild.Compression.Bzip2
import JavaBuild.Compression.Lzma
import JavaBuild.Text.Charset
import JavaBuild.Text.Charset.Tables
import JavaBuild.Text.Charset.Registry
import JavaBuild.Data.Zip.Reader
import JavaBuild.Data.Assoc
import JavaBuild.Module.Name
import JavaBuild.Module.Descriptor
import JavaBuild.Text.Java
import JavaBuild.Module.Declaration
import JavaBuild.Module.Description
import JavaBuild.Module.Closure
import JavaBuild.Shell.Syntax
import JavaBuild.Shell.Run
import JavaBuild.Tool
import JavaBuild.Module.Artifact
import JavaBuild.Dependency
import JavaBuild.Patch.Reader
import JavaBuild.Patch.Resolution
import JavaBuild.Patch.Language
import JavaBuild.Change.Aspect
import JavaBuild.Change.Decision
import JavaBuild.Change.Symbols
import JavaBuild.Change.Stored
import JavaBuild.Change.Record
import JavaBuild.Change.Tracker
import JavaBuild.Source.Glob
import JavaBuild.Xml.Element
import JavaBuild.Xml.NameChar
import JavaBuild.Xml.ByteClass
import JavaBuild.Xml.Encoding
import JavaBuild.Xml.Token
import JavaBuild.Xml.Token.Prolog
import JavaBuild.Xml.Token.Content
import JavaBuild.Xml.Token.Value
import JavaBuild.Xml.Role
import JavaBuild.Xml.Fault
import JavaBuild.Xml.Namespace
import JavaBuild.Xml.Dtd
import JavaBuild.Xml.Declaration
import JavaBuild.Xml.Reader
import JavaBuild.Source.Directory
import JavaBuild.Configuration
import JavaBuild.Configuration.Pom
import JavaBuild.Compiler
import JavaBuild.Build.Context
import JavaBuild.Source.Unit
import JavaBuild.Source.Layout
import JavaBuild.Build.UnitOptions
import JavaBuild.Build.Substitution
import JavaBuild.Build.Task
import JavaBuild.Build.Execution
import JavaBuild.Build.Goal
import JavaBuild.Configuration.Fields
import JavaBuild.CommandLine
import JavaBuild.Files.Snapshot
import JavaBuild.Main
import JavaBuild.Proofs.Text.Order
import JavaBuild.Proofs.Host
import JavaBuild.Proofs.Data.List
import JavaBuild.Proofs.Change.Decide
import JavaBuild.Proofs.Change.Scan
import JavaBuild.Proofs.Build.Task
import JavaBuild.Proofs.Data.Json.Scan
import JavaBuild.Proofs.Data.Json.RoundTrip
import JavaBuild.Proofs.Change.Record
import JavaBuild.Proofs.Change.Dependents
import JavaBuild.Proofs.Change.Load
import JavaBuild.Proofs.Change.ClassFiles
import JavaBuild.Proofs.Javac.ArgumentFile
import JavaBuild.Proofs.Patch.Lexing
import JavaBuild.Proofs.Patch.Reading
import JavaBuild.Proofs.Patch.Load
import JavaBuild.Proofs.Patch.ProjectModules
import JavaBuild.Proofs.Patch.Stages
import JavaBuild.Proofs.Dependency.Known
import JavaBuild.Proofs.Patch.TestModulePath
import JavaBuild.Proofs.Patch.Expansion
import JavaBuild.Proofs.Files.Move
import JavaBuild.Proofs.Build.Swap
import JavaBuild.Proofs.Build.Substitution
import JavaBuild.Proofs.Change.Unchanged
import JavaBuild.Proofs.Build.Synthesis
import JavaBuild.Proofs.Javac.Output
import JavaBuild.Proofs.Patch.Simplification
import JavaBuild.Proofs.Source.Glob
import JavaBuild.Proofs.Module.Closure
import JavaBuild.Proofs.Options
import JavaBuild.Proofs.Source.Layout
import JavaBuild.Proofs.Module.Manifest
import JavaBuild.Proofs.Module.Declaration
import JavaBuild.Proofs.Module.Readers
import JavaBuild.Proofs.Build.Sequence
import JavaBuild.Proofs.Build.Inputs
import JavaBuild.Proofs.Build.SearchPaths
import JavaBuild.Proofs.Build.SharedModules
