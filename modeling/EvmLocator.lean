import EvmLocator.Address
import EvmLocator.CommandLine.Run
import EvmLocator.Files.Tree
import EvmLocator.Main
import EvmLocator.Proofs.Address
import EvmLocator.Proofs.Bytecode.Comparison
import EvmLocator.Proofs.Bytecode.Hex
import EvmLocator.Proofs.Bytecode.Independence
import EvmLocator.Proofs.Bytecode.Locality
import EvmLocator.Proofs.Bytecode.Normal
import EvmLocator.Proofs.Bytecode.Overwrite
import EvmLocator.Proofs.Bytecode.Placeholder
import EvmLocator.Proofs.Bytecode.Recognition
import EvmLocator.Proofs.Bytecode.Regions
import EvmLocator.Proofs.Bytecode.Rounds
import EvmLocator.Proofs.Bytecode.Shortcut
import EvmLocator.Proofs.Bytecode.Substitution
import EvmLocator.Proofs.Bytecode.Trailer
import EvmLocator.Proofs.Catalog.Attribution
import EvmLocator.Proofs.Catalog.Contents
import EvmLocator.Proofs.Catalog.Schema
import EvmLocator.Proofs.Catalog.Validation
import EvmLocator.Proofs.Inquiry
import EvmLocator.Proofs.Instruction.Alignment
import EvmLocator.Proofs.Instruction.Disassembly
import EvmLocator.Proofs.Instruction.Sweep
import EvmLocator.Proofs.Json.WellFormed
import EvmLocator.Proofs.Outcome
import EvmLocator.Proofs.Report
import EvmLocator.Proofs.Session.Asking
import EvmLocator.Proofs.Session.Counting
import EvmLocator.Proofs.Session.Creation
import EvmLocator.Proofs.Session.Failure
import EvmLocator.Proofs.Session.Faithful
import EvmLocator.Proofs.Session.Gathering
import EvmLocator.Proofs.Session.Loading
import EvmLocator.Proofs.Session.Moves
import EvmLocator.Proofs.Session.Provenance
import EvmLocator.Proofs.Session.Representation
import EvmLocator.Proofs.Session.SideBySide
import EvmLocator.Proofs.Session.Spelling
import EvmLocator.Proofs.Session.Stages
import EvmLocator.Proofs.Session.StepLookup
import EvmLocator.Proofs.Session.Stranded
import EvmLocator.Proofs.Session.Transparency
import EvmLocator.Proofs.Session.Uncached
import EvmLocator.Proofs.Source.Position
import EvmLocator.Proofs.Source.Text
import EvmLocator.Proofs.SourceMap.Agreement
import EvmLocator.Proofs.SourceMap.Compression
import EvmLocator.Proofs.SourceMap.Settling
import EvmLocator.Proofs.Table
import EvmLocator.Proofs.Text.LowerCase
import EvmLocator.Proofs.Text.Numeral
import EvmLocator.Proofs.Utf8
import EvmLocator.Session.Operation
