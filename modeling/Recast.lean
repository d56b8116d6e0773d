import Recast.Command.Run
import Recast.Generate
import Recast.Json.Pointer
import Recast.Json.Printer
import Recast.Listing
import Recast.Main
import Recast.Proofs.Command.Batch
import Recast.Proofs.Command.Cleared
import Recast.Proofs.Command.Exclusive
import Recast.Proofs.Conversion.Loops
import Recast.Proofs.Generation.Accessors
import Recast.Proofs.Generation.Dependence
import Recast.Proofs.Generation.Distinct
import Recast.Proofs.Generation.Files
import Recast.Proofs.Generation.Headers
import Recast.Proofs.Generation.Identifiers
import Recast.Proofs.Generation.Imports
import Recast.Proofs.Generation.Trace
import Recast.Proofs.Generation.TypeNames
import Recast.Proofs.Inference.Arena
import Recast.Proofs.Inference.Defects
import Recast.Proofs.Inference.Paths
import Recast.Proofs.Json.Listing
import Recast.Proofs.Json.Numerals
import Recast.Proofs.Lexical.Closed
import Recast.Proofs.NameTable.Modes
import Recast.Proofs.NameTable.Modules
import Recast.Proofs.NameTable.Settled
import Recast.Proofs.NameTable.Stems
import Recast.Proofs.Names.Boundaries
import Recast.Proofs.Names.Roles
import Recast.Proofs.Python.RoundTrip
import Recast.Proofs.Text.Literal
import Recast.Proofs.Wire.Keys
import Recast.Proofs.Wire.SingleQuoted
