import WasmSandbox.Boundary.Record
import WasmSandbox.Bytes.Paged
import WasmSandbox.Environment
import WasmSandbox.Context.Value
import WasmSandbox.Wasm.Numeric
import WasmSandbox.Wasm.Operation
import WasmSandbox.Wasm.Activation
import WasmSandbox.Wasm.Instantiation
import WasmSandbox.Script.Session
import WasmSandbox.Proofs.Context.Soundness
import WasmSandbox.Proofs.Context.Growth
import WasmSandbox.Proofs.Context.Steps
import WasmSandbox.Proofs.Context.Lives
import WasmSandbox.Proofs.Context.Identity
import WasmSandbox.Proofs.Context.TypedBoundary
import WasmSandbox.Proofs.Context.Progress
import WasmSandbox.Proofs.Context.Depth
import WasmSandbox.Proofs.Context.Crossing
import WasmSandbox.Proofs.Context.Twins
import WasmSandbox.Proofs.Context.Reexport
import WasmSandbox.Proofs.Context.Unwinding
import WasmSandbox.Proofs.Context.Stack
import WasmSandbox.Proofs.Context.Nesting
import WasmSandbox.Proofs.Context.InstanceTable
import WasmSandbox.Proofs.World.Foreign
import WasmSandbox.Proofs.Context.Records
import WasmSandbox.Proofs.Boundary.JsonForm
import WasmSandbox.Proofs.Environment.Cache
import WasmSandbox.Proofs.Environment.Retention
import WasmSandbox.Proofs.Context.MemoryLimit
import WasmSandbox.Proofs.Context.InstanceBudget
import WasmSandbox.Proofs.Context.ExportTypes
import WasmSandbox.Proofs.Environment.Validity
import WasmSandbox.Proofs.Context.Fuel
import WasmSandbox.Proofs.Context.Issuance
import WasmSandbox.Proofs.Boundary.FirstFailure
import WasmSandbox.Proofs.Context.CallChecks
import WasmSandbox.Proofs.Context.ResultContract
import WasmSandbox.Proofs.Context.ImportWalk
import WasmSandbox.Proofs.Context.LinkChecks
import WasmSandbox.Proofs.Context.ExportLookup
import WasmSandbox.Proofs.Context.MemoryCreation
import WasmSandbox.Proofs.Linker.Definitions
import WasmSandbox.Proofs.Linker.Registration
import WasmSandbox.Proofs.Context.HostEntries
import WasmSandbox.Proofs.Linker.FunctionDefinitions
import WasmSandbox.Proofs.Context.Panics
import WasmSandbox.Proofs.Context.Marshalling
import WasmSandbox.Proofs.Context.ExportStability
import WasmSandbox.Proofs.Context.ExportCache
import WasmSandbox.Proofs.Boundary.Faults
import WasmSandbox.Proofs.Failure.Causes
import WasmSandbox.Proofs.Linker.History
import WasmSandbox.Proofs.Linker.Resolution
import WasmSandbox.Proofs.Linker.Comparisons
import WasmSandbox.Proofs.Engine.Reading
import WasmSandbox.Proofs.Boundary.Exposure
import WasmSandbox.Proofs.Environment.Extraction
import WasmSandbox.Proofs.Boundary.Acceptance
import WasmSandbox.Proofs.Bytes.Access
import WasmSandbox.Proofs.Bytes.Words
import WasmSandbox.Proofs.Context.MemoryAccess
import WasmSandbox.Proofs.Engine.GlobalTypes
import WasmSandbox.Proofs.Engine.MutableGlobals
import WasmSandbox.Proofs.Context.GlobalWrites
import WasmSandbox.Proofs.Context.GuestCode
import WasmSandbox.Proofs.Context.GlobalHandles
import WasmSandbox.Proofs.Context.GlobalAccess
