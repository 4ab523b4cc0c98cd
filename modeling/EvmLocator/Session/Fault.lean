import EvmLocator.Bytecode.Hex
import EvmLocator.Catalog.Reading
import EvmLocator.SourceMap.Entry
import EvmLocator.Unfit

/-!
# Why a lookup fails

A lookup passes through several stages, and each has its own causes of failure: the code of the
address cannot be had, no contract matches it, the trace does not lead to an instruction, the
source map or the catalog is malformed.  `Fault.message` is the one place where the causes become
text.

A fault names the numbers that its message shows by their texts.  A number that is too long to be
written has no text, and then that is the fault (`Fault.showing`).
-/

namespace EvmLocator

/-- Why a provider gives no code. -/
inductive Refusal where
  | unrecorded (address : String)
  | creationToken
  | other (text : String)
  deriving DecidableEq

/-- The refusal as a message shows it. -/
def Refusal.message : Refusal → String
  | unrecorded address => s!"no code recorded for {address}"
  | creationToken => "creation code is not stored on chain, register it on the code manager"
  | other text => text

/-- Why the code of an address cannot be had. -/
inductive FetchFault where
  | refused (r : Refusal)
  | noCode
  | malformed (e : Bytecode.HexError)
  deriving DecidableEq

/-- The reason as a message shows it. -/
def FetchFault.message : FetchFault → String
  | refused r => r.message
  | noCode => "no code at address"
  | malformed e => "malformed bytecode: " ++ e.message

/-- Why a trace does not lead to an instruction. -/
inductive TraceFault where
  | noSteps
  | outOfRange (step : String) (steps : Nat)
  | noCounter (step : String)
  | notLoaded (address : String)
  | notAnInstruction (pc step address : String)
  deriving DecidableEq

/-- The fault as a message shows it. -/
def TraceFault.message : TraceFault → String
  | noSteps => "trace object has no structLogs"
  | outOfRange step steps => s!"trace step {step} is out of range (trace has {steps} steps)"
  | noCounter step => s!"trace step {step} has no pc"
  | notLoaded address => s!"code at {address} has not been loaded"
  | notAnInstruction pc step address =>
    s!"pc {pc} at step {step} is not an instruction of the code at {address}"

/-- Why an operation of a session fails. -/
inductive Fault where
  | fetch (address : String) (reason : FetchFault)
  | noSourceMap (address : String)
  | sourceMap (e : SourceMap.Error)
  | catalog (e : SchemaError)
  | trace (e : TraceFault)
  | unfit (u : Unfit)
  deriving DecidableEq

/-- The fault as a message shows it.  A value that is unfit for its use has no message. -/
def Fault.message : Fault → String
  | fetch address reason =>
    let shown := reason.message
    s!"could not retrieve code at {address}: {shown}"
  | noSourceMap address => s!"no sourcemap associated with the code {address}"
  | sourceMap e => e.message
  | catalog e => e.message
  | trace e => e.message
  | unfit _ => ""

namespace Fault

/-- The fault that shows a text, if there is such a text. -/
def showing (text : Except Unfit String) (fault : String → Fault) : Fault :=
  match text with
  | .ok shown => fault shown
  | .error u => unfit u

/-- What holds of a fault whatever it shows, and of values that are unfit, holds of the fault that
shows a text. -/
theorem showing_of_forall {P : Fault → Prop} {text : Except Unfit String} {fault : String → Fault}
    (hunfit : ∀ u, P (unfit u)) (h : ∀ shown, P (fault shown)) : P (showing text fault) := by
  cases text with
  | ok shown => exact h shown
  | error u => exact hunfit u

/-- The fault of an error of a source map. -/
def ofMap : SourceMap.Error → Fault
  | .unfit u => unfit u
  | e => sourceMap e

/-- The fault of a step that a trace does not have. -/
def stepOutOfRange (step : Integer) (steps : Nat) : Fault :=
  showing step.text fun shown => trace (.outOfRange shown steps)

/-- The fault of a step that has no program counter. -/
def stepWithoutCounter (step : Integer) : Fault :=
  showing step.text fun shown => trace (.noCounter shown)

/-- The fault of a step whose program counter is at no instruction of the code at an address. -/
def stepAtNoInstruction (pc : Scalar) (step : Integer) (address : String) : Fault :=
  showing pc.text fun counter => showing step.text fun shown =>
    trace (.notAnInstruction counter shown address)

end Fault

end EvmLocator
