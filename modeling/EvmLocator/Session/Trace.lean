import EvmLocator.Session.Fault

/-!
# Traces

A trace is the list of steps that a transaction went through.  A document gives it bare, or as the
member `structLogs` of an object; a text stands for the list of its characters and an object for
the list of its names, neither of which can hold a program counter.

A step that is an object says at which program counter it stands.
-/

namespace EvmLocator.Trace

/-- The items of a value that can be gone through. -/
def itemsOf : Json → Except Unfit (List Json)
  | .arr items => .ok items
  | .str s => .ok (s.toList.map fun c => .str (String.ofList [c]))
  | .obj members => .ok (members.map fun entry => .str entry.1)
  | _ => .error .wrongKind

/-- The value that holds the steps of a trace. -/
def body : Json → Except Fault Json
  | .obj members => match Table.get? "structLogs" members with
    | some steps => .ok steps
    | none => .error (.trace .noSteps)
  | v => .ok v

/-- The steps of a trace. -/
def stepsOf (trace : Json) : Except Fault (List Json) := do
  let steps ← body trace
  match itemsOf steps with
  | .ok items => .ok items
  | .error u => .error (.unfit u)

/-- The program counter of a step. -/
def counterAt (steps : List Json) (step : Integer) : Except Fault Json :=
  if step.value < 0 then .error (.stepOutOfRange step steps.length)
  else match steps[step.value.toNat]? with
    | none => .error (.stepOutOfRange step steps.length)
    | some (.obj members) => match Table.get? "pc" members with
      | none => .error (.stepWithoutCounter step)
      | some .null => .error (.stepWithoutCounter step)
      | some pc => .ok pc
    | some _ => .error (.unfit .lacksOperation)

end EvmLocator.Trace
