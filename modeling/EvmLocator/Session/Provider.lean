import EvmLocator.Address
import EvmLocator.Session.Fault

/-!
# Providers of code

A session asks a provider for the code of an address.  A recorded provider answers from a table of
codes, in which addresses are compared in lower case.  A node answers from the chain, where the
code of a creation is not stored, so it refuses creation tokens; how it reaches the chain is left
to the function it is given.
-/

namespace EvmLocator

/-- Where codes come from. -/
inductive Provider where
  | recorded (codes : Table String Json)
  | node (ask : String → Except Refusal Json)

namespace Provider

/-- The recorded provider of the members of an object: of two addresses that differ in case only,
the later one counts. -/
def ofMembers (members : List (String × Json)) : Provider :=
  recorded (Table.ofEntries (members.map fun entry => (Text.lowerString entry.1, entry.2)))

/-- The recorded provider of a document. -/
def ofJson : Json → Except Unfit Provider
  | .obj members => .ok (ofMembers members)
  | _ => .error .lacksOperation

/-- Records the code of an address. -/
def record (address : String) (code : Json) : Provider → Provider
  | recorded codes => recorded (codes.put (Text.lowerString address) code)
  | node ask => node ask

/-- Asks for the code of an address. -/
def fetch (p : Provider) (address : String) : Except Refusal Json :=
  match p with
  | recorded codes => match codes.get? (Text.lowerString address) with
    | some code => .ok code
    | none => .error (.unrecorded address)
  | node ask => if Address.isCreation address then .error .creationToken else ask address

end Provider

end EvmLocator
