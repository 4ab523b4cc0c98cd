import EvmLocator.Json.Basic
import EvmLocator.Text.LowerCase
import EvmLocator.Text.Split

/-!
# Addresses and creation tokens

Code runs at an address, or while a contract is being created, when it has no address yet.  A
creation is named by a token that carries a marker no address has.  Addresses are compared without
regard to case; a token is compared as it is.

A token shows the step of the creation, so there is none for a step that cannot be written.
-/

namespace EvmLocator.Address

/-- The marker of a creation token. -/
def creationMarker : String := "(Contract Creation - Step"

/-- The token of the creation at a step. -/
def creationToken (step : Json) : Except Unfit String := do
  let shown ← step.text
  pure (creationMarker ++ " " ++ shown ++ ")")

/-- Whether an address is a creation token. -/
def isCreation (address : String) : Bool :=
  Text.occurs creationMarker.toList address.toList

/-- The form in which addresses are compared. -/
def key (address : String) : String :=
  if isCreation address then address else Text.lowerString address

theorem key_of_isCreation {address : String} (h : isCreation address = true) :
    key address = address := by
  simp [key, h]

end EvmLocator.Address
