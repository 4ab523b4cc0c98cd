/-!
# Values that are unfit for their use

A document may hold a value of the wrong kind where nothing checks its kind before it is used.
Two uses fail differently: asking a value for an operation that only another kind has (the lower
case of a number, a member of a list), and treating a value as a sequence or a key when it is
neither.  An integer may be unfit as well, for being written, when it has too many digits.
-/

namespace EvmLocator

/-- How a value is unfit for the use made of it. -/
inductive Unfit where
  | lacksOperation
  | wrongKind
  | numeralTooLong
  deriving DecidableEq

end EvmLocator
