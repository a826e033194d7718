import EmailStudio.Number.Decimal

/-!
# Identifiers

Designs and images are named by identifiers in the form of a UUID of version 4. They are given out
in order, so that an identifier is never given out twice.
-/

namespace EmailStudio

/-- The identifier of a number. -/
def identifier (n : Nat) : String :=
  "00000000-0000-4000-8000-" ++ padZeros 12 (toString n)

end EmailStudio
