import ContestExchange.Text.Ascii
import ContestExchange.Text.Blank

/-!
# Callsigns

A callsign is compared and stored in its normal form, trimmed and in upper
case.  Normalizing twice is normalizing once.
-/

namespace ContestExchange.Callsign

open Text

/-- The normal form of a callsign. -/
def normalize (call : String) : String :=
  upper (trim call)

/-- Whether a token could be a callsign: at least three bytes, a letter, a digit,
and nothing but letters, digits and strokes. -/
def isPlausible (token : String) : Bool :=
  3 ≤ token.utf8ByteSize && token.toList.any Char.isAlpha && token.toList.any Char.isDigit &&
    token.toList.all fun c => c.isAlphanum || c == '/'

end ContestExchange.Callsign
