/-!
# Cut numbers

In Morse a zero is often sent as `T`, a nine as `N` and a one as `A`.  A token
is the cut form of a number when it holds nothing but digits and these three
letters, and at least one of the letters; `TEN` is not.
-/

namespace ContestExchange.CutNumber

/-- The digit that a letter stands for in a cut number. -/
def digit? : Char → Option Char
  | 'T' => some '0'
  | 'N' => some '9'
  | 'A' => some '1'
  | _ => none

def restore (c : Char) : Char :=
  (digit? c).getD c

def isCut (token : String) : Bool :=
  token.toList.any (fun c => (digit? c).isSome) &&
    token.toList.all fun c => c.isDigit || (digit? c).isSome

/-- The number in digits, if the token is a cut number. -/
def digits? (token : String) : Option String :=
  if isCut token then some (String.ofList (token.toList.map restore)) else none

/-- The fields that are numbers in every contest. -/
def numericFields : List String :=
  ["SERNO", "CQZONE", "ITUZONE", "AGE", "CHECK", "FOC", "10MNUM", "ZONE"]

end ContestExchange.CutNumber
