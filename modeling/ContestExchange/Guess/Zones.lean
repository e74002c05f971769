import ContestExchange.Dictionary
import ContestExchange.Text.Ascii
import ContestExchange.Text.Bytes
import ContestExchange.Text.Split

/-!
# Zones by callsign

The first characters of a callsign tell the country, and so the zones, of a
station.  A table lists such starts with their zones, and of the starts that a
callsign has the longest one counts.  It is looked for from the longest down, and the
table knows where to begin: no listed start has more bytes than `longest`
(`le_longest`).

A callsign with a stroke in it has two parts, of which the shorter tells where
the station is, as in `VE3/G4ABC` and `G4ABC/VE3`; a part behind the stroke that
holds no digit, as in `G4ABC/P`, tells nothing.
-/

namespace ContestExchange

open Text

/-- The two divisions of the world into zones. -/
inductive ZoneKind where
  | cq
  | itu
deriving DecidableEq, Repr

/-- The zones of a place. -/
structure Zones where
  cq : UInt32
  itu : UInt32
deriving DecidableEq

namespace Zones

def zone (z : Zones) : ZoneKind → UInt32
  | .cq => z.cq
  | .itu => z.itu

end Zones

namespace Callsign

/-- The part of a callsign that tells where the station is. -/
def locatedPart (call : String) : String :=
  match splitOnce '/' call with
  | none => call
  | some (left, right) =>
    if right.utf8ByteSize < left.utf8ByteSize && right.toList.any Char.isDigit then right else left

end Callsign

/-- Zones by the first characters of callsigns. -/
structure ZoneTable where
  starts : Dictionary String Zones
  /-- The number of bytes that the longest listed start has. -/
  longest : Nat
  le_longest : ∀ start z, starts.get? start = some z → start.utf8ByteSize ≤ longest

namespace ZoneTable

def empty : ZoneTable where
  starts := .empty
  longest := 0
  le_longest _ _ := nofun

/-- Lists a start, over an earlier mention of it. -/
def insert (t : ZoneTable) (start : String) (z : Zones) : ZoneTable where
  starts := t.starts.put (upper (trim start)) z
  longest := max t.longest (upper (trim start)).utf8ByteSize
  le_longest s w h := by
    rw [Dictionary.get?_put] at h
    split at h
    · rename_i hs
      rw [hs]
      exact Nat.le_max_right _ _
    · exact Nat.le_trans (t.le_longest s w h) (Nat.le_max_left _ _)

/-- The zones of the start that the first `n` bytes are. -/
def zonesAt? (t : ZoneTable) (cs : List Char) (n : Nat) : Option Zones :=
  (firstBytes? n cs).bind fun p => t.starts.get? (String.ofList p)

/-- The zones of the longest listed start that the text has; the empty start locates
nothing. -/
def zonesOf? (t : ZoneTable) (base : String) : Option Zones :=
  (List.range' 1 (min t.longest base.utf8ByteSize)).reverse.findSome? (t.zonesAt? base.toList)

def zones? (t : ZoneTable) (call : String) : Option Zones :=
  t.zonesOf? (Callsign.locatedPart call)

def zone? (t : ZoneTable) (k : ZoneKind) (call : String) : Option UInt32 :=
  (t.zones? call).map (·.zone k)

end ZoneTable

end ContestExchange
