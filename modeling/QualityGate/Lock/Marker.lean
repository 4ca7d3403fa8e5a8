import QualityGate.Decoder
import QualityGate.Json.Printer

/-!
# Markers of the run lock

A marker says which process has held the lock since when.  It is kept in a file, where it is written
as JSON.
-/

namespace QualityGate
namespace Lock

/-- The mark of the process that holds the lock. -/
structure Marker where
  process : Nat
  since : Instant
deriving Repr, DecidableEq, Inhabited

namespace Marker

/-- The fields of a marker in a document. -/
def fields : List (Decoder.Field Marker) :=
  [ .required "pid" .natural32 fun value marker => { marker with process := value },
    .required "timestamp" .instant fun value marker => { marker with since := value } ]

/-- How a marker is found in a document. -/
def decoder : Decoder Marker :=
  Decoder.record "LockMarker" default fields

/-- Read a marker. -/
def parse (text : String) : Except Fault Marker :=
  decoder.parse text

/-- A marker as a document. -/
def toJson (marker : Marker) : Json :=
  .object [("pid", .natural marker.process), ("timestamp", .text marker.since.zuluText)]

/-- A marker in writing. -/
def render (marker : Marker) : String :=
  marker.toJson.compact

/-- The marker is older than a window of seconds. -/
def isStale (marker : Marker) (now : Instant) (window : Int) : Bool :=
  window * 1000000000 < now.nanosecondsSince marker.since

end Marker

/-- What the file of the marker says. -/
inductive Reading where
  | absent
  | corrupt (message : String)
  | marked (marker : Marker)
deriving Repr, DecidableEq

namespace Reading

/-- What a file with a text says. -/
def ofText (text : String) : Reading :=
  match Marker.parse text with
  | .ok marker => .marked marker
  | .error fault => .corrupt fault.message

/-- The marker, if there is one that can be read. -/
def marker? : Reading → Option Marker
  | .marked marker => some marker
  | _ => none

end Reading
end Lock
end QualityGate
