import KeptRegions.Marker.Patterns

namespace KeptRegions

/-!
# Ready-made markers

Three pairs of marker patterns have names:

* `default`: `PROTECTED REGION ID(name) ENABLED START` to `PROTECTED REGION END`, where `ENABLED` is
  optional and enables the region;
* `nested-id`: the same with the id written as a comment within the comment, which the end marker
  may repeat;
* `generated`: `GENERATED ID(name) DISABLED START` to `GENERATED END`, where `DISABLED` is optional
  and disables the region.
-/

/-- The marker patterns of two bodies that are known to write patterns. -/
def MarkerPatterns.ofBodies (start stop keyword : String) (enabledWhenPresent : Bool)
    (hstart : (Pattern.read (amidDelimiters start.toList)).isOk = true)
    (hstop : (Pattern.read (amidDelimiters stop.toList)).isOk = true)
    (hid : idGroup ∈ (Pattern.ofText _ hstart).names) : MarkerPatterns where
  startText := amidDelimiters start.toList
  endText := amidDelimiters stop.toList
  keyword := keyword.toList
  enabledWhenPresent := enabledWhenPresent
  start := Pattern.ofText _ hstart
  stop := Pattern.ofText _ hstop
  read_start := Pattern.read_ofText _ hstart
  read_stop := Pattern.read_ofText _ hstop
  has_id := hid

namespace MarkerPatterns

/-- Regions that are protected if the marker says so. -/
def protectedRegion : MarkerPatterns :=
  ofBodies "PROTECTED\\s+REGION\\s+ID\\s*\\((?P<id>[^)]*)\\)\\s+(?:ENABLED\\s+)?START"
    "PROTECTED\\s+REGION\\s+END" "ENABLED" true (by decide +kernel) (by decide +kernel) (by decide +kernel)

/-- Protected regions whose id is a comment of its own. -/
def nestedId : MarkerPatterns :=
  ofBodies "PROTECTED\\s+REGION\\s+/\\*(?P<id>.*?)\\*/\\s+(?:ENABLED\\s+)?START"
    "PROTECTED\\s+REGION\\s+(?:/\\*.*?\\*/\\s+)?END" "ENABLED" true (by decide +kernel) (by decide +kernel)
    (by decide +kernel)

/-- Regions that are generated unless the marker says otherwise. -/
def generated : MarkerPatterns :=
  ofBodies "GENERATED\\s+ID\\s*\\((?P<id>[^)]*)\\)\\s+(?:DISABLED\\s+)?START"
    "GENERATED\\s+END" "DISABLED" false (by decide +kernel) (by decide +kernel) (by decide +kernel)

end MarkerPatterns

/-- A ready-made pair of marker patterns. Patterns that are merely written like it are not it. -/
inductive ReadyMarkers where
  | protectedRegion
  | generated
  | nestedId
deriving DecidableEq

namespace ReadyMarkers

/-- The name of ready-made markers. -/
def name : ReadyMarkers → String
  | protectedRegion => "default"
  | generated => "generated"
  | nestedId => "nested-id"

/-- The patterns of ready-made markers. -/
def patterns : ReadyMarkers → MarkerPatterns
  | protectedRegion => .protectedRegion
  | generated => .generated
  | nestedId => .nestedId

/-- All ready-made markers in the order of their names. -/
def all : List ReadyMarkers :=
  [protectedRegion, generated, nestedId]

/-- The ready-made markers of a name. -/
def ofName? (s : String) : Option ReadyMarkers :=
  all.find? fun m => m.name == s

end ReadyMarkers

end KeptRegions
