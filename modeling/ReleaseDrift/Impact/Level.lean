/-!
How much a change matters to the consumer.
-/

namespace ReleaseDrift

inductive Level where
  | critical
  | enumRemoved
  | warning
  | enumAdded
  | opportunity
  | safe
  | metadata
  | noise
  deriving Repr, DecidableEq

namespace Level

def all : List Level :=
  [critical, enumRemoved, warning, enumAdded, opportunity, safe, metadata, noise]

def name : Level → String
  | critical => "critical"
  | enumRemoved => "enum_removed"
  | warning => "warning"
  | enumAdded => "enum_added"
  | opportunity => "opportunity"
  | safe => "safe"
  | metadata => "metadata"
  | noise => "noise"

def ofName? (name : String) : Option Level := all.find? (·.name == name)

def rank : Level → Nat
  | critical => 0
  | enumRemoved => 1
  | warning => 2
  | enumAdded => 3
  | opportunity => 4
  | safe => 5
  | metadata => 6
  | noise => 7

/-- A removed enum value is as severe as any critical change. -/
def severity : Level → Nat
  | critical => 6
  | enumRemoved => 6
  | warning => 5
  | enumAdded => 4
  | opportunity => 3
  | safe => 2
  | metadata => 1
  | noise => 0

def reaches (level threshold : Level) : Bool := threshold.severity ≤ level.severity

def isBreaking (level : Level) : Bool := level.reaches critical

end Level

end ReleaseDrift
