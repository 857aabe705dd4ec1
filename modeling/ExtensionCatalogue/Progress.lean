import ExtensionCatalogue.Notice

/-!
# Progress of installs

`PercentTracker` turns counts of bytes into percentages and passes on only those that advance.
`ProgressLog` reports a percentage when it enters a new step of ten.
-/

namespace ExtensionCatalogue

/-- The largest count of a 64-bit word. -/
def largestCount : Nat := 0xFFFFFFFFFFFFFFFF

/-- The announced length, never zero, and the last percentage passed on. -/
structure PercentTracker where
  total : Option UInt64
  last : Option Nat
  deriving DecidableEq, Repr

namespace PercentTracker

/-- A tracker for an announced length. A length of zero says nothing. -/
def start (announced : Option UInt64) : PercentTracker :=
  ⟨announced.filter (· ≠ 0), none⟩

/-- Whether there can be percentages at all. -/
def isKnown (t : PercentTracker) : Bool := t.total.isSome

/-- The share of `total` in `received`. The product stops at the largest count. -/
def percent (total received : UInt64) : Nat :=
  min (min (received.toNat * 100) largestCount / total.toNat) 100

/-- The percentage for a number of bytes received in all, if it advances. -/
def advance (t : PercentTracker) (received : UInt64) : Option Nat × PercentTracker :=
  match t.total with
  | none => (none, t)
  | some total =>
    let p := percent total received
    if t.last.any (p ≤ ·) then (none, t) else (some p, { t with last := some p })

/-- The percentages passed on for a sequence of counts. -/
def reports (t : PercentTracker) : List UInt64 → List Nat
  | [] => []
  | r :: rs =>
    let (p?, t) := t.advance r
    p?.toList ++ reports t rs

theorem percent_le (total received : UInt64) : percent total received ≤ 100 :=
  Nat.min_le_right ..

end PercentTracker

/-- A log of an install and the last percentage in it. -/
structure ProgressLog where
  name : String
  last : Option Nat
  deriving DecidableEq, Repr

namespace ProgressLog

def start (name : String) : ProgressLog := ⟨name, none⟩

/-- The notice for a percentage that enters a new step of ten. -/
def report (l : ProgressLog) (percent : Nat) : Option Notice × ProgressLog :=
  if l.last.all (· / 10 < percent / 10) then
    (some (.progress l.name percent), { l with last := some percent })
  else (none, l)

end ProgressLog

end ExtensionCatalogue
