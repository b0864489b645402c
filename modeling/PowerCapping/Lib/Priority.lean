import Mathlib.Order.Basic
import Mathlib.Logic.Relation
import Mathlib.Order.Lattice

/-!
# Two throttles with a priority order

A controller that throttles two groups of work, a low-priority one first and
a high-priority one only once the first is at its floor, keeps both throttles
in `[low, high]` and the second below `high` only while the first is at `low`.
Recovery runs the other way: the second group first, the first only once the
second is back at `high`.

This file states that invariant over any linear order, and the abstract
controller whose runs keep it: the four moves such a controller makes
(lowering the first group, lowering the second while the first is at its
floor, raising the second while the first is at its floor, and raising the
first while the second is at `high`), each staying within `[low, high]`.  A
concrete controller is shown to refine it by proving that each of its steps is
a sequence of these moves.
-/

namespace PowerCapping

namespace Priority

variable {α : Type*} [LinearOrder α] {low high first second : α}

/-- Both throttles within `[low, high]`; the second below `high` only while
the first is at `low`. -/
structure Invariant (low high first second : α) : Prop where
  low_first : low ≤ first
  first_high : first ≤ high
  low_second : low ≤ second
  second_high : second ≤ high
  floor : second < high → first = low

theorem Invariant.top (ordered : low ≤ high) : Invariant low high high high :=
  ⟨ordered, le_rfl, ordered, le_rfl, fun below => absurd below (lt_irrefl _)⟩

/-- While the second throttle is below `high`, the first is at `low`. -/
theorem Invariant.first_eq_low (invariant : Invariant low high first second)
    (below : second < high) : first = low :=
  invariant.floor below

/-- While the first throttle is above `low`, the second is at `high`. -/
theorem Invariant.second_eq_high (invariant : Invariant low high first second)
    (above : low < first) : second = high := by
  by_contra notHigh
  have atFloor := invariant.floor (lt_of_le_of_ne invariant.second_high notHigh)
  exact absurd atFloor (ne_of_gt above)

/-- Lowering the first throttle, not below `low`, keeps the invariant. -/
theorem Invariant.lower_first {lowered : α} (invariant : Invariant low high first second)
    (atLeast : low ≤ lowered) (atMost : lowered ≤ first) :
    Invariant low high lowered second := by
  refine ⟨atLeast, atMost.trans invariant.first_high, invariant.low_second,
    invariant.second_high, fun below => ?_⟩
  have atFloor := invariant.floor below
  exact le_antisymm (atFloor ▸ atMost) atLeast

/-- Lowering the second throttle, not below `low`, while the first is at its
floor keeps the invariant. -/
theorem Invariant.lower_second {lowered : α} (invariant : Invariant low high first second)
    (atFloor : first = low) (atLeast : low ≤ lowered) (atMost : lowered ≤ second) :
    Invariant low high first lowered :=
  ⟨invariant.low_first, invariant.first_high, atLeast,
    atMost.trans invariant.second_high, fun _ => atFloor⟩

/-- Raising the second throttle, not above `high`, while the first is at its
floor keeps the invariant. -/
theorem Invariant.raise_second {raised : α} (invariant : Invariant low high first second)
    (atFloor : first = low) (atLeast : second ≤ raised) (atMost : raised ≤ high) :
    Invariant low high first raised :=
  ⟨invariant.low_first, invariant.first_high, invariant.low_second.trans atLeast, atMost,
    fun _ => atFloor⟩

/-- Raising the first throttle, not above `high`, while the second is at
`high` keeps the invariant. -/
theorem Invariant.raise_first {raised : α} (invariant : Invariant low high first second)
    (full : second = high) (atLeast : first ≤ raised) (atMost : raised ≤ high) :
    Invariant low high raised second :=
  ⟨invariant.low_first.trans atLeast, atMost, invariant.low_second, invariant.second_high,
    fun below => absurd (full ▸ below) (lt_irrefl _)⟩

/-- One move of the abstract controller on the pair of throttles. -/
inductive Move (low high : α) : α × α → α × α → Prop
  | lowerFirst {first second lowered : α} (atLeast : low ≤ lowered)
      (atMost : lowered ≤ first) : Move low high (first, second) (lowered, second)
  | lowerSecond {first second lowered : α} (atFloor : first = low) (atLeast : low ≤ lowered)
      (atMost : lowered ≤ second) : Move low high (first, second) (first, lowered)
  | raiseSecond {first second raised : α} (atFloor : first = low) (atLeast : second ≤ raised)
      (atMost : raised ≤ high) : Move low high (first, second) (first, raised)
  | raiseFirst {first second raised : α} (full : second = high) (atLeast : first ≤ raised)
      (atMost : raised ≤ high) : Move low high (first, second) (raised, second)

/-- The runs of the abstract controller: any number of moves. -/
abbrev Moves (low high : α) : α × α → α × α → Prop :=
  Relation.ReflTransGen (Move low high)

theorem Invariant.move {pair next : α × α} (invariant : Invariant low high pair.1 pair.2)
    (move : Move low high pair next) : Invariant low high next.1 next.2 := by
  cases move with
  | lowerFirst atLeast atMost => exact invariant.lower_first atLeast atMost
  | lowerSecond atFloor atLeast atMost => exact invariant.lower_second atFloor atLeast atMost
  | raiseSecond atFloor atLeast atMost => exact invariant.raise_second atFloor atLeast atMost
  | raiseFirst full atLeast atMost => exact invariant.raise_first full atLeast atMost

/-- Every run of the abstract controller keeps the invariant. -/
theorem Invariant.moves {pair next : α × α} (invariant : Invariant low high pair.1 pair.2)
    (moves : Moves low high pair next) : Invariant low high next.1 next.2 := by
  induction moves with
  | refl => exact invariant
  | tail _ move kept => exact kept.move move

/-- A move that lowers a throttle. -/
def Lowering (low high : α) (pair next : α × α) : Prop :=
  Move low high pair next ∧ next ≤ pair

/-- The runs of the controller while it throttles: lowering moves only. -/
abbrev Lowerings (low high : α) : α × α → α × α → Prop :=
  Relation.ReflTransGen (Lowering low high)

theorem Lowerings.moves {pair next : α × α} (lowerings : Lowerings low high pair next) :
    Moves low high pair next := by
  refine Relation.ReflTransGen.mono ?_ _ _ lowerings
  intro _ _ lowering
  exact lowering.1

/-- Throttling raises neither throttle. -/
theorem Lowerings.le {pair next : α × α} (lowerings : Lowerings low high pair next) :
    next ≤ pair := by
  induction lowerings with
  | refl => exact le_rfl
  | tail _ lowering below => exact lowering.2.trans below

theorem Lowering.lower_first {first second lowered : α} (atLeast : low ≤ lowered)
    (atMost : lowered ≤ first) : Lowering low high (first, second) (lowered, second) :=
  ⟨.lowerFirst atLeast atMost, Prod.mk_le_mk.mpr ⟨atMost, le_rfl⟩⟩

theorem Lowering.lower_second {first second lowered : α} (atFloor : first = low)
    (atLeast : low ≤ lowered) (atMost : lowered ≤ second) :
    Lowering low high (first, second) (first, lowered) :=
  ⟨.lowerSecond atFloor atLeast atMost, Prod.mk_le_mk.mpr ⟨le_rfl, atMost⟩⟩

/-- One step of the controller while it recovers: a move that raises a
throttle, or nothing once both throttles are at `high`. -/
inductive Recovery (low high : α) : α × α → α × α → Prop
  | raise {pair next : α × α} (move : Move low high pair next) (raised : pair < next) :
      Recovery low high pair next
  | full : Recovery low high (high, high) (high, high)

/-- Raising the second throttle while the first is at its floor. -/
theorem Recovery.raise_second {first second raised : α} (atFloor : first = low)
    (above : second < raised) (atMost : raised ≤ high) :
    Recovery low high (first, second) (first, raised) :=
  .raise (.raiseSecond atFloor above.le atMost) (Prod.mk_lt_mk.mpr (.inr ⟨le_rfl, above⟩))

/-- Raising the first throttle while the second is at `high`. -/
theorem Recovery.raise_first {first second raised : α} (full : second = high)
    (above : first < raised) (atMost : raised ≤ high) :
    Recovery low high (first, second) (raised, second) :=
  .raise (.raiseFirst full above.le atMost) (Prod.mk_lt_mk.mpr (.inl ⟨above, le_rfl⟩))

theorem Recovery.moves {pair next : α × α} (recovery : Recovery low high pair next) :
    Moves low high pair next := by
  cases recovery with
  | raise move _ => exact .single move
  | full => exact .refl

/-- Recovery lowers neither throttle. -/
theorem Recovery.le {pair next : α × α} (recovery : Recovery low high pair next) :
    pair ≤ next := by
  cases recovery with
  | raise _ raised => exact raised.le
  | full => exact le_rfl

/-- Recovery raises a throttle unless both are at `high`. -/
theorem Recovery.lt_or_full {pair next : α × α} (recovery : Recovery low high pair next) :
    pair < next ∨ pair = (high, high) := by
  cases recovery with
  | raise _ raised => exact .inl raised
  | full => exact .inr rfl

/-- Where a measurement puts a control step: throttle, hold or recover. -/
inductive Band
  | throttle
  | hold
  | recover
  deriving DecidableEq, Repr

/-- What a control step may do in each band. -/
def Step (low high : α) : Band → α × α → α × α → Prop
  | .throttle => Lowerings low high
  | .hold => Eq
  | .recover => Recovery low high

theorem Step.moves {band : Band} {pair next : α × α} (step : Step low high band pair next) :
    Moves low high pair next := by
  cases band with
  | throttle => exact Lowerings.moves step
  | hold => exact (show pair = next from step) ▸ .refl
  | recover => exact Recovery.moves step

end Priority

end PowerCapping
