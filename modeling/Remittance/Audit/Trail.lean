import Remittance.Audit.Event

/-!
# Audit trails

A trail keeps the latest events, oldest first, and never more than its capacity: a new event drives
out the oldest ones that there is no room for.
-/

namespace Remittance.Audit

/-- The events that are kept, oldest first. -/
structure Trail where
  capacity : Nat
  events : List Event
  /-- There are no more events than there is room for. -/
  bounded : events.length ≤ capacity

namespace Trail

/-- The capacity of a trail for which none is given. -/
def standardCapacity : Nat := 1000

/-- The trail without events. -/
def empty (capacity : Nat) : Trail :=
  ⟨capacity, [], Nat.zero_le capacity⟩

/-- The last `n` items of a list, or all of them if there are fewer. -/
def lastItems {α : Type} (n : Nat) (items : List α) : List α :=
  items.drop (items.length - n)

theorem length_lastItems_le {α : Type} (n : Nat) (items : List α) :
    (lastItems n items).length ≤ n := by
  rw [lastItems, List.length_drop]
  omega

/-- Keeps an event. -/
def append (t : Trail) (e : Event) : Trail :=
  ⟨t.capacity, lastItems t.capacity (t.events ++ [e]), length_lastItems_le _ _⟩

/-- Forgets all events. -/
def clear (t : Trail) : Trail :=
  empty t.capacity

/-- The number of events. -/
def size (t : Trail) : Nat :=
  t.events.length

/-- The latest events, oldest first: all of them without a limit or with the limit zero, the last
`n` for a limit `n`, and all but the first `n` for a limit `-n`. -/
def recent (t : Trail) : (limit : Option Int) → List Event
  | none => t.events
  | some limit =>
    if limit = 0 then t.events
    else if 0 < limit then lastItems limit.toNat t.events
    else t.events.drop (-limit).toNat

end Trail

end Remittance.Audit
