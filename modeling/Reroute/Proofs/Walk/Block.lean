import Reroute.Walk.Env

/-!
# Blocks of events

Events that are well nested form a tree: single events, and beginnings with what stands in front of their ends.  The
events of such a tree are written as lines without any depth below zero, each indented by the number of blocks
around it (`EventBlock.placed_events`, `EventBlock.unclamped_events`).
-/

namespace Reroute

/-- A single event that opens and closes nothing, or all from a beginning to its end. -/
inductive EventBlock where
  | single (event : Event) (h : event.depthChange = 0)
  | nest (opening : Event) (inside : List EventBlock) (closing : Event) (hopen : opening.depthChange = 1)
      (hclose : closing.depthChange = -1)

namespace EventBlock

mutual

/-- The events of a block. -/
def events : EventBlock → List Event
  | single event _ => [event]
  | nest opening inside closing _ _ => opening :: (eventsOf inside ++ [closing])

/-- The events of blocks in a row. -/
def eventsOf : List EventBlock → List Event
  | [] => []
  | block :: blocks => block.events ++ eventsOf blocks

end

mutual

/-- The events of a block inside `depth` others, each with the number of blocks around it. -/
def levels (depth : Nat) : EventBlock → List (Nat × Event)
  | single event _ => [(depth, event)]
  | nest opening inside closing _ _ => (depth, opening) :: (levelsOf (depth + 1) inside ++ [(depth, closing)])

/-- The events of blocks in a row inside `depth` others, each with the number of blocks around it. -/
def levelsOf (depth : Nat) : List EventBlock → List (Nat × Event)
  | [] => []
  | block :: blocks => block.levels depth ++ levelsOf depth blocks

end

theorem eventsOf_append (front back : List EventBlock) :
    eventsOf (front ++ back) = eventsOf front ++ eventsOf back := by
  induction front with
  | nil => rfl
  | cons block blocks ih => simp [eventsOf, ih]

theorem eventsOf_singleton (block : EventBlock) : eventsOf [block] = block.events := by
  simp [eventsOf]

end EventBlock

/-! ### Depths -/

namespace Event

/-- Events with the depths at which they stand where a depth may go below zero. -/
def unclamped : Int → List Event → List (Int × Event)
  | _, [] => []
  | depth, event :: events =>
    let behind := depth + event.depthChange
    (min depth behind, event) :: unclamped behind events

/-- An event at a depth, as one at a depth that may go below zero. -/
def signed (level : Nat × Event) : Int × Event := (level.1, level.2)

private theorem signed_inj (a b : Nat × Event) (h : signed a = signed b) : a = b := by
  obtain ⟨hdepth, hevent⟩ := Prod.mk.inj h
  exact Prod.ext (Int.ofNat.inj hdepth) hevent

/-- An event that goes no deeper than zero stands where it would stand without that bound. -/
private theorem place_eq_min {depth : Nat} {event : Event} (h : 0 ≤ min (depth : Int) (depth + event.depthChange)) :
    ((place depth event).1 : Int) = min (depth : Int) (depth + event.depthChange) ∧
      ((place depth event).2 : Int) = depth + event.depthChange := by
  cases event <;> simp [place, depthChange] at h ⊢ <;> omega

/-- Where no depth goes below zero, none is held back there. -/
private theorem placed_eq_unclamped {depth : Nat} {events : List Event}
    (h : ∀ level ∈ unclamped depth events, 0 ≤ level.1) :
    (placed depth events).map signed = unclamped depth events := by
  induction events generalizing depth with
  | nil => rfl
  | cons event events ih =>
    obtain ⟨hfirst, hrest⟩ := List.forall_mem_cons.mp h
    obtain ⟨hhere, hbehind⟩ := place_eq_min hfirst
    rw [← hbehind] at hrest
    simp only [placed, unclamped, List.map_cons, ih hrest, hbehind]
    rw [← hhere]
    rfl

end Event

namespace EventBlock

open Event (placed unclamped signed)

mutual

private theorem unclamped_events_append (rest : List Event) : ∀ (block : EventBlock) (depth : Nat),
    unclamped depth (block.events ++ rest) = (block.levels depth).map signed ++ unclamped depth rest
  | single event h, depth => by simp [events, levels, unclamped, signed, h]
  | nest opening inside closing hopen hclose, depth => by
    have hinside := unclamped_eventsOf_append (closing :: rest) inside (depth + 1)
    have hopening : min (depth : Int) (depth + 1) = depth := by omega
    have hclosing : min ((depth : Int) + 1) depth = depth := by omega
    have hbehind : (depth : Int) + 1 + -1 = depth := by omega
    push_cast at hinside
    simp only [events, levels, List.cons_append, List.append_assoc, List.nil_append, unclamped, hopen, hinside, hclose,
      hbehind, hopening, hclosing, List.map_cons, List.map_append, List.map_nil, signed]

private theorem unclamped_eventsOf_append (rest : List Event) : ∀ (blocks : List EventBlock) (depth : Nat),
    unclamped depth (eventsOf blocks ++ rest) = (levelsOf depth blocks).map signed ++ unclamped depth rest
  | [], _ => rfl
  | block :: blocks, depth => by
    have hblock := unclamped_events_append (eventsOf blocks ++ rest) block depth
    simp only [eventsOf, levelsOf, List.append_assoc, List.map_append, hblock,
      unclamped_eventsOf_append rest blocks depth]

end

/-- No depth of a block's events goes below that of the block. -/
theorem unclamped_events (block : EventBlock) (depth : Nat) :
    unclamped depth block.events = (block.levels depth).map signed := by
  simpa [unclamped] using unclamped_events_append [] block depth

/-- The events of a block stand at the depths of the block. -/
theorem placed_events (block : EventBlock) (depth : Nat) : placed depth block.events = block.levels depth := by
  have hlevels : ∀ level ∈ unclamped depth block.events, 0 ≤ level.1 := by
    rw [unclamped_events]
    intro level hlevel
    obtain ⟨⟨here, event⟩, -, rfl⟩ := List.mem_map.mp hlevel
    exact Int.natCast_nonneg here
  refine (List.map_inj_right Event.signed_inj).mp ?_
  rw [Event.placed_eq_unclamped hlevels, unclamped_events]

end EventBlock

end Reroute
