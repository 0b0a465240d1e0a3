import FormatHost.Fault
/-!
# Call chains

The plugins that are active inside each other, outermost first. The chain has a limit; entering
beyond it is refused and changes nothing.
-/
namespace FormatHost

/-- The active plugins and how many there may be. -/
structure CallChain where
  limit : Nat
  active : List String
  deriving DecidableEq, Repr

namespace CallChain

/-- Nothing is active. A limit below one counts as one. -/
def empty (limit : Int) : CallChain := ⟨(max 1 limit).toNat, []⟩

/-- How many plugins are active. -/
def depth (c : CallChain) : Nat := c.active.length

/-- A plugin is active. -/
def contains (c : CallChain) (plugin : String) : Bool := c.active.contains plugin

/-- One more plugin becomes active. -/
def enter (c : CallChain) (plugin : String) : Except Fault CallChain :=
  if c.limit ≤ c.depth then .error (.depthExceeded c.limit (c.active ++ [plugin]))
  else .ok { c with active := c.active ++ [plugin] }

/-- The innermost plugin is done. -/
def exit (c : CallChain) : CallChain := { c with active := c.active.dropLast }

theorem exit_of_enter {c d : CallChain} {plugin : String} (h : c.enter plugin = .ok d) :
    d.exit = c := by
  unfold enter at h
  split at h
  · contradiction
  · cases h; simp [exit]

end CallChain

end FormatHost
