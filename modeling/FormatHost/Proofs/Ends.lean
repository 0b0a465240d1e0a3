import FormatHost.Fault
/-!
# How computations end

A computation that may fail and changes a state is described by what holds before it and what holds of
its result and the state that it leaves. The rules follow the computation from step to step. Two
computations that take the same steps are described by what their states have in common.
-/
namespace FormatHost

variable {S α β : Type}

/-- The result of a computation, and the state that it leaves. -/
def ending (c : ExceptT Fault (StateM S) α) (s : S) : Except Fault α × S := c.run.run s

/-- Wherever `before` holds, the computation ends so that `after` holds. -/
def Ends (before : S → Prop) (c : ExceptT Fault (StateM S) α)
    (after : Except Fault α → S → Prop) : Prop :=
  ∀ s, before s → after (ending c s).1 (ending c s).2

@[simp] theorem ending_pure (a : α) (s : S) :
    ending (pure a : ExceptT Fault (StateM S) α) s = (.ok a, s) := rfl

@[simp] theorem ending_throw (f : Fault) (s : S) :
    ending (throw f : ExceptT Fault (StateM S) α) s = (.error f, s) := rfl

@[simp] theorem ending_get (s : S) :
    ending (get : ExceptT Fault (StateM S) S) s = (.ok s, s) := rfl

@[simp] theorem ending_set (t s : S) :
    ending (set t : ExceptT Fault (StateM S) PUnit) s = (.ok ⟨⟩, t) := rfl

@[simp] theorem ending_modify (f : S → S) (s : S) :
    ending (modify f : ExceptT Fault (StateM S) PUnit) s = (.ok ⟨⟩, f s) := rfl

@[simp] theorem ending_ofExcept (r : Except Fault α) (s : S) :
    ending (ofExcept r : ExceptT Fault (StateM S) α) s = (r, s) := by
  cases r <;> rfl

theorem ending_bind (c : ExceptT Fault (StateM S) α) (k : α → ExceptT Fault (StateM S) β) (s : S) :
    ending (c >>= k) s =
      match ending c s with
      | (.ok a, t) => ending (k a) t
      | (.error f, t) => (.error f, t) := by
  change ((ExceptT.bindCont k) (ending c s).1).run (ending c s).2 = _
  rcases ending c s with ⟨f | a, t⟩ <;> rfl

theorem ending_bind_of_ok {c : ExceptT Fault (StateM S) α} {k : α → ExceptT Fault (StateM S) β}
    {s t : S} {a : α} (ok : ending c s = (.ok a, t)) : ending (c >>= k) s = ending (k a) t := by
  rw [ending_bind, ok]

theorem ending_bind_of_error {c : ExceptT Fault (StateM S) α}
    {k : α → ExceptT Fault (StateM S) β} {s t : S} {f : Fault}
    (failed : ending c s = (.error f, t)) : ending (c >>= k) s = (.error f, t) := by
  rw [ending_bind, failed]

/-- A sequence succeeds only if both parts do. -/
theorem exists_of_ending_bind {c : ExceptT Fault (StateM S) α} {k : α → ExceptT Fault (StateM S) β}
    {s : S} {b : β} (ok : (ending (c >>= k) s).1 = .ok b) :
    ∃ a t, ending c s = (.ok a, t) ∧ (ending (k a) t).1 = .ok b := by
  rw [ending_bind] at ok
  rcases ran : ending c s with ⟨f | a, t⟩
  · simp [ran] at ok
  · exact ⟨a, t, rfl, by simpa [ran] using ok⟩

/-- It ends where the second part ends. -/
theorem exists_of_ending_bind_eq {c : ExceptT Fault (StateM S) α}
    {k : α → ExceptT Fault (StateM S) β} {s u : S} {b : β} (ok : ending (c >>= k) s = (.ok b, u)) :
    ∃ a t, ending c s = (.ok a, t) ∧ ending (k a) t = (.ok b, u) := by
  rw [ending_bind] at ok
  rcases ran : ending c s with ⟨f | a, t⟩
  · simp [ran] at ok
  · exact ⟨a, t, rfl, by simpa [ran] using ok⟩

namespace Ends

variable {before before' : S → Prop} {c : ExceptT Fault (StateM S) α}
  {k : α → ExceptT Fault (StateM S) β} {after after' : Except Fault α → S → Prop}
  {last : Except Fault β → S → Prop}

theorem pure {a : α} (holds : ∀ s, before s → after (.ok a) s) :
    Ends before (Pure.pure a : ExceptT Fault (StateM S) α) after := holds

theorem throw {f : Fault} (holds : ∀ s, before s → after (.error f) s) :
    Ends before (MonadExcept.throw f : ExceptT Fault (StateM S) α) after := holds

theorem bind (first : Ends before c after) (next : ∀ a, Ends (after (.ok a)) (k a) last)
    (fails : ∀ f s, after (.error f) s → last (.error f) s) : Ends before (c >>= k) last := by
  intro s holds
  have middle := first s holds
  rw [ending_bind]
  rcases ran : ending c s with ⟨f | a, t⟩
  · rw [ran] at middle
    exact fails f t middle
  · rw [ran] at middle
    exact next a t middle

theorem weaken (ends : Ends before c after) (stronger : ∀ s, before' s → before s)
    (weaker : ∀ r s, after r s → after' r s) : Ends before' c after' :=
  fun s holds => weaker _ _ (ends s (stronger s holds))

/-- Two descriptions together. -/
theorem and {also : S → Prop} {then' : Except Fault α → S → Prop} (ends : Ends before c after)
    (other : Ends also c then') :
    Ends (fun s => before s ∧ also s) c fun r s => after r s ∧ then' r s :=
  fun s holds => ⟨ends s holds.1, other s holds.2⟩

theorem ite {p : Prop} [Decidable p] {d : ExceptT Fault (StateM S) α}
    (yes : p → Ends before c after) (no : ¬p → Ends before d after) :
    Ends before (if p then c else d) after := by
  split
  next holds => exact yes holds
  next fails => exact no fails

end Ends

/-- Two computations have the same result, and their states stay in a relation. -/
def Level (R : S → S → Prop) (c c' : ExceptT Fault (StateM S) α) : Prop :=
  ∀ s s', R s s' → (ending c' s').1 = (ending c s).1 ∧ R (ending c s).2 (ending c' s').2

namespace Level

variable {R : S → S → Prop} {c c' : ExceptT Fault (StateM S) α}
  {k k' : α → ExceptT Fault (StateM S) β}

theorem pure (a : α) : Level R (Pure.pure a) (Pure.pure a) := fun _ _ related => ⟨rfl, related⟩

theorem throw (f : Fault) :
    Level R (MonadExcept.throw f : ExceptT Fault (StateM S) α) (MonadExcept.throw f) :=
  fun _ _ related => ⟨rfl, related⟩

theorem bind (first : Level R c c') (next : ∀ a, Level R (k a) (k' a)) :
    Level R (c >>= k) (c' >>= k') := by
  intro s s' related
  obtain ⟨same, middle⟩ := first s s' related
  rw [ending_bind, ending_bind]
  revert same middle
  rcases ending c s with ⟨f | a, t⟩ <;> rcases ending c' s' with ⟨f' | a', t'⟩ <;> intro same middle
  · exact ⟨congrArg Except.error (Except.error.inj same), middle⟩
  · exact absurd same (by simp)
  · exact absurd same (by simp)
  · obtain rfl := Except.ok.inj same
    exact next a' t t' middle

theorem ite {p : Prop} [Decidable p] {d d' : ExceptT Fault (StateM S) α} (yes : p → Level R c c')
    (no : ¬p → Level R d d') : Level R (if p then c else d) (if p then c' else d') := by
  split
  next holds => exact yes holds
  next fails => exact no fails

end Level

end FormatHost
