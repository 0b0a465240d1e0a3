import FormatHost.Proofs.Pool.Calls
/-!
# What lasts in a pool

Most of what a pool does is notes, changes of records that keep their origins, and work on instances. A
property that outlasts these outlasts everything that is done with the records concerned, however it ends.
What is asked for inside a format call is a format call again, one plugin deeper.
-/
namespace FormatHost

variable {σ ε α : Type}

/-- The name and the module bytes of a plugin. -/
def PluginRecord.origin (r : PluginRecord) : String × Bytes := (r.name, r.moduleBytes)

/-- Who gets a place of a record changes the idle instances and the places in use. -/
theorem PluginRecord.exists_of_lease {limit : Nat} {r r' : PluginRecord}
    (lease : r.lease limit = .reserved r' ∨ ∃ n, r.lease limit = .popped n r') :
    ∃ idle, r' = { r with idle, inUse := r.inUse + 1 } := by
  rcases lease with reserved | ⟨n, popped⟩
  · exact ⟨r.idle, (PluginRecord.lease_eq_reserved_iff.1 reserved).2.2.2⟩
  · obtain ⟨-, rest, -, changed⟩ := PluginRecord.lease_eq_popped_iff.1 popped
    exact ⟨rest, changed⟩

/-- A property of the pool that notes are no matter to, nor changes of the records concerned that keep
their origins, and that work on instances leaves true. -/
structure Lasting (engine : Engine σ ε) (out : Outside ε (Pool σ ε)) (concerned : RecordId → Prop)
    (I : Pool σ ε → Prop) : Prop where
  notes : ∀ {p q : Pool σ ε}, I p → Ledger.SameAccounts p q → I q
  updateRecord : ∀ {p : Pool σ ε} {id : RecordId} {f : PluginRecord → PluginRecord}, I p → concerned id →
    (∀ r, p.records[id]? = some r → (f r).origin = r.origin) → I (p.updateRecord id f)
  loaded : ∀ id : RecordId, Preserves I (PoolM.loadInstance engine out id)
  called : ∀ {β : Type} {call : GuestM σ ε (Pool σ ε) β} (n : InstanceId), Service out call →
    Preserves I (PoolM.withInstance n call)

namespace Lasting

variable {engine : Engine σ ε} {out : Outside ε (Pool σ ε)} {concerned : RecordId → Prop}
  {I : Pool σ ε → Prop} {id : RecordId}

theorem preserves_note (lasting : Lasting engine out concerned I) (r : LogRecord) :
    Preserves I (PoolM.note r : PoolM σ ε Unit) :=
  .update fun _ holds => lasting.notes holds ⟨rfl, rfl, rfl, rfl⟩

theorem preserves_mark (lasting : Lasting engine out concerned I) (event : PoolEvent) :
    Preserves I (PoolM.mark event : PoolM σ ε Unit) :=
  .update fun _ holds => lasting.notes holds ⟨rfl, rfl, rfl, rfl⟩

theorem preserves_updateRecord (lasting : Lasting engine out concerned I) (concerns : concerned id)
    {f : PluginRecord → PluginRecord} (keeps : ∀ r, (f r).origin = r.origin) :
    Preserves I (PoolM.updateRecord id f : PoolM σ ε Unit) :=
  .update fun _ holds => lasting.updateRecord holds concerns fun r _ => keeps r

/-! ### Making instances -/

theorem preserves_createInstance (lasting : Lasting engine out concerned I) (concerns : concerned id) :
    Preserves I (PoolM.createInstance engine out id) := by
  refine (lasting.loaded id).bind fun n => (lasting.called n .schema).bind fun _ => ?_
  exact .bind (lasting.preserves_updateRecord concerns fun _ => rfl) fun _ => .pure n

theorem preserves_configure (lasting : Lasting engine out concerned I) (n : InstanceId) :
    Preserves I (PoolM.configure out id n) := by
  refine (Preserves.record id).bind fun r => Preserves.pool.bind fun p => ?_
  refine (lasting.called n (.configure _ _)).bind fun _ => ?_
  refine (lasting.called n .diagnose).bind fun diagnostics => ?_
  cases diagnostics.isEmpty with
  | true => exact .pure ()
  | false => exact .throw _

theorem preserves_fillPlace (lasting : Lasting engine out concerned I) (concerns : concerned id) :
    Preserves I (PoolM.fillPlace engine out id) := by
  have made : Preserves I (PoolM.newInstance engine out id) :=
    (lasting.preserves_createInstance concerns).bind fun n =>
      (lasting.preserves_configure n).bind fun _ => .pure n
  refine made.attempt.bind fun r => ?_
  cases r with
  | ok n => exact .pure n
  | error fault =>
    exact .bind (lasting.preserves_updateRecord concerns fun _ => rfl) fun _ =>
      (Preserves.record id).bind fun _ => .throw _

theorem preserves_loadPlugin (lasting : Lasting engine out concerned I) (concerns : concerned id) :
    Preserves I (PoolM.loadPlugin engine out id) := by
  refine (lasting.preserves_createInstance concerns).bind fun n => ?_
  refine (lasting.called n .info).bind fun info => ?_
  refine .bind (lasting.preserves_updateRecord concerns fun _ => rfl) fun _ => ?_
  refine (lasting.preserves_configure n).bind fun _ => ?_
  exact .bind (lasting.preserves_updateRecord concerns fun _ => rfl) fun _ => .pure info

/-- What becomes of a load is noted in its record. -/
theorem settleLoad (lasting : Lasting engine out concerned I) (concerns : concerned id) {p : Pool σ ε}
    (holds : I p) (r : Except Fault PluginInfo) : I (settleLoad id r p) := by
  cases r with
  | ok info => exact holds
  | error fault => exact lasting.updateRecord holds concerns fun _ _ => rfl

/-! ### Format calls -/

theorem preserves_acquire (lasting : Lasting engine out concerned I) (concerns : concerned id) :
    Preserves I (PoolM.acquire engine out id) := by
  rintro ⟨e, p⟩ holds
  cases found : p.records[id]? with
  | none =>
    rw [PoolM.ending_acquire_of_none engine out found]
    exact holds
  | some r =>
    rw [PoolM.ending_acquire engine out found]
    have kept {r' : PluginRecord} (lease : r.lease p.limits.maxInstances = .reserved r' ∨
        ∃ n, r.lease p.limits.maxInstances = .popped n r') : I (p.updateRecord id fun _ => r') := by
      obtain ⟨idle, rfl⟩ := PluginRecord.exists_of_lease lease
      exact lasting.updateRecord holds concerns fun x there => by
        rw [Option.some.inj (there.symm.trans found)]
        rfl
    cases lease : r.lease p.limits.maxInstances with
    | refused => exact holds
    | exhausted => exact lasting.notes holds ⟨rfl, rfl, rfl, rfl⟩
    | popped n r' => exact kept (.inr ⟨n, lease⟩)
    | reserved r' => exact lasting.preserves_fillPlace concerns (e, _) (kept (.inl lease))

theorem preserves_markCrashed (lasting : Lasting engine out concerned I) (concerns : concerned id)
    (n : InstanceId) (reason : String) :
    Preserves I (PoolM.markCrashed id n reason : PoolM σ ε Unit) := by
  refine Preserves.pool.bind fun p => (lasting.preserves_mark _).bind fun _ => ?_
  refine (lasting.preserves_updateRecord concerns fun r => ?_).bind fun _ => ?_
  · rw [PluginRecord.crash]
    split <;> rfl
  refine (Preserves.record id).bind fun r => (lasting.preserves_note _).bind fun _ => ?_
  exact .ite (lasting.preserves_note _) (.pure ())

theorem preserves_formatLent (lasting : Lasting engine out concerned I) (concerns : concerned id)
    (path text : String) (override : Datum) (n : InstanceId) :
    Preserves I (PoolM.formatLent out id path text override n) := by
  refine Preserves.pool.bind fun p => (lasting.preserves_mark _).bind fun _ => ?_
  refine (lasting.called n (.format path text override)).attempt.bind fun r => ?_
  cases r with
  | ok result => exact .pure result
  | error fault =>
    exact .ite ((lasting.preserves_markCrashed concerns n _).bind fun _ => .throw _) (.throw fault)

theorem preserves_release (lasting : Lasting engine out concerned I) (concerns : concerned id)
    (n : InstanceId) : Preserves I (PoolM.release id n : PoolM σ ε Unit) := by
  refine (Preserves.record id).bind fun r => Preserves.pool.bind fun p => ?_
  have given (poisoned : Bool) :=
    lasting.preserves_updateRecord concerns (f := PluginRecord.release n poisoned) fun _ => rfl
  exact .ite ((lasting.preserves_note _).bind fun _ => given _) (given _)

theorem preserves_formatWith (lasting : Lasting engine out concerned I) (concerns : concerned id)
    (path text : String) (override : Datum) :
    Preserves I (PoolM.formatWith engine out id path text override) := by
  have borrowed : Preserves I (PoolM.borrowing engine out id
      (PoolM.formatLent out id path text override)) :=
    (lasting.preserves_acquire concerns).bind fun n =>
      (lasting.preserves_formatLent concerns path text override n).attempt.bind fun r =>
        (lasting.preserves_release concerns n).bind fun _ => .ofExcept r
  have chained (f : Pool σ ε → CallChain) :
      Preserves I (PoolM.update fun p => { p with chain := f p } : PoolM σ ε Unit) :=
    .update fun _ holds => lasting.notes holds ⟨rfl, rfl, rfl, rfl⟩
  have entered (name : String) : Preserves I (PoolM.entering name
      (PoolM.borrowing engine out id (PoolM.formatLent out id path text override))) := by
    refine Preserves.pool.bind fun p => (Preserves.except _).bind fun chain => ?_
    refine (chained fun _ => chain).bind fun _ => borrowed.attempt.bind fun r => ?_
    exact (chained fun p => p.chain.exit).bind fun _ => .ofExcept r
  refine (Preserves.record id).bind fun r => (entered r.name).bind fun result => ?_
  exact .bind (lasting.preserves_updateRecord concerns fun _ => rfl) fun _ =>
    (lasting.preserves_mark _).bind fun _ => .pure result

end Lasting

/-! ### Requests -/

section

variable {ι : Type} {I : ι → Pool σ ε → Prop} {engine : Engine σ ε}

/-- Requests preserve what the format calls preserve that they come to. The outside of each of these is
that of requests one plugin deeper. -/
theorem preserves_formatFor
    (noted : ∀ i (p : Pool σ ε) journal overran, I i p → I i { p with journal, overran })
    (formats : ∀ {out : Outside ε (Pool σ ε)}, out.selfCalls = false → (∀ i, out.Keeps (I i)) →
      ∀ i e (p : Pool σ ε) id r path text override, p.resolve path = some (id, r) → I i p →
        I i (ending (PoolM.formatWith engine out id path text override) (e, p)).2.2)
    (depth : Nat) (i : ι) (caller path text : String) (override : Datum) :
    Preserves (I i) (PoolM.formatFor engine depth caller path text override) := by
  induction depth generalizing i caller path text override with
  | zero =>
    rintro ⟨e, p⟩ holds
    obtain ⟨journal, ⟨ran, -⟩ | ⟨id, r, -, -, ran⟩⟩ :=
      PoolM.exists_ending_formatFor engine 0 caller path text override e p <;> rw [ran]
    · exact noted i p journal p.overran holds
    · exact noted i p journal p.overran holds
  | succ depth ih =>
    rintro ⟨e, p⟩ holds
    obtain ⟨journal, ⟨ran, -⟩ | ⟨id, r, resolved, -, ran⟩⟩ :=
      PoolM.exists_ending_formatFor engine (depth + 1) caller path text override e p <;> rw [ran]
    · exact noted i p journal p.overran holds
    · have keeps (i : ι) : (PoolM.below engine depth).Keeps (I i) :=
        keeps_outside (noted i) fun caller path text m => ih i caller path text m.toDatum
      exact formats rfl keeps i e { p with journal } id r path text override resolved
        (noted i p journal p.overran holds)

/-- What the instances of a pool find outside keeps what format calls preserve. -/
theorem keeps_around
    (noted : ∀ i (p : Pool σ ε) journal overran, I i p → I i { p with journal, overran })
    (formats : ∀ {out : Outside ε (Pool σ ε)}, out.selfCalls = false → (∀ i, out.Keeps (I i)) →
      ∀ i e (p : Pool σ ε) id r path text override, p.resolve path = some (id, r) → I i p →
        I i (ending (PoolM.formatWith engine out id path text override) (e, p)).2.2)
    (limits : Limits) (i : ι) : (PoolM.around engine limits).Keeps (I i) :=
  keeps_outside (noted i) fun caller path text m =>
    preserves_formatFor noted formats limits.maxDepth i caller path text m.toDatum

end

end FormatHost
