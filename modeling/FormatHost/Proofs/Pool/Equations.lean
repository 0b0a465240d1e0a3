import FormatHost.Proofs.Ends
import FormatHost.Proofs.Pool.Ledger
/-!
# How the functions of a pool end

Each function of a pool by an equation for every way that it takes. What is proved of a function goes by
its equations, not by its body.
-/
namespace FormatHost

variable {σ ε α : Type}

namespace CallChain

variable {c : CallChain} {name : String}

theorem enter_of_lt (room : c.depth < c.limit) (name : String) :
    c.enter name = .ok { c with active := c.active ++ [name] } :=
  if_neg (Nat.not_le.2 room)

theorem enter_of_le (full : c.limit ≤ c.depth) (name : String) :
    c.enter name = .error (.depthExceeded c.limit (c.active ++ [name])) :=
  if_pos full

theorem eq_of_enter_eq_error {f : Fault} (refused : c.enter name = .error f) :
    f = .depthExceeded c.limit (c.active ++ [name]) := by
  rcases Nat.lt_or_ge c.depth c.limit with room | full
  · exact absurd ((enter_of_lt room name).symm.trans refused) (by simp)
  · exact Except.error.inj (refused.symm.trans (enter_of_le full name))

end CallChain

namespace PoolM

/-! ### Single steps -/

@[simp] theorem ending_pool (x : ε × Pool σ ε) : ending (pool (σ := σ)) x = (.ok x.2, x) := rfl

@[simp] theorem ending_update (f : Pool σ ε → Pool σ ε) (x : ε × Pool σ ε) :
    ending (update f) x = (.ok (), x.1, f x.2) := rfl

@[simp] theorem ending_updateRecord (id : RecordId) (f : PluginRecord → PluginRecord)
    (x : ε × Pool σ ε) : ending (updateRecord id f) x = (.ok (), x.1, x.2.updateRecord id f) := rfl

@[simp] theorem ending_note (r : LogRecord) (x : ε × Pool σ ε) :
    ending (note r) x = (.ok (), x.1, { x.2 with journal := r :: x.2.journal }) := rfl

@[simp] theorem ending_mark (event : PoolEvent) (x : ε × Pool σ ε) :
    ending (mark event) x = (.ok (), x.1, { x.2 with events := event :: x.2.events }) := rfl

@[simp] theorem ending_attempt (c : PoolM σ ε α) (x : ε × Pool σ ε) :
    ending (attempt c) x = (.ok (ending c x).1, (ending c x).2) := rfl

@[simp] theorem ending_except (r : Except Fault α) (x : ε × Pool σ ε) :
    ending (liftM r : PoolM σ ε α) x = (r, x) := rfl

section

variable {id : RecordId} {n : InstanceId} {e : ε} {p : Pool σ ε} {r : PluginRecord}

theorem ending_record (found : p.records[id]? = some r) :
    ending (record id) (e, p) = (.ok r, e, p) := by
  unfold record
  rw [ending_bind, ending_pool]
  simp only [found]
  rfl

theorem ending_record_of_none (absent : p.records[id]? = none) :
    ending (record id) (e, p) = (.error (.unfit .member), e, p) := by
  unfold record
  rw [ending_bind, ending_pool]
  simp only [absent]
  rfl

theorem ending_withInstance {x : ε × Pool σ ε} {g : Instance σ ε}
    (found : x.2.instances[n]? = some (id, g)) (call : GuestM σ ε (Pool σ ε) α) :
    ending (withInstance n call) x =
      ((ending call ⟨g, x.1, x.2⟩).1, (ending call ⟨g, x.1, x.2⟩).2.engine,
        Ledger.withState (ending call ⟨g, x.1, x.2⟩).2.world n id
          (ending call ⟨g, x.1, x.2⟩).2.guest) := by
  simp only [ending, withInstance, ExceptT.run, ExceptT.mk, StateT.run, found]
  rfl

theorem ending_withInstance_of_none (absent : p.instances[n]? = none)
    (call : GuestM σ ε (Pool σ ε) α) :
    ending (withInstance n call) (e, p) = (.error (.unfit .member), e, p) := by
  simp only [ending, withInstance, ExceptT.run, ExceptT.mk, StateT.run, absent]

end

/-! ### Making instances -/

section

variable (engine : Engine σ ε) (out : Outside ε (Pool σ ε)) {id : RecordId} {e : ε} {p : Pool σ ε}
  {r : PluginRecord}

theorem ending_load (name : String) (table : HostTable) (moduleBytes : Bytes) (x : ε × Pool σ ε) :
    ending (ExceptT.mk do
        return (← Instance.load engine out name table moduleBytes).1 : PoolM σ ε (Instance σ ε)) x =
      (((Instance.load engine out name table moduleBytes).run x).1.1,
        ((Instance.load engine out name table moduleBytes).run x).2) := rfl

/-- An instance that was loaded enters the pool that there is by then. -/
theorem ending_loadInstance (found : p.records[id]? = some r) :
    ending (loadInstance engine out id) (e, p) =
      match (Instance.load engine out r.name (some (.fresh r.name)) r.moduleBytes).run (e, p) with
      | ((.error fault, _), y) => (.error fault, y)
      | ((.ok g, _), e', q) => (.ok q.instances.length, e', Ledger.withNew q id g) := by
  unfold loadInstance
  rw [ending_bind_of_ok (ending_record found), ending_bind, ending_load]
  rcases (Instance.load engine out r.name (some (.fresh r.name)) r.moduleBytes).run (e, p) with
    ⟨⟨fault | g, table⟩, e', q⟩ <;> rfl

theorem ending_loadInstance_of_none (absent : p.records[id]? = none) :
    ending (loadInstance engine out id) (e, p) = (.error (.unfit .member), e, p) :=
  ending_bind_of_error (ending_record_of_none absent)

/-- A new instance is configured by its record and the configuration of the pool. -/
theorem ending_configure (n : InstanceId) (found : p.records[id]? = some r) :
    ending (configure out id n) (e, p) = ending (do
      withInstance n (GuestM.setConfig out (.map p.config.globalConfig)
        (configOf p.config.pluginConfigs r.info))
      let diagnostics ← withInstance n (GuestM.configDiagnostics out)
      if !diagnostics.isEmpty then
        throw (.configurationRejected r.name ("; ".intercalate (diagnostics.map Diagnostic.line))))
      (e, p) := by
  unfold configure
  rw [ending_bind_of_ok (ending_record found), ending_bind, ending_pool]

/-- What fills a place: an instance is made and configured. -/
def newInstance (engine : Engine σ ε) (out : Outside ε (Pool σ ε)) (id : RecordId) :
    PoolM σ ε InstanceId := do
  let number ← createInstance engine out id
  configure out id number
  return number

/-- A place that could not be filled is given back, and the failure is reported as one of its record. -/
theorem ending_fillPlace (x : ε × Pool σ ε) :
    ending (fillPlace engine out id) x =
      match ending (newInstance engine out id) x with
      | (.ok n, y) => (.ok n, y)
      | (.error f, y) =>
        ending (do
          let r ← record id
          throw (if f.kind.isDeclared then .creationFailed r.name f else f))
          (y.1, y.2.updateRecord id PluginRecord.abandon) := by
  unfold fillPlace
  rw [ending_bind, ending_attempt]
  change _ = match ending (newInstance engine out id) x with | (.ok n, y) => _ | (.error f, y) => _
  unfold newInstance
  rcases ending _ x with ⟨f | n, y⟩
  · simp only
    rw [ending_bind, ending_updateRecord]
  · rfl

/-! ### Lending -/

theorem ending_acquire (found : p.records[id]? = some r) :
    ending (acquire engine out id) (e, p) =
      match r.lease p.limits.maxInstances with
      | .refused => (.error (.disabled r.name r.error), e, p)
      | .popped n r' => (.ok n, e, p.updateRecord id fun _ => r')
      | .reserved r' => ending (fillPlace engine out id) (e, p.updateRecord id fun _ => r')
      | .exhausted =>
        (.error (.exhausted r.name p.limits.borrowTimeout r.inUse.toNat p.limits.maxInstances), e,
          { p with
            events := .exhausted id :: p.events
            waited := p.waited.add p.limits.borrowTimeout }) := by
  unfold acquire
  rw [ending_bind_of_ok (ending_record found), ending_bind, ending_pool]
  simp only
  cases r.lease p.limits.maxInstances <;> rfl

theorem ending_acquire_of_none (absent : p.records[id]? = none) :
    ending (acquire engine out id) (e, p) = (.error (.unfit .member), e, p) :=
  ending_bind_of_error (ending_record_of_none absent)

end

section

variable {id : RecordId} {n : InstanceId} {e : ε} {p : Pool σ ε} {r : PluginRecord}

/-- Giving an instance back changes its record, and the journal. -/
theorem exists_ending_release {g : Instance σ ε} (found : p.records[id]? = some r)
    (there : p.instances[n]? = some (id, g)) :
    ∃ journal, ending (release id n) (e, p) =
      (.ok (), e, { p.updateRecord id (PluginRecord.release n g.poisoned) with journal }) := by
  unfold release
  rw [ending_bind_of_ok (ending_record found), ending_bind, ending_pool]
  simp only [there]
  cases g.poisoned with
  | true => exact ⟨_, rfl⟩
  | false => exact ⟨_, rfl⟩

theorem ending_release_of_healthy {g : Instance σ ε} (found : p.records[id]? = some r)
    (there : p.instances[n]? = some (id, g)) (healthy : g.poisoned = false) :
    ending (release id n) (e, p) = (.ok (), e, p.updateRecord id (PluginRecord.release n false)) := by
  unfold release
  rw [ending_bind_of_ok (ending_record found), ending_bind, ending_pool]
  simp only [there, healthy]
  rfl

/-- However the use of a lent instance ends, the instance is given back. -/
theorem ending_returning (id : RecordId) (n : InstanceId) (use : PoolM σ ε α) (x : ε × Pool σ ε) :
    ending (returning id n use) x = ending (do
      release id n
      ofExcept (ending use x).1) (ending use x).2 := by
  unfold returning
  rw [ending_bind, ending_attempt]

/-- Noting a crash changes the record, the events and the journal. -/
theorem exists_ending_markCrashed (n : InstanceId) (reason : String) (e : ε)
    (found : p.records[id]? = some r) :
    ∃ journal, ending (markCrashed id n reason) (e, p) =
      (.ok (), e, { p.updateRecord id (PluginRecord.crash p.limits.maxCrashes reason) with
        events := .crashed id n :: p.events
        journal }) := by
  have marked : { p with events := .crashed id n :: p.events }.records[id]? = some r := found
  have after := Pool.getElem?_updateRecord_self marked
    (PluginRecord.crash p.limits.maxCrashes reason)
  unfold markCrashed
  rw [ending_bind, ending_pool]
  simp only
  rw [ending_bind, ending_mark]
  simp only
  rw [ending_bind, ending_updateRecord]
  simp only
  rw [ending_bind_of_ok (ending_record after), ending_bind, ending_note]
  simp only
  split
  · exact ⟨_, rfl⟩
  · exact ⟨_, rfl⟩

end

/-! ### Formatting -/

/-- A breach of the protocol is noted as a crash. -/
theorem ending_formatLent (out : Outside ε (Pool σ ε)) (id : RecordId) (path text : String)
    (override : Datum) (n : InstanceId) (x : ε × Pool σ ε) :
    ending (formatLent out id path text override n) x =
      match ending (withInstance n (GuestM.formatText out path text override))
        (x.1, { x.2 with events := .formatting id n x.2.chain.active :: x.2.events }) with
      | (.ok v, y) => (.ok v, y)
      | (.error f, y) =>
        if f.kind = .guest then
          ending (do markCrashed id n f.message; throw (.crashed f)) y
        else (.error f, y) := by
  unfold formatLent
  rw [ending_bind, ending_pool]
  simp only
  rw [ending_bind, ending_mark]
  simp only
  rw [ending_bind, ending_attempt]
  simp only
  rcases ending (withInstance n (GuestM.formatText out path text override)) _ with ⟨f | v, y⟩
  · simp only
    split
    · simp only [ending_bind]
      rcases ending (markCrashed id n f.message) y with ⟨g | _, z⟩ <;> rfl
    · rfl
  · rfl

section

variable {name : String} {e : ε} {p : Pool σ ε}

/-- Behind a full chain a plugin does not become active. -/
theorem ending_entering_of_error {f : Fault} (refused : p.chain.enter name = .error f)
    (use : PoolM σ ε α) : ending (entering name use) (e, p) = (.error f, e, p) := by
  unfold entering
  rw [ending_bind, ending_pool]
  simp only
  rw [ending_bind, ending_except, refused]

/-- What is done inside an active plugin ends as it does, and after that the plugin is active no more. -/
theorem ending_entering_of_ok {chain : CallChain} (entered : p.chain.enter name = .ok chain)
    (use : PoolM σ ε α) :
    ending (entering name use) (e, p) =
      ((ending use (e, { p with chain })).1, (ending use (e, { p with chain })).2.1,
        { (ending use (e, { p with chain })).2.2 with
          chain := (ending use (e, { p with chain })).2.2.chain.exit }) := by
  unfold entering
  rw [ending_bind, ending_pool]
  simp only
  rw [ending_bind, ending_except, entered]
  simp only
  rw [ending_bind, ending_update]
  simp only
  rw [ending_bind, ending_attempt]
  simp only
  rw [ending_bind, ending_update]
  simp only [ending_ofExcept]

variable (engine : Engine σ ε) {out : Outside ε (Pool σ ε)} {path text : String} {override : Datum}
  {id : RecordId} {r : PluginRecord}

theorem ending_formatWith (found : p.records[id]? = some r) :
    ending (formatWith engine out id path text override) (e, p) = ending (do
      let result ← entering r.name (borrowing engine out id (formatLent out id path text override))
      updateRecord id PluginRecord.succeed
      mark (.succeeded id)
      return result) (e, p) :=
  ending_bind_of_ok (ending_record found)

variable {engine}

/-- A success is counted when the plugin is done. -/
theorem ending_formatWith_of_ok {v : Option String} {y : ε × Pool σ ε}
    (found : p.records[id]? = some r)
    (inner : ending (entering r.name
      (borrowing engine out id (formatLent out id path text override))) (e, p) = (.ok v, y)) :
    ending (formatWith engine out id path text override) (e, p) =
      (.ok v, y.1, { y.2.updateRecord id PluginRecord.succeed with
        events := .succeeded id :: y.2.events }) := by
  rw [ending_formatWith engine found, ending_bind_of_ok inner]
  rfl

/-- A failure is none. -/
theorem ending_formatWith_of_error {f : Fault} {y : ε × Pool σ ε} (found : p.records[id]? = some r)
    (inner : ending (entering r.name
      (borrowing engine out id (formatLent out id path text override))) (e, p) = (.error f, y)) :
    ending (formatWith engine out id path text override) (e, p) = (.error f, y) := by
  rw [ending_formatWith engine found, ending_bind_of_error inner]

/-- Looking for the plugin that a request goes to notes what was found, and nothing else. -/
theorem exists_ending_resolveFor (caller path : String) (e : ε) (p : Pool σ ε) :
    ∃ found journal, ending (resolveFor caller path) (e, p) = (.ok found, e, { p with journal }) ∧
      (found = none ∧ (∀ id r, p.resolve path = some (id, r) → r.name = caller) ∨
        ∃ id r, found = some id ∧ p.resolve path = some (id, r) ∧ r.name ≠ caller) := by
  unfold resolveFor
  rw [ending_bind, ending_pool]
  simp only
  rcases resolved : p.resolve path with _ | ⟨id, r⟩
  · exact ⟨none, _, rfl, .inl ⟨rfl, by simp⟩⟩
  · by_cases own : r.name = caller
    · simp only [if_pos own]
      refine ⟨none, _, rfl, .inl ⟨rfl, ?_⟩⟩
      rintro i x ⟨⟩
      exact own
    · simp only [if_neg own]
      exact ⟨some id, _, rfl, .inr ⟨id, r, rfl, rfl, own⟩⟩

/-- A request changes nothing but the journal if it goes nowhere; otherwise it goes to the record that
handles its path. -/
theorem exists_ending_formatFor (engine : Engine σ ε) (depth : Nat) (caller path text : String)
    (override : Datum) (e : ε) (p : Pool σ ε) :
    ∃ journal, ending (formatFor engine depth caller path text override) (e, p) =
        (.ok none, e, { p with journal }) ∧
          (∀ id r, p.resolve path = some (id, r) → r.name = caller) ∨
      ∃ id r, p.resolve path = some (id, r) ∧ r.name ≠ caller ∧
        ending (formatFor engine depth caller path text override) (e, p) =
          match depth with
          | 0 => (.error (.depthExceeded p.chain.limit (p.chain.active ++ [r.name])), e,
              { p with journal })
          | depth + 1 => ending (formatWith engine (below engine depth) id path text override)
              (e, { p with journal }) := by
  obtain ⟨found, journal, ran, ⟨rfl, own⟩ | ⟨id, r, rfl, resolved, other⟩⟩ :=
    exists_ending_resolveFor caller path e p
  · refine ⟨journal, .inl ⟨?_, own⟩⟩
    cases depth with
    | zero => exact ending_bind_of_ok ran
    | succ depth => exact ending_bind_of_ok ran
  · refine ⟨journal, .inr ⟨id, r, resolved, other, ?_⟩⟩
    cases depth with
    | zero =>
      have there : ({ p with journal } : Pool σ ε).records[id]? = some r :=
        (Pool.mem_registry_of_resolve resolved).1
      unfold formatFor
      rw [ending_bind_of_ok ran]
      simp only
      rw [ending_bind_of_ok (ending_record there), ending_bind, ending_pool]
      rfl
    | succ depth => exact ending_bind_of_ok ran

theorem ending_formatText_of_none (resolved : p.resolve path = none) :
    ending (formatText engine path text override) (e, p) = (.error (.noPlugin path), e, p) := by
  unfold formatText
  rw [ending_bind, ending_pool]
  simp only [resolved]
  rfl

theorem ending_formatText_of_resolve (resolved : p.resolve path = some (id, r)) :
    ending (formatText engine path text override) (e, p) =
      ending (formatWith engine (around engine p.limits) id path text override) (e, p) := by
  unfold formatText
  rw [ending_bind, ending_pool]
  simp only [resolved]

end

/-! ### Registration -/

theorem ending_register_of_invalid (engine : Engine σ ε) {name : String}
    (invalid : isPluginName name = false) (moduleBytes : Bytes) (x : ε × Pool σ ε) :
    ending (register engine name moduleBytes) x = (.error (.invalidName name), x) := by
  unfold register
  rw [if_pos (by simp [invalid])]
  rfl

end PoolM

/-- What is left to do to a record after an attempt to load its plugin. -/
def settleLoad (id : RecordId) : Except Fault PluginInfo → Pool σ ε → Pool σ ε
  | .ok _, p => p
  | .error fault, p => p.updateRecord id (PluginRecord.degrade fault.message)

/-- Whatever becomes of the load, a registration under a valid name ends well: the record is there, and
the name stands for it. -/
theorem exists_ending_register (engine : Engine σ ε) {name : String} (valid : isPluginName name = true)
    (moduleBytes : Bytes) (e : ε) (p : Pool σ ε) :
    let made : Pool σ ε := { p with records := p.records ++ [.fresh name moduleBytes] }
    let loaded := ending (PoolM.loadPlugin engine (PoolM.around engine p.limits) p.records.length)
      (e, made)
    ∃ journal, ending (PoolM.register engine name moduleBytes) (e, p) =
      (.ok p.records.length, loaded.2.1, { (settleLoad p.records.length loaded.1 loaded.2.2).enter name
        p.records.length with journal }) := by
  intro made loaded
  have entered (q : Pool σ ε) (e' : ε) : ∃ journal, ending (do
      let replaced := ((← PoolM.pool).lookup? name).isSome
      PoolM.update (Pool.enter name p.records.length)
      if replaced then
        PoolM.note (.info PoolM.logger ("Replaced previously registered plugin " ++ name))
      return p.records.length : PoolM σ ε RecordId) (e', q) =
        (.ok p.records.length, e', { q.enter name p.records.length with journal }) := by
    rw [ending_bind, PoolM.ending_pool]
    simp only
    rw [ending_bind, PoolM.ending_update]
    simp only
    split
    · exact ⟨_, rfl⟩
    · exact ⟨_, rfl⟩
  unfold PoolM.register
  rw [if_neg (by simp [valid]), ending_bind, PoolM.ending_pool]
  simp only
  rw [ending_bind, PoolM.ending_update]
  simp only
  rw [ending_bind, PoolM.ending_attempt]
  simp only
  rcases done : loaded with ⟨fault | info, e', q⟩
  · rw [show ending (PoolM.loadPlugin engine (PoolM.around engine p.limits) p.records.length)
      (e, made) = (.error fault, e', q) from done]
    simp only
    rw [ending_bind, PoolM.ending_updateRecord]
    simp only
    rw [ending_bind, PoolM.ending_note]
    exact entered _ e'
  · rw [show ending (PoolM.loadPlugin engine (PoolM.around engine p.limits) p.records.length)
      (e, made) = (.ok info, e', q) from done]
    simp only
    rw [ending_bind, PoolM.ending_note]
    exact entered _ e'

end FormatHost
