import FormatHost.Proofs.Guest.Solitary
import FormatHost.Proofs.Pool.Crashes
import FormatHost.Proofs.Pool.Provenance
/-!
# Borrowing side by side

A plugin whose instances depend on nothing but themselves is used in two pools that agree on its record
and on the instances that wait there. Borrowing ends alike in both, with the same fault or with the same
instance, whatever is outside; and so does the format call.
-/
namespace FormatHost

variable {σ ε α β : Type}

/-- Two pools agree on a record. -/
structure Accord (id : RecordId) (x y : ε × Pool σ ε) : Prop where
  config : y.2.config = x.2.config
  record : y.2.records[id]? = x.2.records[id]?

/-- In both pools an instance of the record is in hand. It is the same, though its number may not be. -/
structure Abreast (id : RecordId) (n n' : InstanceId) (x y : ε × Pool σ ε) : Prop
    extends Accord id x y where
  same : ∃ g, x.2.instances[n]? = some (id, g) ∧ y.2.instances[n']? = some (id, g) ∧
    SolitaryExports g.exports

/-- Two attempts to get an instance in hand end alike. -/
inductive Alike (id : RecordId) (x y : ε × Pool σ ε) :
    Except Fault InstanceId → Except Fault InstanceId → Prop
  | failed (f : Fault) (accord : Accord id x y) : Alike id x y (.error f) (.error f)
  | gained {n n' : InstanceId} (abreast : Abreast id n n' x y) : Alike id x y (.ok n) (.ok n')

/-- Two computations get an instance in hand, or fail alike. -/
def Gain (id : RecordId) (R : ε × Pool σ ε → ε × Pool σ ε → Prop)
    (c c' : PoolM σ ε InstanceId) : Prop :=
  ∀ x y, R x y → Alike id (ending c x).2 (ending c' y).2 (ending c x).1 (ending c' y).1

section

variable {id : RecordId} {n n' : InstanceId} {R : ε × Pool σ ε → ε × Pool σ ε → Prop}

namespace Gain

theorem pure (n n' : InstanceId) :
    Gain id (Abreast id n n') (Pure.pure n : PoolM σ ε InstanceId) (Pure.pure n') :=
  fun _ _ abreast => .gained abreast

/-- The instance that was got is used. -/
theorem bind {c c' : PoolM σ ε InstanceId} {k k' : InstanceId → PoolM σ ε InstanceId}
    (first : Gain id R c c') (next : ∀ n n', Gain id (Abreast id n n') (k n) (k' n')) :
    Gain id R (c >>= k) (c' >>= k') := by
  intro x y related
  have got := first x y related
  rw [ending_bind, ending_bind]
  revert got
  rcases ending c x with ⟨f | n, s⟩ <;> rcases ending c' y with ⟨f' | n', t⟩ <;> intro got
  · exact got
  · cases got
  · cases got
  · cases got with
    | gained abreast => exact next n n' s t abreast

/-- Something else is done on the way. -/
theorem after {c c' : PoolM σ ε α} {k k' : α → PoolM σ ε InstanceId}
    (first : Level (Abreast id n n') c c') (next : ∀ a, Gain id (Abreast id n n') (k a) (k' a)) :
    Gain id (Abreast id n n') (c >>= k) (c' >>= k') := by
  intro x y related
  obtain ⟨same, middle⟩ := first x y related
  rw [ending_bind, ending_bind]
  revert same middle
  rcases ending c x with ⟨f | a, s⟩ <;> rcases ending c' y with ⟨f' | a', t⟩ <;> intro same middle
  · obtain rfl := Except.error.inj same
    exact .failed f' middle.toAccord
  · exact absurd same (by simp)
  · exact absurd same (by simp)
  · obtain rfl := Except.ok.inj same
    exact next a' s t middle

end Gain

/-- Both pools say the same of a record on which they agree. -/
theorem level_record (accord : ∀ {x y}, R x y → Accord id x y) :
    Level R (PoolM.record id) (PoolM.record id) := by
  rintro ⟨e, p⟩ ⟨e', q⟩ related
  have same : q.records[id]? = p.records[id]? := (accord related).record
  cases found : p.records[id]? with
  | none =>
    rw [PoolM.ending_record_of_none found, PoolM.ending_record_of_none (same.trans found)]
    exact ⟨rfl, related⟩
  | some r =>
    rw [PoolM.ending_record found, PoolM.ending_record (same.trans found)]
    exact ⟨rfl, related⟩

theorem Accord.updateRecord {x y : ε × Pool σ ε} (accord : Accord id x y)
    (f : PluginRecord → PluginRecord) :
    Accord id (x.1, x.2.updateRecord id f) (y.1, y.2.updateRecord id f) where
  config := accord.config
  record := by
    have same := accord.record
    simp [Pool.updateRecord, same]

theorem level_updateRecord (f : PluginRecord → PluginRecord) :
    Level (Abreast id n n' (σ := σ) (ε := ε)) (PoolM.updateRecord id f)
      (PoolM.updateRecord id f) :=
  fun _ _ abreast => ⟨rfl, abreast.toAccord.updateRecord f, abreast.same⟩

/-- An instance that depends on nothing but itself is driven alike in both pools. -/
theorem level_withInstance {call call' : GuestM σ ε (Pool σ ε) α}
    (level : ∀ (X : Exports σ ε) (w w' : Pool σ ε), SolitaryExports X →
      Level (Beside X w w') call call') :
    Level (Abreast id n n') (PoolM.withInstance n call) (PoolM.withInstance n' call') := by
  rintro ⟨e, p⟩ ⟨e', q⟩ abreast
  obtain ⟨g, here, there, solitary⟩ := abreast.same
  rw [PoolM.ending_withInstance here, PoolM.ending_withInstance there]
  obtain ⟨same, beside⟩ := level g.exports p q solitary ⟨g, e, p⟩ ⟨g, e', q⟩ ⟨rfl, rfl, rfl, rfl⟩
  refine ⟨same, ⟨?_, ?_⟩, (ending call ⟨g, e, p⟩).2.guest, ?_, ?_, beside.exports ▸ solitary⟩
  · simp only [Ledger.withState, beside.left, beside.right]
    exact abreast.config
  · simp only [Ledger.withState, beside.left, beside.right]
    exact abreast.record
  · have known := (List.getElem?_eq_some_iff.1 here).1
    simp [Ledger.withState, beside.left, known]
  · have known := (List.getElem?_eq_some_iff.1 there).1
    simp [Ledger.withState, beside.right, beside.same, known]

theorem level_configure (out out' : Outside ε (Pool σ ε)) :
    Level (Abreast id n n') (PoolM.configure out id n) (PoolM.configure out' id n') := by
  refine (level_record fun abreast => abreast.toAccord).bind fun r => ?_
  rintro ⟨e, p⟩ ⟨e', q⟩ abreast
  rw [ending_bind, ending_bind, PoolM.ending_pool, PoolM.ending_pool]
  have config : q.config = p.config := abreast.config
  simp only [config]
  refine ((level_withInstance fun X w w' solitary => (inStep_beside solitary).setConfig _ _).bind
    fun _ => ?_ : Level (Abreast id n n') _ _) (e, p) (e', q) abreast
  refine (level_withInstance fun X w w' solitary =>
    (inStep_beside solitary).configDiagnostics).bind fun diagnostics => ?_
  cases diagnostics.isEmpty with
  | true => exact .pure ()
  | false => exact .throw _

end

/-! ### Plugins that go by themselves -/

section

variable {engine : Engine σ ε} {moduleBytes : Bytes}

/-- Instances from certain module bytes depend on nothing but themselves. -/
def Lonely (moduleBytes : Bytes) : Traits σ ε :=
  fun _ loaded g => loaded = moduleBytes → SolitaryExports g.exports

theorem breeds_lonely (solitary : ∀ e m, (engine moduleBytes e).1 = .ok m → m.Solitary) :
    Breeds engine (Lonely moduleBytes) where
  loaded {out name loaded x g} far made := by
    rintro rfl
    exact (load_beside rfl (solitary x.1) out out x.2 x.2 name (some (.fresh name))).2.2.2 g made
  driven {γ out call name loaded g} e p far service has := by
    intro same
    have solitary := has same
    have level : InStep (Beside g.exports p p) out out := inStep_beside solitary
    have start : Beside g.exports p p ⟨g, e, p⟩ ⟨g, e, p⟩ := ⟨rfl, rfl, rfl, rfl⟩
    have kept {c : GuestM σ ε (Pool σ ε) γ} (level : Level (Beside g.exports p p) c c) :
        SolitaryExports (ending c ⟨g, e, p⟩).2.guest.exports :=
      (level _ _ start).2.exports ▸ solitary
    cases service with
    | schema => exact kept level.checkSchema
    | info => exact kept level.pluginInfo
    | configure global plugin => exact kept (level.setConfig global plugin)
    | diagnose => exact kept level.configDiagnostics
    | format path text override => exact kept (level_formatText_beside solitary path text rfl rfl)

variable (alike : ∀ e e', (engine moduleBytes e').1 = (engine moduleBytes e).1)
  (solitary : ∀ e m, (engine moduleBytes e).1 = .ok m → m.Solitary)
  (out out' : Outside ε (Pool σ ε)) {id : RecordId}
include alike solitary

theorem gain_loadInstance :
    Gain id (fun x y => Accord id x y ∧
        ∃ r, x.2.records[id]? = some r ∧ r.moduleBytes = moduleBytes)
      (PoolM.loadInstance engine out id) (PoolM.loadInstance engine out' id) := by
  rintro ⟨e, p⟩ ⟨e', q⟩ ⟨accord, r, found, rfl⟩
  have found' : q.records[id]? = some r := accord.record.trans found
  have both := load_beside (alike e e') (solitary e) out out' p q r.name (some (.fresh r.name))
  rw [PoolM.ending_loadInstance engine out found, PoolM.ending_loadInstance engine out' found']
  revert both
  rcases (Instance.load engine out r.name (some (.fresh r.name)) r.moduleBytes).run (e, p) with
    ⟨⟨made, table⟩, f, w⟩
  rcases (Instance.load engine out' r.name (some (.fresh r.name)) r.moduleBytes).run (e', q) with
    ⟨⟨made', table'⟩, f', w'⟩
  rintro ⟨same, rfl, rfl, alone⟩
  obtain rfl : made' = made := same
  rcases made' with fault | g
  · exact .failed fault ⟨accord.config, accord.record⟩
  · have here : (w.instances ++ [(id, g)])[w.instances.length]? = some (id, g) := by simp
    have there : (w'.instances ++ [(id, g)])[w'.instances.length]? = some (id, g) := by simp
    exact .gained ⟨⟨accord.config, accord.record⟩, g, here, there, alone g rfl⟩

omit alike solitary in
theorem gain_fault (fault : PluginRecord → Fault) :
    Gain id (Accord id)
      (PoolM.record id >>= fun r => (throw (fault r) : PoolM σ ε InstanceId))
      (PoolM.record id >>= fun r => throw (fault r)) := by
  rintro ⟨e, p⟩ ⟨e', q⟩ accord
  have same : q.records[id]? = p.records[id]? := accord.record
  cases found : p.records[id]? with
  | none =>
    rw [ending_bind_of_error (PoolM.ending_record_of_none found),
      ending_bind_of_error (PoolM.ending_record_of_none (same.trans found))]
    exact .failed _ accord
  | some r =>
    rw [ending_bind_of_ok (PoolM.ending_record found),
      ending_bind_of_ok (PoolM.ending_record (same.trans found))]
    exact .failed _ accord

/-- Making an instance goes the same way in both pools. -/
theorem gain_fillPlace :
    Gain id (fun x y => Accord id x y ∧
        ∃ r, x.2.records[id]? = some r ∧ r.moduleBytes = moduleBytes)
      (PoolM.fillPlace engine out id) (PoolM.fillPlace engine out' id) := by
  have created : Gain id (fun x y => Accord id x y ∧
        ∃ r, x.2.records[id]? = some r ∧ r.moduleBytes = moduleBytes)
      (PoolM.createInstance engine out id) (PoolM.createInstance engine out' id) := by
    refine (gain_loadInstance alike solitary out out').bind fun n n' => ?_
    refine .after (level_withInstance fun X w w' solitary => (inStep_beside solitary).checkSchema)
      fun _ => ?_
    exact .after (level_updateRecord _) fun _ => .pure n n'
  have made : Gain id (fun x y => Accord id x y ∧
        ∃ r, x.2.records[id]? = some r ∧ r.moduleBytes = moduleBytes)
      (PoolM.newInstance engine out id) (PoolM.newInstance engine out' id) :=
    created.bind fun n n' => .after (level_configure out out') fun _ => .pure n n'
  intro x y related
  rw [PoolM.ending_fillPlace, PoolM.ending_fillPlace]
  have ended := made x y related
  revert ended
  rcases ending (PoolM.newInstance engine out id) x with ⟨f | n, s⟩ <;>
    rcases ending (PoolM.newInstance engine out' id) y with ⟨f' | n', t⟩ <;> intro ended
  · cases ended with
    | failed _ accord =>
      exact gain_fault (fun r => if f.kind.isDeclared then .creationFailed r.name f else f) _ _
        (accord.updateRecord PluginRecord.abandon)
  · cases ended
  · cases ended
  · exact ended

/-- An attempt to borrow goes the same way in both pools, if the same instances wait. -/
theorem gain_acquire :
    Gain id (fun x y => Accord id x y ∧
        ∃ r, x.2.records[id]? = some r ∧ r.moduleBytes = moduleBytes ∧
          ∀ n ∈ r.idle, ∃ g, x.2.instances[n]? = some (id, g) ∧ y.2.instances[n]? = some (id, g) ∧
            SolitaryExports g.exports)
      (PoolM.acquire engine out id) (PoolM.acquire engine out' id) := by
  rintro ⟨e, p⟩ ⟨e', q⟩ ⟨accord, r, found, origin, idle⟩
  have found' : q.records[id]? = some r := accord.record.trans found
  have config : q.config = p.config := accord.config
  have limits : q.limits = p.limits := congrArg PoolConfig.limits config
  rw [PoolM.ending_acquire engine out found, PoolM.ending_acquire engine out' found', limits]
  cases lease : r.lease p.limits.maxInstances with
  | refused => exact .failed _ accord
  | exhausted => exact .failed _ ⟨accord.config, accord.record⟩
  | popped n r' =>
    obtain ⟨-, rest, last, -⟩ := PluginRecord.lease_eq_popped_iff.1 lease
    exact .gained ⟨accord.updateRecord fun _ => r', idle n (by simp [last])⟩
  | reserved r' =>
    obtain ⟨waits, rfl⟩ := PluginRecord.exists_of_lease (.inl lease)
    refine gain_fillPlace alike solitary out out' _ _ ⟨accord.updateRecord fun _ => _, _,
      Pool.getElem?_updateRecord_self found _, origin⟩

end

/-! ### What a format call comes to -/

section

open Ledger

/-- What a pool makes of the answer of a lent instance. -/
def settled : Except Fault (Option String) → Except Fault (Option String)
  | .ok v => .ok v
  | .error f => .error (if f.kind = .guest then .crashed f else f)

theorem Settlement.eq_settled {m : ConfigMap} {id : RecordId} {n : InstanceId} {q p : Pool σ ε}
    {answer r : Except Fault (Option String)} (settlement : Settlement m id n q p answer r) :
    r = settled answer := by
  cases settlement with
  | answered => rfl
  | crashed kind => rw [settled, if_pos kind]
  | refused reason => rw [settled, if_neg reason.kind_ne_guest]

/-- An instance is borrowed and called. -/
def borrowedCall (engine : Engine σ ε) (out : Outside ε (Pool σ ε)) (m : ConfigMap) (id : RecordId)
    (path text : String) (x : ε × Pool σ ε) : Except Fault (Option String) :=
  match ending (PoolM.acquire engine out id) x with
  | (.error f, _) => .error f
  | (.ok n, y) => settled (lentCall out m id n path text y).1

variable {engine : Engine σ ε} {s₀ : Ledger σ ε} {others : Multiset Loan}
  {out out' : Outside ε (Pool σ ε)} {id : RecordId} {m : ConfigMap} {path text : String}

/-- What is done inside a plugin comes to what it comes to when the plugin is active. -/
theorem result_entering (use : PoolM σ ε α) {e : ε} {p : Pool σ ε} {name : String} {chain : CallChain}
    (entered : p.chain.enter name = .ok chain) :
    (ending (PoolM.entering name use) (e, p)).1 = (ending use (e, { p with chain })).1 := by
  rw [PoolM.ending_entering_of_ok entered]

/-- A format call of a record comes to what becomes of borrowing and calling an instance. -/
theorem result_formatWith (o : Orderly engine s₀) (discreet : Discreet engine out)
    (usable : s₀.Usable id) {e : ε} {p : Pool σ ε} (past : Past (habit engine) s₀ others 0 p)
    {r : PluginRecord} (found : p.records[id]? = some r) {chain : CallChain}
    (entered : p.chain.enter r.name = .ok chain) :
    (ending (PoolM.formatWith engine out id path text m.toDatum) (e, p)).1 =
      borrowedCall engine out m id path text (e, { p with chain }) := by
  have within : Past (habit engine) s₀ others 0 { p with chain } := past.notes ⟨rfl, rfl, rfl, rfl⟩
  have borrowed : (ending (PoolM.borrowing engine out id
      (PoolM.formatLent out id path text m.toDatum)) (e, { p with chain })).1 =
        borrowedCall engine out m id path text (e, { p with chain }) := by
    have lent := ends_acquire o discreet usable (e, { p with chain }) within
    unfold PoolM.borrowing borrowedCall
    rw [ending_bind]
    revert lent
    rcases ending (PoolM.acquire engine out id) (e, { p with chain }) with ⟨f | n, y⟩ <;> intro lent
    · rfl
    · exact (settlement_of_lent o discreet usable path text m lent.1 lent.2.loose).2.eq_settled
  rw [← borrowed, ← result_entering _ entered]
  rcases done : ending (PoolM.entering r.name (PoolM.borrowing engine out id
      (PoolM.formatLent out id path text m.toDatum))) (e, p) with ⟨f | v, y⟩
  · rw [PoolM.ending_formatWith_of_error found done]
  · rw [PoolM.ending_formatWith_of_ok found done]

/-- A plugin that goes by itself answers alike in two pools that agree on its record and on the instances
that wait there, if the overrides are written alike. -/
theorem borrowedCall_alike {moduleBytes : Bytes}
    (alike : ∀ e e', (engine moduleBytes e').1 = (engine moduleBytes e).1)
    (solitary : ∀ e m, (engine moduleBytes e).1 = .ok m → m.Solitary) {m' : ConfigMap}
    (blank : m'.toDatum.isBlank = m.toDatum.isBlank)
    (written : ConfigMap.serialize m'.toDatum = ConfigMap.serialize m.toDatum) {x y : ε × Pool σ ε}
    (accord : Accord id x y) {r : PluginRecord} (found : x.2.records[id]? = some r)
    (origin : r.moduleBytes = moduleBytes)
    (idle : ∀ n ∈ r.idle, ∃ g, x.2.instances[n]? = some (id, g) ∧
      y.2.instances[n]? = some (id, g) ∧ SolitaryExports g.exports) :
    borrowedCall engine out' m' id path text y = borrowedCall engine out m id path text x := by
  have got := gain_acquire alike solitary out out' x y ⟨accord, r, found, origin, idle⟩
  unfold borrowedCall
  revert got
  rcases ending (PoolM.acquire engine out id) x with ⟨f | n, s⟩ <;>
    rcases ending (PoolM.acquire engine out' id) y with ⟨f' | n', t⟩ <;> intro got
  · cases got
    rfl
  · cases got
  · cases got
  · cases got with
    | gained abreast =>
      have level : Level (Abreast id n n')
          (PoolM.withInstance n (GuestM.formatText out path text m.toDatum))
          (PoolM.withInstance n' (GuestM.formatText out' path text m'.toDatum)) :=
        level_withInstance fun X w w' solitary =>
          level_formatText_beside solitary path text blank written
      refine congrArg settled (level _ _ ?_).1
      exact ⟨⟨abreast.config, abreast.record⟩, abreast.same⟩

end

end FormatHost
