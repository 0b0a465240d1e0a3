import FormatHost.Pool.Register
import Mathlib.Algebra.GroupWithZero.Nat
import Mathlib.Algebra.BigOperators.Group.Multiset.Basic
import Mathlib.Data.Multiset.AddSub
import Mathlib.Data.Multiset.Count
/-!
# Records under change

What the changes of a pool's records and names do: one record is changed, a name is enrolled, all
plugins are forgotten, and a wish for an instance is met.
-/
namespace FormatHost

namespace PluginRecord

/-! ### Wishes for an instance -/

section

variable {limit : Nat} {r r' : PluginRecord} {n : InstanceId} {rest : List InstanceId}

theorem lease_of_disabled (off : r.status = .disabled) : r.lease limit = .refused := if_pos off

theorem lease_of_idle (on : r.status ≠ .disabled) (waits : r.idle = rest ++ [n]) :
    r.lease limit = .popped n { r with idle := rest, inUse := r.inUse + 1 } := by
  simp [lease, if_neg on, waits]

theorem lease_of_room (on : r.status ≠ .disabled) (empty : r.idle = []) (room : r.inUse < limit) :
    r.lease limit = .reserved { r with inUse := r.inUse + 1 } := by
  simp [lease, if_neg on, empty, total, room]

theorem lease_of_full (on : r.status ≠ .disabled) (empty : r.idle = []) (full : (limit : Int) ≤ r.inUse) :
    r.lease limit = .exhausted := by
  simp [lease, if_neg on, empty, total, full]

/-- A wish is met in one of four ways. -/
theorem lease_cases (limit : Nat) (r : PluginRecord) :
    r.status = .disabled ∨
      r.status ≠ .disabled ∧
        ((∃ rest n, r.idle = rest ++ [n]) ∨
          r.idle = [] ∧ (r.inUse < limit ∨ (limit : Int) ≤ r.inUse)) := by
  rcases eq_or_ne r.status .disabled with off | on
  · exact .inl off
  · refine .inr ⟨on, ?_⟩
    rcases List.eq_nil_or_concat r.idle with empty | ⟨rest, n, waits⟩
    · exact .inr ⟨empty, Int.lt_or_le r.inUse limit⟩
    · exact .inl ⟨rest, n, by simp [waits]⟩

/-- A popped instance was the last idle one. -/
theorem lease_eq_popped_iff :
    r.lease limit = .popped n r' ↔
      r.status ≠ .disabled ∧ ∃ rest, r.idle = rest ++ [n] ∧
        r' = { r with idle := rest, inUse := r.inUse + 1 } := by
  refine ⟨fun leased => ?_, fun ⟨on, rest, waits, changed⟩ => changed ▸ lease_of_idle on waits⟩
  rcases lease_cases limit r with off | ⟨on, ⟨rest, m, waits⟩ | ⟨empty, room | full⟩⟩
  · simp [lease_of_disabled off] at leased
  · rw [lease_of_idle on waits] at leased
    obtain ⟨rfl, rfl⟩ := Lease.popped.inj leased
    exact ⟨on, rest, waits, rfl⟩
  · simp [lease_of_room on empty room] at leased
  · simp [lease_of_full on empty full] at leased

/-- A place is reserved only where no instance is idle and one more place is allowed. -/
theorem lease_eq_reserved_iff :
    r.lease limit = .reserved r' ↔
      r.status ≠ .disabled ∧ r.idle = [] ∧ r.inUse < limit ∧
        r' = { r with inUse := r.inUse + 1 } := by
  refine ⟨fun leased => ?_, fun ⟨on, empty, room, changed⟩ => changed ▸ lease_of_room on empty room⟩
  rcases lease_cases limit r with off | ⟨on, ⟨rest, m, waits⟩ | ⟨empty, room | full⟩⟩
  · simp [lease_of_disabled off] at leased
  · simp [lease_of_idle on waits] at leased
  · rw [lease_of_room on empty room] at leased
    exact ⟨on, empty, room, (Lease.reserved.inj leased).symm⟩
  · simp [lease_of_full on empty full] at leased

/-- All that there may be are lent. -/
theorem lease_eq_exhausted_iff :
    r.lease limit = .exhausted ↔ r.status ≠ .disabled ∧ r.idle = [] ∧ (limit : Int) ≤ r.inUse := by
  refine ⟨fun leased => ?_, fun ⟨on, empty, full⟩ => lease_of_full on empty full⟩
  rcases lease_cases limit r with off | ⟨on, ⟨rest, m, waits⟩ | ⟨empty, room | full⟩⟩
  · simp [lease_of_disabled off] at leased
  · simp [lease_of_idle on waits] at leased
  · simp [lease_of_room on empty room] at leased
  · exact ⟨on, empty, full⟩

end

theorem name_crash (limit : Nat) (reason : String) (r : PluginRecord) :
    (r.crash limit reason).name = r.name := by
  rw [crash]
  split <;> rfl

theorem crashes_crash (limit : Nat) (reason : String) (r : PluginRecord) :
    (r.crash limit reason).crashes = r.crashes + 1 := by
  rw [crash]
  split <;> rfl

/-- The crash that reaches the limit switches the plugin off. -/
theorem status_crash (limit : Nat) (reason : String) (r : PluginRecord) :
    (r.crash limit reason).status = if limit ≤ r.crashes + 1 then .disabled else r.status := by
  rw [crash]
  split <;> rfl

end PluginRecord

namespace Pool

variable {σ ε : Type}

/-- The idle instances of all records. -/
def idles (p : Pool σ ε) : Multiset InstanceId :=
  (p.records.map fun r => (r.idle : Multiset InstanceId)).sum

theorem count_idles (p : Pool σ ε) (n : InstanceId) :
    p.idles.count n = (p.records.map fun r => r.idle.count n).sum := by
  unfold idles
  induction p.records with
  | nil => rfl
  | cons r rest ih => simp [ih]

theorem sum_count_modify {records : List PluginRecord} {id : RecordId} {r : PluginRecord}
    (found : records[id]? = some r) (f : PluginRecord → PluginRecord) (n : InstanceId) :
    ((records.modify id f).map fun r => r.idle.count n).sum + r.idle.count n =
      (records.map fun r => r.idle.count n).sum + (f r).idle.count n := by
  induction records generalizing id with
  | nil => simp at found
  | cons x rest ih =>
    cases id with
    | zero =>
      obtain rfl : x = r := by simpa using found
      simp
      omega
    | succ id =>
      have tail := ih (by simpa using found)
      simp only [List.modify_succ_cons, List.map_cons, List.sum_cons]
      omega

/-- Changing one record exchanges its idle instances. -/
theorem count_idles_updateRecord {p : Pool σ ε} {id : RecordId} {r : PluginRecord}
    (found : p.records[id]? = some r) (f : PluginRecord → PluginRecord) (n : InstanceId) :
    (p.updateRecord id f).idles.count n + r.idle.count n =
      p.idles.count n + (f r).idle.count n := by
  simpa only [count_idles, updateRecord] using sum_count_modify found f n

theorem count_le_idles {p : Pool σ ε} {id : RecordId} {r : PluginRecord}
    (found : p.records[id]? = some r) (n : InstanceId) : r.idle.count n ≤ p.idles.count n := by
  have moved := count_idles_updateRecord found (fun r => { r with idle := [] }) n
  simp only [List.count_nil] at moved
  omega

theorem mem_idles_iff {p : Pool σ ε} {n : InstanceId} :
    n ∈ p.idles ↔ ∃ (id : RecordId) (r : PluginRecord), p.records[id]? = some r ∧ n ∈ r.idle := by
  rw [← Multiset.count_pos, count_idles, List.sum_pos_iff_exists_pos_nat]
  constructor
  · rintro ⟨k, here, positive⟩
    obtain ⟨r, mem, rfl⟩ := List.mem_map.1 here
    obtain ⟨id, found⟩ := List.getElem?_of_mem mem
    exact ⟨id, r, found, List.count_pos_iff.1 positive⟩
  · rintro ⟨id, r, found, waits⟩
    exact ⟨_, List.mem_map.2 ⟨r, List.mem_of_getElem? found, rfl⟩, List.count_pos_iff.2 waits⟩

/-- A record of the changed pool is the changed record or an untouched one. -/
theorem of_getElem?_updateRecord {p : Pool σ ε} {id i : RecordId}
    {f : PluginRecord → PluginRecord} {r' : PluginRecord}
    (found : (p.updateRecord id f).records[i]? = some r') :
    (i = id ∧ ∃ r, p.records[id]? = some r ∧ r' = f r) ∨ (i ≠ id ∧ p.records[i]? = some r') := by
  by_cases same : i = id
  · subst same
    simp only [updateRecord, List.getElem?_modify_eq, Option.map_eq_map,
      Option.map_eq_some_iff] at found
    obtain ⟨r, record, rfl⟩ := found
    exact .inl ⟨rfl, r, record, rfl⟩
  · have untouched : (p.records.modify id f)[i]? = p.records[i]? := by
      simp [Ne.symm same]
    exact .inr ⟨same, untouched ▸ found⟩

theorem getElem?_updateRecord_self {p : Pool σ ε} {id : RecordId} {r : PluginRecord}
    (found : p.records[id]? = some r) (f : PluginRecord → PluginRecord) :
    (p.updateRecord id f).records[id]? = some (f r) := by
  simp [updateRecord, found]

theorem getElem?_updateRecord_ne (p : Pool σ ε) {id i : RecordId} (other : i ≠ id)
    (f : PluginRecord → PluginRecord) :
    (p.updateRecord id f).records[i]? = p.records[i]? := by
  simp [updateRecord, Ne.symm other]

/-- Records keep their names where one record changes and keeps its name. -/
theorem name_updateRecord {p : Pool σ ε} {i id : RecordId} {f : PluginRecord → PluginRecord}
    {r : PluginRecord} (keeps : ∀ x, p.records[i]? = some x → (f x).name = x.name)
    (found : p.records[id]? = some r) :
    ∃ r', (p.updateRecord i f).records[id]? = some r' ∧ r'.name = r.name := by
  by_cases same : id = i
  · subst same
    exact ⟨f r, getElem?_updateRecord_self found f, keeps r found⟩
  · exact ⟨r, (getElem?_updateRecord_ne p same f).trans found, rfl⟩

@[simp] theorem length_updateRecord (p : Pool σ ε) (id : RecordId)
    (f : PluginRecord → PluginRecord) :
    (p.updateRecord id f).records.length = p.records.length := by
  simp [updateRecord]

@[simp] theorem instances_updateRecord (p : Pool σ ε) (id : RecordId)
    (f : PluginRecord → PluginRecord) : (p.updateRecord id f).instances = p.instances := rfl

@[simp] theorem registry_updateRecord (p : Pool σ ε) (id : RecordId)
    (f : PluginRecord → PluginRecord) : (p.updateRecord id f).registry = p.registry := rfl

@[simp] theorem config_updateRecord (p : Pool σ ε) (id : RecordId)
    (f : PluginRecord → PluginRecord) : (p.updateRecord id f).config = p.config := rfl

@[simp] theorem limits_updateRecord (p : Pool σ ε) (id : RecordId)
    (f : PluginRecord → PluginRecord) : (p.updateRecord id f).limits = p.limits := rfl

/-! ### Names -/

theorem mem_enroll {name : String} {id : RecordId} {registry : List (String × RecordId)}
    {e : String × RecordId} (here : e ∈ enroll name id registry) :
    e = (name, id) ∨ e ∈ registry := by
  induction registry with
  | nil => exact .inl (by simpa [enroll] using here)
  | cons x rest ih =>
    rw [enroll] at here
    split at here
    · rcases List.mem_cons.1 here with rfl | here
      · exact .inl rfl
      · exact .inr (List.mem_cons_of_mem _ here)
    · rcases List.mem_cons.1 here with rfl | here
      · exact .inr (List.mem_cons_self ..)
      · exact (ih here).imp_right (List.mem_cons_of_mem _)

/-- Enrolling a name anew keeps it in its place. -/
theorem names_enroll (name : String) (id : RecordId) (registry : List (String × RecordId)) :
    (enroll name id registry).map Prod.fst =
      if name ∈ registry.map Prod.fst then registry.map Prod.fst
      else registry.map Prod.fst ++ [name] := by
  induction registry with
  | nil => rfl
  | cons x rest ih =>
    rw [enroll]
    by_cases same : x.1 = name
    · simp [same]
    · simp only [beq_iff_eq, same, if_false, List.map_cons, ih, List.mem_cons, Ne.symm same,
        false_or]
      split <;> rfl

theorem nodup_enroll {name : String} {id : RecordId} {registry : List (String × RecordId)}
    (names : (registry.map Prod.fst).Nodup) :
    ((enroll name id registry).map Prod.fst).Nodup := by
  rw [names_enroll]
  split
  next => exact names
  next new => exact names.append (List.nodup_singleton name) (by simpa using new)

theorem lookup?_eq_some_iff {p : Pool σ ε} (names : (p.registry.map Prod.fst).Nodup)
    {name : String} {id : RecordId} : p.lookup? name = some id ↔ (name, id) ∈ p.registry := by
  unfold lookup?
  revert names
  induction p.registry with
  | nil => simp
  | cons e rest ih =>
    intro names
    obtain ⟨new, names⟩ := List.nodup_cons.1 names
    by_cases same : e.1 = name
    · subst same
      have absent : (e.1, id) ∉ rest := fun here => new (List.mem_map.2 ⟨_, here, rfl⟩)
      simp [absent, Prod.ext_iff, eq_comm]
    · rw [List.find?_cons_of_neg (by simpa using same), ih names]
      simp [Prod.ext_iff, Ne.symm same]

theorem mem_insertBy {α : Type} (le : α → α → Bool) {a x : α} {xs : List α} :
    a ∈ insertBy le x xs ↔ a = x ∨ a ∈ xs := by
  induction xs with
  | nil => simp [insertBy]
  | cons y rest ih =>
    rw [insertBy]
    split
    next => exact List.mem_cons
    next => rw [List.mem_cons, List.mem_cons, ih, or_left_comm]

theorem mem_foldr_insertBy {α : Type} (le : α → α → Bool) {a : α} {xs : List α} :
    a ∈ xs.foldr (insertBy le) [] ↔ a ∈ xs := by
  induction xs with
  | nil => rfl
  | cons x rest ih => rw [List.foldr_cons, mem_insertBy, ih, List.mem_cons]

theorem mem_registry_of_resolve {p : Pool σ ε} {path : String} {id : RecordId} {r : PluginRecord}
    (resolved : p.resolve path = some (id, r)) :
    p.records[id]? = some r ∧ ∃ name, (name, id) ∈ p.registry := by
  have here := List.mem_of_find?_eq_some resolved
  simp only [sorted, mem_foldr_insertBy, List.mem_filterMap] at here
  obtain ⟨e, entry, same⟩ := here
  obtain ⟨x, record, same⟩ := Option.map_eq_some_iff.1 same
  obtain ⟨rfl, rfl⟩ := Prod.mk.inj same
  exact ⟨record, e.1, entry⟩

/-- A record that handles a path has told what its plugin is, and its plugin was loaded. -/
theorem told_of_resolve {p : Pool σ ε} {path : String} {id : RecordId} {r : PluginRecord}
    (resolved : p.resolve path = some (id, r)) : (∃ info, r.info = some info) ∧ r.status ≠ .degraded := by
  have handles := List.find?_some resolved
  cases told : r.info with
  | none => simp [PluginRecord.handles, told] at handles
  | some info =>
    refine ⟨⟨info, rfl⟩, fun degraded => ?_⟩
    simp [PluginRecord.handles, told, degraded] at handles

/-! ### Shutting down -/

/-- A record of a pool that is shut down is a former one, maybe without its idle instances. -/
theorem of_getElem?_clear {p : Pool σ ε} {i : RecordId} {x : PluginRecord}
    (found : p.clear.records[i]? = some x) :
    ∃ r, p.records[i]? = some r ∧ (x = r ∨ x = { r with idle := [] }) := by
  have general (registry : List (String × RecordId)) (records : List PluginRecord)
      (found : (registry.foldl (fun rs e => rs.modify e.2 fun r => { r with idle := [] })
        records)[i]? = some x) :
      ∃ r, records[i]? = some r ∧ (x = r ∨ x = { r with idle := [] }) := by
    induction registry generalizing records with
    | nil => exact ⟨x, found, .inl rfl⟩
    | cons e rest ih =>
      obtain ⟨r, there, former⟩ := ih _ found
      rw [List.getElem?_modify] at there
      split at there
      · obtain ⟨r, record, rfl⟩ := Option.map_eq_some_iff.1 there
        exact ⟨r, record, .inr (by simpa using former)⟩
      · exact ⟨r, by simpa using there, former⟩
  exact general p.registry p.records found

theorem length_clear (p : Pool σ ε) : p.clear.records.length = p.records.length := by
  have general (registry : List (String × RecordId)) (records : List PluginRecord) :
      (registry.foldl (fun rs e => rs.modify e.2 fun r => { r with idle := [] }) records).length =
        records.length := by
    induction registry generalizing records with
    | nil => rfl
    | cons e rest ih => simpa using ih (records.modify e.2 fun r => { r with idle := [] })
  exact general p.registry p.records

/-- Every former record is there, maybe without its idle instances. -/
theorem exists_getElem?_clear {p : Pool σ ε} {i : RecordId} {r : PluginRecord}
    (found : p.records[i]? = some r) : ∃ idle, p.clear.records[i]? = some { r with idle } := by
  have known : i < p.clear.records.length :=
    (List.getElem?_eq_some_iff.1 found).1.trans_eq (length_clear p).symm
  have there := List.getElem?_eq_getElem known
  obtain ⟨x, former, same | same⟩ := of_getElem?_clear there
  all_goals obtain rfl : r = x := Option.some.inj (found.symm.trans former)
  · exact ⟨r.idle, there.trans (congrArg some same)⟩
  · exact ⟨[], there.trans (congrArg some same)⟩

theorem count_idles_clear (p : Pool σ ε) (m : InstanceId) : p.clear.idles.count m ≤ p.idles.count m := by
  have general (registry : List (String × RecordId)) (records : List PluginRecord) :
      ((registry.foldl (fun rs e => rs.modify e.2 fun r => { r with idle := [] }) records).map
        fun r => r.idle.count m).sum ≤ (records.map fun r => r.idle.count m).sum := by
    induction registry generalizing records with
    | nil => exact le_rfl
    | cons e rest ih =>
      rw [List.foldl_cons]
      refine (ih _).trans ?_
      cases found : records[e.2]? with
      | none =>
        rw [List.modify_eq_self (List.getElem?_eq_none_iff.1 found)]
      | some r =>
        have moved := sum_count_modify found (fun r => { r with idle := [] }) m
        simp only [List.count_nil] at moved
        omega
  rw [count_idles, count_idles]
  exact general p.registry p.records

end Pool

end FormatHost
