import FormatHost.Proofs.Pool.Balance
/-!
# Every section keeps the balance

One lemma for each section of a thread, and from them the balance of every ledger that a pool can get
to.
-/
namespace FormatHost.Ledger.Balanced
open Pool

variable {σ ε : Type} {h : Habit σ ε} {s : Ledger σ ε} {p : Pool σ ε} {ls : Multiset Loan}
  {retired : Multiset InstanceId} {id : RecordId} {n : InstanceId} {r r' : PluginRecord}
  {g g' : Instance σ ε}

/-- A change of a record that shows in no account. -/
theorem touch {f : PluginRecord → PluginRecord} (b : Balanced h s)
    (idle : ∀ r, (f r).idle = r.idle) (inUse : ∀ r, (f r).inUse = r.inUse)
    (name : ∀ r, (f r).name = r.name) (info : ∀ r, (f r).info = r.info)
    (usable : ∀ r, s.pool.records[id]? = some r → (f r).status ≠ .degraded →
      r.status ≠ .degraded) :
    Balanced h ⟨s.pool.updateRecord id f, s.loans, s.retired⟩ := by
  cases found : s.pool.records[id]? with
  | none =>
    have unchanged : s.pool.updateRecord id f = s.pool := by
      rw [Pool.updateRecord, List.modify_eq_self (List.getElem?_eq_none_iff.1 found)]
    rwa [unchanged]
  | some r =>
    have e : Exchange h s.pool id r f 0 0 s.loans 0 :=
      { found
        mine := by simp
        made := by simp
        stay := by simp [idle]
        inUse := by simp [inUse]
        capacity := by simp [idle, inUse]
        idle := fun m waits => .inl (idle r ▸ waits)
        opener := by simp
        shut := by simp
        blank := by
          intro m told mine before
          rw [idle, info]
          exact before m told mine
        name := name r
        ready := by
          intro after done before
          rw [info]
          exact before (usable r found after) done }
    simpa using exchange_zero e b

theorem count (b : Balanced h s) (id : RecordId) :
    Balanced h ⟨s.pool.updateRecord id PluginRecord.countCreated, s.loans, s.retired⟩ :=
  b.touch (fun _ => rfl) (fun _ => rfl) (fun _ => rfl) (fun _ => rfl) fun _ _ usable => usable

theorem succeed (b : Balanced h s) (id : RecordId) :
    Balanced h ⟨s.pool.updateRecord id PluginRecord.succeed, s.loans, s.retired⟩ :=
  b.touch (fun _ => rfl) (fun _ => rfl) (fun _ => rfl) (fun _ => rfl) fun _ _ usable => usable

theorem crash {limit : Nat} {reason : String} (b : Balanced h s)
    (found : s.pool.records[id]? = some r) (usable : r.status ≠ .degraded) :
    Balanced h
      ⟨s.pool.updateRecord id (PluginRecord.crash limit reason), s.loans, s.retired⟩ := by
  refine b.touch (fun r => ?_) (fun r => ?_) (fun r => ?_) (fun r => ?_) fun x there _ => ?_
  · rw [PluginRecord.crash]; split <;> rfl
  · rw [PluginRecord.crash]; split <;> rfl
  · rw [PluginRecord.crash]; split <;> rfl
  · rw [PluginRecord.crash]; split <;> rfl
  · obtain rfl : r = x := Option.some.inj (found.symm.trans there)
    exact usable

theorem not_registering (entered : s.Entered id) (m : Option InstanceId)
    (told : Option PluginInfo) : .registering id m told ∉ s.loans := by
  intro mine
  simpa using entered _ mine

theorem pop (b : Balanced h s) (entered : s.Entered id) (found : s.pool.records[id]? = some r)
    (lease : r.lease s.pool.limits.maxInstances = .popped n r') :
    Balanced h ⟨s.pool.updateRecord id fun _ => r', .lent id n ::ₘ s.loans, s.retired⟩ := by
  obtain ⟨-, idle, last, rfl⟩ := PluginRecord.lease_eq_popped_iff.1 lease
  obtain ⟨g, there, -⟩ := b.idle id r n found (by simp [last])
  have e : Exchange h s.pool id r (fun _ => { r with idle, inUse := r.inUse + 1 })
      0 {.lent id n} s.loans 0 :=
    { found
      mine := by simp
      made := by simp [Loan.account, there]
      stay := by
        intro m
        by_cases same : n = m <;> simp [last, same, countP_singleton]
      inUse := by simp [countP_singleton]
      capacity := by
        intro before
        simp only [last, List.length_append, List.length_singleton] at before ⊢
        omega
      idle := fun m waits => .inl (by simp [last, waits])
      opener := by simp [countP_singleton]
      shut := .inr (.inl (by simpa using opens_eq_zero entered))
      blank := fun m told mine => absurd (by simpa using mine) (not_registering entered m told)
      name := rfl
      ready := fun usable done before => before usable fun m told mine => by simp_all }
  simpa using exchange_zero e b

theorem reserve (b : Balanced h s) (entered : s.Entered id)
    (found : s.pool.records[id]? = some r)
    (lease : r.lease s.pool.limits.maxInstances = .reserved r') :
    Balanced h ⟨s.pool.updateRecord id fun _ => r', .making id none ::ₘ s.loans, s.retired⟩ := by
  obtain ⟨-, empty, room, rfl⟩ := PluginRecord.lease_eq_reserved_iff.1 lease
  have e : Exchange h s.pool id r (fun _ => { r with inUse := r.inUse + 1 })
      0 {.making id none} s.loans 0 :=
    { found
      mine := by simp
      made := by simp [Loan.account]
      stay := by simp [countP_singleton]
      inUse := by simp [countP_singleton]
      capacity := by simp [empty]; omega
      idle := by simp [empty]
      opener := by simp [countP_singleton]
      shut := .inr (.inl (by simpa using opens_eq_zero entered))
      blank := fun m told mine => absurd (by simpa using mine) (not_registering entered m told)
      name := rfl
      ready := fun usable done before => before usable fun m told mine => by simp_all }
  simpa using exchange_zero e b

theorem lend (b : Balanced h ⟨p, .making id (some n) ::ₘ ls, retired⟩) :
    Balanced h ⟨p, .lent id n ::ₘ ls, retired⟩ := by
  obtain ⟨g, there⟩ := b.owner _ (Multiset.mem_cons_self _ _) n rfl
  have known : id < p.records.length := b.known _ (Multiset.mem_cons_self _ _)
  have e : Exchange h p id p.records[id] (fun r => r) {.making id (some n)} {.lent id n} ls 0 :=
    { found := List.getElem?_eq_getElem known
      mine := by simp [Loan.account]
      made := by simp [Loan.account, there]
      stay := by simp [countP_singleton]
      inUse := by simp [countP_singleton]
      capacity := fun before => before
      idle := fun m waits => .inl waits
      opener := by simp [countP_singleton]
      shut := by simp [countP_singleton]
      blank := fun m told mine before => before m told (by simpa using mine)
      name := rfl
      ready := fun usable done before => before usable fun m told mine => done m told (by simp_all) }
  have unchanged : p.updateRecord id (fun r => r) = p := by
    have same : p.records.modify id (fun r => r) = p.records := List.modify_id id p.records
    rw [Pool.updateRecord, same]
  simpa [unchanged] using exchange e b

theorem abandon {made : Option InstanceId}
    (b : Balanced h ⟨p, .making id made ::ₘ ls, retired⟩) :
    Balanced h ⟨p.updateRecord id PluginRecord.abandon, ls, made.toList + retired⟩ := by
  have known : id < p.records.length := b.known _ (Multiset.mem_cons_self _ _)
  have e : Exchange h p id p.records[id] PluginRecord.abandon {.making id made} 0 ls
      made.toList :=
    { found := List.getElem?_eq_getElem known
      mine := by simp [Loan.account]
      made := by simp
      stay := by
        intro m
        cases made with
        | none => simp [PluginRecord.abandon, countP_singleton]
        | some n =>
          rcases eq_or_ne n m with rfl | other
          · simp [PluginRecord.abandon, countP_singleton]
          · simp [PluginRecord.abandon, countP_singleton, other, other.symm]
      inUse := by simp [PluginRecord.abandon, countP_singleton]
      capacity := by
        intro before
        simp only [PluginRecord.abandon]
        omega
      idle := fun m waits => .inl waits
      opener := by simp
      shut := by simp
      blank := fun m told mine before => before m told (by simpa using mine)
      name := rfl
      ready := fun usable done before => before usable fun m told mine => done m told (by simp_all) }
  simpa using exchange e b

theorem release (b : Balanced h ⟨p, .lent id n ::ₘ ls, retired⟩)
    (found : p.instances[n]? = some (id, g)) :
    Balanced h ⟨p.updateRecord id (PluginRecord.release n g.poisoned), ls,
      (if g.poisoned then {n} else 0) + retired⟩ := by
  have known : id < p.records.length := b.known _ (Multiset.mem_cons_self _ _)
  have e : Exchange h p id p.records[id] (PluginRecord.release n g.poisoned) {.lent id n} 0 ls
      (if g.poisoned then {n} else 0) :=
    { found := List.getElem?_eq_getElem known
      mine := by simp [Loan.account]
      made := by simp
      stay := by
        intro m
        rcases eq_or_ne n m with rfl | other
        · cases g.poisoned <;> simp [PluginRecord.release, countP_singleton]
        · cases g.poisoned <;> simp [PluginRecord.release, countP_singleton, other, other.symm]
      inUse := by simp [PluginRecord.release, countP_singleton]
      capacity := by
        intro before
        cases poisoned : g.poisoned <;> simp [PluginRecord.release] at before ⊢ <;> omega
      idle := by
        intro m waits
        cases poisoned : g.poisoned
        · rw [PluginRecord.release, poisoned] at waits
          rcases List.mem_append.1 waits with before | new
          · exact .inl before
          · exact .inr (List.mem_singleton.1 new ▸ ⟨g, found, poisoned⟩)
        · exact .inl (by simpa [PluginRecord.release, poisoned] using waits)
      opener := by simp
      shut := by simp
      blank := by
        intro m told mine
        have none : (Loan.lent id n ::ₘ ls).countP (·.opens id) = 0 := by
          have shut := b.shut id
          simp only [Multiset.countP_cons, Loan.charges_lent, beq_self_eq_true, Loan.opens_lent,
            Bool.false_eq_true, if_true, if_false] at shut ⊢
          omega
        rw [Multiset.countP_eq_zero] at none
        exact absurd (by simp) (none (.registering id m told) (by simp_all))
      name := rfl
      ready := fun usable done before => before usable fun m told mine => done m told (by simp_all) }
  simpa using exchange e b

/-- Nobody else opens a record while its plugin is being loaded. -/
theorem alone {m : Option InstanceId} {told : Option PluginInfo}
    (b : Balanced h ⟨p, .registering id m told ::ₘ ls, retired⟩) (m' : Option InstanceId)
    (told' : Option PluginInfo) : .registering id m' told' ∉ ls := by
  intro mine
  have opener := b.opener id
  have another : 0 < ls.countP (·.opens id) := Multiset.countP_pos_of_mem mine (by simp)
  simp only [Multiset.countP_cons, Loan.opens_registering, beq_self_eq_true, if_true] at opener
  omega

theorem describe {m : Option InstanceId} {told : Option PluginInfo}
    (b : Balanced h ⟨p, .registering id m told ::ₘ ls, retired⟩) (info : PluginInfo) :
    Balanced h ⟨p.updateRecord id fun r => { r with info := some info },
      .registering id m (some info) ::ₘ ls, retired⟩ := by
  have known : id < p.records.length := b.known _ (Multiset.mem_cons_self _ _)
  have e : Exchange h p id p.records[id] (fun r => { r with info := some info })
      {.registering id m told} {.registering id m (some info)} ls 0 :=
    { found := List.getElem?_eq_getElem known
      mine := by simp [Loan.account]
      made := by
        intro l mine
        obtain rfl := Multiset.mem_singleton.1 mine
        exact ⟨rfl, fun n number => b.owner _ (Multiset.mem_cons_self _ _) n number⟩
      stay := by
        intro k
        by_cases same : m = some k <;> simp [countP_singleton, same]
      inUse := by simp [countP_singleton]
      capacity := fun before => before
      idle := fun m waits => .inl waits
      opener := by simp [countP_singleton]
      shut := by simp [countP_singleton]
      blank := by
        intro m' told' mine before
        rcases Multiset.mem_add.1 mine with new | rest
        · obtain ⟨-, -, rfl⟩ := Loan.registering.inj (Multiset.mem_singleton.1 new)
          exact ⟨(before m told (by simp)).1, rfl⟩
        · exact absurd rest (b.alone m' told')
      name := rfl
      ready := fun _ done => absurd (by simp) (done m (some info)) }
  simpa using exchange e b

theorem accept {told : Option PluginInfo} (b : Balanced h ⟨p, .registering id (some n) told ::ₘ ls, retired⟩)
    (found : p.instances[n]? = some (id, g)) (healthy : g.poisoned = false)
    (ready : h.ready p.config told) :
    Balanced h ⟨p.updateRecord id (PluginRecord.ready n), .entering id ::ₘ ls, retired⟩ := by
  have known : id < p.records.length := b.known _ (Multiset.mem_cons_self _ _)
  obtain ⟨r, record⟩ : ∃ r, p.records[id]? = some r := ⟨_, List.getElem?_eq_getElem known⟩
  obtain ⟨empty, rfl⟩ := b.blank id (some n) told r (Multiset.mem_cons_self _ _) record
  have free : r.inUse = 0 := by
    have shut := b.shut id
    have inUse := b.inUse id r record
    simp only [Multiset.countP_cons, Loan.opens_registering, beq_self_eq_true, if_true] at shut inUse
    omega
  have e : Exchange h p id r (PluginRecord.ready n) {.registering id (some n) r.info}
      {.entering id} ls 0 :=
    { found := record
      mine := by simp [Loan.account]
      made := by simp [Loan.account]
      stay := by
        intro m
        rcases eq_or_ne n m with rfl | other
        · simp [PluginRecord.ready, countP_singleton, empty]
        · simp [PluginRecord.ready, countP_singleton, empty, other]
      inUse := by simp [PluginRecord.ready, countP_singleton]
      capacity := by
        have room := p.limits.one_le_maxInstances
        simp [PluginRecord.ready, empty, free]
        omega
      idle := by
        intro m waits
        obtain rfl : m = n := by simpa [PluginRecord.ready, empty] using waits
        exact .inr ⟨g, found, healthy⟩
      opener := by simp [countP_singleton]
      shut := by simp [countP_singleton]
      blank := by
        intro m told there
        exact absurd (by simpa using there) (b.alone m told)
      name := rfl
      ready := fun usable done before => ready }
  simpa using exchange e b

theorem reject {made : Option InstanceId} {told : Option PluginInfo} {reason : String}
    (b : Balanced h ⟨p, .registering id made told ::ₘ ls, retired⟩) :
    Balanced h ⟨p.updateRecord id (PluginRecord.degrade reason), .entering id ::ₘ ls,
      made.toList + retired⟩ := by
  have known : id < p.records.length := b.known _ (Multiset.mem_cons_self _ _)
  have e : Exchange h p id p.records[id] (PluginRecord.degrade reason) {.registering id made told}
      {.entering id} ls made.toList :=
    { found := List.getElem?_eq_getElem known
      mine := by simp [Loan.account]
      made := by simp [Loan.account]
      stay := by
        intro m
        cases made with
        | none => simp [PluginRecord.degrade, countP_singleton]
        | some n =>
          rcases eq_or_ne n m with rfl | other
          · simp [PluginRecord.degrade, countP_singleton]
          · simp [PluginRecord.degrade, countP_singleton, other, other.symm]
      inUse := by simp [PluginRecord.degrade, countP_singleton]
      capacity := fun before => before
      idle := fun m waits => .inl waits
      opener := by simp [countP_singleton]
      shut := by simp [countP_singleton]
      blank := by
        intro m told there
        exact absurd (by simpa using there) (b.alone m told)
      name := rfl
      ready := fun usable => absurd rfl usable }
  simpa using exchange e b

/-- An instance in hand is not idle. -/
theorem not_idle (b : Balanced h s) {l : Loan} (mine : l ∈ s.loans) (number : l.number? = some n)
    (found : s.pool.records[id]? = some r) : n ∉ r.idle := by
  intro waits
  have inHand : 0 < s.loans.countP (·.number? = some n) :=
    Multiset.countP_pos_of_mem mine number
  have isIdle : 0 < s.pool.idles.count n :=
    Multiset.count_pos.2 (mem_idles_iff.2 ⟨id, r, found, waits⟩)
  have stay := b.stay n
  simp only [stays] at stay
  split at stay <;> omega

theorem drive (b : Balanced h s) {l : Loan} (mine : l ∈ s.loans) (number : l.number? = some n)
    (found : s.pool.instances[n]? = some (l.account, g)) :
    Balanced h ⟨withState s.pool n l.account g', s.loans, s.retired⟩ := by
  have known : n < s.pool.instances.length := (List.getElem?_eq_some_iff.1 found).1
  exact
    { b with
      stay := by
        intro m
        have stay := b.stay m
        simpa [stays, withState, Pool.idles] using stay
      idle := by
        intro i x m record waits
        obtain ⟨g, there, healthy⟩ := b.idle i x m record waits
        have other : n ≠ m := fun same => b.not_idle mine number record (same ▸ waits)
        exact ⟨g, by simpa [withState, other] using there, healthy⟩
      owner := by
        intro l' mine' m number'
        obtain ⟨x, there⟩ := b.owner l' mine' m number'
        by_cases same : n = m
        · subst same
          have account : l.account = l'.account :=
            congrArg Prod.fst (Option.some.inj (found.symm.trans there))
          exact ⟨g', by simp [withState, known, account]⟩
        · exact ⟨x, by simpa [withState, same] using there⟩ }

/-- A new instance goes to the thread that loads it. -/
theorem grow {loan : Option InstanceId → Loan} (b : Balanced h ⟨p, loan none ::ₘ ls, retired⟩)
    (kind : loan = .making id ∨ ∃ told, loan = (.registering id · told)) :
    Balanced h ⟨withNew p id g, loan (some p.instances.length) ::ₘ ls, retired⟩ := by
  have account (m : Option InstanceId) : (loan m).account = id := by
    rcases kind with rfl | ⟨told, rfl⟩ <;> rfl
  have number (m : Option InstanceId) : (loan m).number? = m := by
    rcases kind with rfl | ⟨told, rfl⟩ <;> rfl
  have charges (m : Option InstanceId) (i : RecordId) :
      (loan m ::ₘ ls).countP (·.charges i) = (loan none ::ₘ ls).countP (·.charges i) := by
    rcases kind with rfl | ⟨told, rfl⟩ <;> simp [Multiset.countP_cons]
  have opens (m : Option InstanceId) (i : RecordId) :
      (loan m ::ₘ ls).countP (·.opens i) = (loan none ::ₘ ls).countP (·.opens i) := by
    rcases kind with rfl | ⟨told, rfl⟩ <;> simp [Multiset.countP_cons]
  have registering (m : Option InstanceId) (i : RecordId) (told : Option PluginInfo) :
      (∃ m', .registering i m' told ∈ loan m ::ₘ ls) ↔
        ∃ m', .registering i m' told ∈ loan none ::ₘ ls := by
    rcases kind with rfl | ⟨told', rfl⟩ <;> simp [exists_or]
  have old (m : InstanceId) {x : RecordId × Instance σ ε} (found : p.instances[m]? = some x) :
      (withNew p id g).instances[m]? = some x :=
    (List.getElem?_append_left (List.getElem?_eq_some_iff.1 found).1).trans found
  constructor
  case stay =>
    intro m
    have stay := b.stay m
    simp only [stays, Multiset.countP_cons, number, reduceCtorEq, if_false] at stay
    simp only [stays, Multiset.countP_cons, number, Option.some.injEq, withNew, List.length_append,
      List.length_singleton, Pool.idles] at stay ⊢
    rcases Nat.lt_trichotomy m p.instances.length with less | rfl | more
    · rw [if_pos less] at stay
      rw [if_neg less.ne', if_pos (Nat.lt_succ_of_lt less)]
      exact stay
    · rw [if_neg (Nat.lt_irrefl _)] at stay
      rw [if_pos rfl, if_pos (Nat.lt_succ_self _)]
      omega
    · rw [if_neg more.not_gt] at stay
      rw [if_neg more.ne, if_neg (Nat.not_lt.2 more)]
      exact stay
  case inUse => exact fun i x found => charges (some p.instances.length) i ▸ b.inUse i x found
  case capacity => exact b.capacity
  case idle =>
    intro i x m found waits
    obtain ⟨g, there, healthy⟩ := b.idle i x m found waits
    exact ⟨g, old m there, healthy⟩
  case owner =>
    intro l mine m there
    rcases Multiset.mem_cons.1 mine with rfl | mine
    · obtain rfl : p.instances.length = m := by simpa [number] using there
      exact ⟨g, by simp [withNew, account]⟩
    · obtain ⟨x, found⟩ := b.owner l (Multiset.mem_cons_of_mem mine) m there
      exact ⟨x, old m found⟩
  case known =>
    intro l mine
    rcases Multiset.mem_cons.1 mine with rfl | mine
    · have known : (loan none).account < p.records.length := b.known _ (Multiset.mem_cons_self _ _)
      rw [account] at known ⊢
      exact known
    · exact b.known l (Multiset.mem_cons_of_mem mine)
  case opener => exact fun i => opens (some p.instances.length) i ▸ b.opener i
  case shut =>
    intro i
    rw [opens (some p.instances.length) i, charges (some p.instances.length) i]
    exact b.shut i
  case blank =>
    intro i m told x mine found
    obtain ⟨m', there⟩ := (registering _ i told).1 ⟨m, mine⟩
    exact b.blank i m' told x there found
  case registered =>
    intro entry here
    obtain ⟨entered, record⟩ := b.registered entry here
    refine ⟨?_, record⟩
    have none := opens_eq_zero entered
    rw [← opens (some p.instances.length), Multiset.countP_eq_zero] at none
    exact fun l mine => by simpa using none l mine
  case names => exact b.names
  case ready =>
    intro i x found usable done
    refine b.ready i x found usable fun m told mine => ?_
    obtain ⟨m', there⟩ := (registering (some p.instances.length) i told).2 ⟨m, mine⟩
    exact done m' told there

theorem enter (b : Balanced h ⟨p, .entering id ::ₘ ls, retired⟩)
    (record : p.records[id]? = some r) : Balanced h ⟨p.enter r.name id, ls, retired⟩ := by
  have alone : ls.countP (·.opens id) = 0 := by
    have opener := b.opener id
    simp only [Multiset.countP_cons, Loan.opens_entering, beq_self_eq_true, if_true] at opener
    omega
  constructor
  case stay =>
    intro m
    refine Eq.trans ?_ (b.stay m)
    simp [stays, Pool.enter, Pool.idles]
  case inUse => simpa [Pool.enter] using b.inUse
  case capacity => exact b.capacity
  case idle => exact b.idle
  case owner => exact fun l mine => b.owner l (Multiset.mem_cons_of_mem mine)
  case known => exact fun l mine => b.known l (Multiset.mem_cons_of_mem mine)
  case opener =>
    exact fun i => (Multiset.countP_le_of_le _ (Multiset.le_cons_self _ _)).trans (b.opener i)
  case shut =>
    intro i
    have shut := b.shut i
    simp only [Multiset.countP_cons] at shut ⊢
    omega
  case blank => exact fun i m told x mine => b.blank i m told x (Multiset.mem_cons_of_mem mine)
  case registered =>
    intro e here
    rcases mem_enroll here with rfl | here
    · refine ⟨fun l mine => ?_, r, record, rfl⟩
      rw [Multiset.countP_eq_zero] at alone
      simpa using alone l mine
    · obtain ⟨entered, found⟩ := b.registered e here
      exact ⟨fun l mine => entered l (Multiset.mem_cons_of_mem mine), found⟩
  case names => exact nodup_enroll b.names
  case ready =>
    intro i x found usable done
    exact b.ready i x found usable fun m told mine => done m told (by simpa using mine)

theorem clear (b : Balanced h s) :
    Balanced h ⟨s.pool.clear, s.loans, (s.pool.idles - s.pool.clear.idles) + s.retired⟩ := by
  constructor
  case stay =>
    intro m
    refine Eq.trans ?_ (b.stay m)
    have less := count_idles_clear s.pool m
    simp only [stays, Multiset.count_add, Multiset.count_sub]
    omega
  case inUse =>
    intro i x found
    obtain ⟨r, record, rfl | rfl⟩ := of_getElem?_clear found
    · exact b.inUse i x record
    · exact b.inUse i r record
  case capacity =>
    intro i x found
    obtain ⟨r, record, rfl | rfl⟩ := of_getElem?_clear found
    · exact b.capacity i x record
    · have capacity := b.capacity i r record
      simp only [List.length_nil]
      exact le_trans (by omega) capacity
  case idle =>
    intro i x m found waits
    obtain ⟨r, record, rfl | rfl⟩ := of_getElem?_clear found
    · exact b.idle i x m record waits
    · simp at waits
  case owner => exact b.owner
  case known => exact fun l mine => (b.known l mine).trans_eq (length_clear _).symm
  case opener => exact b.opener
  case shut => exact b.shut
  case blank =>
    intro i m told x mine found
    obtain ⟨r, record, rfl | rfl⟩ := of_getElem?_clear found
    · exact b.blank i m told x mine record
    · exact ⟨rfl, (b.blank i m told r mine record).2⟩
  case registered => simp [Pool.clear]
  case names => simp [Pool.clear]
  case ready =>
    intro i x found usable done
    obtain ⟨r, record, rfl | rfl⟩ := of_getElem?_clear found
    · exact b.ready i x record usable done
    · exact b.ready i r record usable done

theorem note (b : Balanced h s) (same : SameAccounts s.pool p) :
    Balanced h ⟨p, s.loans, s.retired⟩ := by
  obtain ⟨config, records, registry, instances⟩ := same
  have limits : p.limits = s.pool.limits := congrArg PoolConfig.limits config
  exact
    { b with
      stay := by simpa [stays, Pool.idles, records, instances] using b.stay
      inUse := by simpa [records] using b.inUse
      capacity := by simpa [records, limits] using b.capacity
      idle := by simpa [records, instances] using b.idle
      owner := by simpa [instances] using b.owner
      known := by simpa [records] using b.known
      blank := by simpa [records] using b.blank
      registered := by simpa [registry, records, Entered] using b.registered
      names := by simpa [registry] using b.names
      ready := by simpa [records, config] using b.ready }

theorem create (b : Balanced h s) (name : String) (moduleBytes : Bytes) :
    Balanced h ⟨{ s.pool with records := s.pool.records ++ [.fresh name moduleBytes] },
      .registering s.pool.records.length none none ::ₘ s.loans, s.retired⟩ := by
  have fromFormer (i : RecordId) (x : PluginRecord)
      (found : (s.pool.records ++ [.fresh name moduleBytes])[i]? = some x) :
      s.pool.records[i]? = some x ∨
        i = s.pool.records.length ∧ x = .fresh name moduleBytes := by
    rcases Nat.lt_trichotomy i s.pool.records.length with less | rfl | more
    · exact .inl (by rwa [List.getElem?_append_left less] at found)
    · exact .inr ⟨rfl, by simpa [eq_comm] using found⟩
    · rw [List.getElem?_eq_none (by simpa using Nat.succ_le_of_lt more)] at found
      contradiction
  have new (l : Loan) (mine : l ∈ s.loans) : l.account ≠ s.pool.records.length :=
    (b.known l mine).ne
  have noCharges := Loan.countP_charges_eq_zero new
  have noOpens := Loan.countP_opens_eq_zero new
  constructor
  case stay =>
    intro m
    refine Eq.trans ?_ (b.stay m)
    simp [stays, Pool.idles, PluginRecord.fresh]
  case inUse =>
    intro i x found
    rcases fromFormer i x found with found | ⟨rfl, rfl⟩
    · simpa [Multiset.countP_cons] using b.inUse i x found
    · simp [PluginRecord.fresh, noCharges]
  case capacity =>
    intro i x found
    rcases fromFormer i x found with found | ⟨-, rfl⟩
    · exact b.capacity i x found
    · simp [PluginRecord.fresh]
  case idle =>
    intro i x m found waits
    rcases fromFormer i x found with found | ⟨-, rfl⟩
    · exact b.idle i x m found waits
    · simp [PluginRecord.fresh] at waits
  case owner =>
    intro l mine m there
    rcases Multiset.mem_cons.1 mine with rfl | mine
    · simp at there
    · exact b.owner l mine m there
  case known =>
    intro l mine
    rcases Multiset.mem_cons.1 mine with rfl | mine
    · simp [Loan.account]
    · rw [List.length_append]
      exact Nat.lt_add_right _ (b.known l mine)
  case opener =>
    intro i
    by_cases same : s.pool.records.length = i
    · subst same
      simp [noOpens]
    · simpa [Multiset.countP_cons, same] using b.opener i
  case shut =>
    intro i
    by_cases same : s.pool.records.length = i
    · subst same
      exact .inr (by simpa [Multiset.countP_cons] using noCharges)
    · simpa [Multiset.countP_cons, same] using b.shut i
  case blank =>
    intro i m told x mine found
    rcases fromFormer i x found with found | ⟨rfl, rfl⟩
    · rcases Multiset.mem_cons.1 mine with same | mine
      · obtain ⟨rfl, -⟩ := Loan.registering.inj same
        simp at found
      · exact b.blank i m told x mine found
    · rcases Multiset.mem_cons.1 mine with same | mine
      · obtain ⟨-, -, rfl⟩ := Loan.registering.inj same
        exact ⟨rfl, rfl⟩
      · exact absurd rfl (new _ mine)
  case registered =>
    intro entry here
    obtain ⟨entered, x, found, bears⟩ := b.registered entry here
    have less := (List.getElem?_eq_some_iff.1 found).1
    refine ⟨?_, x, (List.getElem?_append_left less).trans found, bears⟩
    intro l mine
    rcases Multiset.mem_cons.1 mine with rfl | mine
    · simpa using less.ne'
    · exact entered l mine
  case names => exact b.names
  case ready =>
    intro i x found usable done
    rcases fromFormer i x found with found | ⟨rfl, -⟩
    · exact b.ready i x found usable fun m told mine =>
        done m told (Multiset.mem_cons_of_mem mine)
    · exact absurd (Multiset.mem_cons_self _ _) (done none none)

theorem empty (config : PoolConfig) : Balanced h (Ledger.empty config : Ledger σ ε) := by
  constructor <;> simp [Ledger.empty, Pool.empty, stays, Pool.idles]

/-- Every section of a thread keeps the accounts balanced. -/
theorem step {s' : Ledger σ ε} (b : Balanced h s) (st : Step h s s') : Balanced h s' := by
  cases st with
  | pop entered found lease => exact b.pop entered found lease
  | reserve entered found lease => exact b.reserve entered found lease
  | load loaded => exact b.grow (.inl rfl)
  | drive mine number found driven => exact b.drive mine number found
  | count id => exact b.count id
  | lend found healthy fit => exact b.lend
  | abandon => exact b.abandon
  | release found => exact b.release found
  | crash mine found usable => exact b.crash found usable
  | succeed id => exact b.succeed id
  | create name moduleBytes => exact b.create name moduleBytes
  | loadFirst loaded => exact b.grow (.inr ⟨_, rfl⟩)
  | describe info => exact b.describe info
  | accept found healthy fit ready => exact b.accept found healthy ready
  | reject => exact b.reject
  | enter record => exact b.enter record
  | clear => exact b.clear
  | note same => exact b.note same

theorem steps {s' : Ledger σ ε} (b : Balanced h s) (st : Steps h s s') : Balanced h s' := by
  induction st with
  | refl => exact b
  | tail _ st ih => exact ih.step st

/-- The accounts of every pool balance, whatever its threads do. -/
theorem of_reachable {config : PoolConfig} (reachable : Reachable h config s) : Balanced h s :=
  (empty config).steps reachable

end FormatHost.Ledger.Balanced
