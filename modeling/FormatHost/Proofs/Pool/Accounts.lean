import FormatHost.Proofs.Pool.Upkeep
/-!
# Accounts and exclusivity

What a maintainer of a pool relies on, in every ledger that any number of threads can get to: the
counts of places are right, no instance is in two hands, a poisoned instance is out of use for good,
and a record that was replaced is not asked again.
-/
namespace FormatHost.Ledger
open Pool

variable {σ ε : Type} {h : Habit σ ε} {config : PoolConfig} {s s' : Ledger σ ε}

/-- An instance that is not out of use. -/
def Live (s : Ledger σ ε) (n : InstanceId) : Prop :=
  n < s.pool.instances.length ∧ n ∉ s.retired

/-- An instance is in nobody's hand. -/
def OffHand (s : Ledger σ ε) (n : InstanceId) : Prop := ∀ l ∈ s.loans, l.number? ≠ some n

/-- An instance is idle nowhere. -/
def Away (s : Ledger σ ε) (n : InstanceId) : Prop :=
  ∀ (id : RecordId) (r : PluginRecord), s.pool.records[id]? = some r → n ∉ r.idle

/-- An instance waits at a record, once and nowhere else. -/
def Waits (s : Ledger σ ε) (id : RecordId) (n : InstanceId) : Prop :=
  (∃ r, s.pool.records[id]? = some r ∧ r.idle.count n = 1) ∧
    ∀ (i : RecordId) (r : PluginRecord), s.pool.records[i]? = some r → n ∈ r.idle → i = id

/-- An instance is in one hand, that of a thread that deals with a record. -/
def Held (s : Ledger σ ε) (id : RecordId) (n : InstanceId) : Prop :=
  s.loans.countP (·.number? = some n) = 1 ∧ ∀ l ∈ s.loans, l.number? = some n → l.account = id

/-- The accounts of all records, those included that were replaced or shut down. -/
structure Accounts (s : Ledger σ ε) : Prop where
  /-- The places in use are the lent instances and the makings that go on. -/
  inUse : ∀ (id : RecordId) (r : PluginRecord), s.pool.records[id]? = some r →
    r.inUse = ((s.lentOf id).card : Int) + (s.makingsOf id).card
  /-- No record has more places than the limit. -/
  capacity : ∀ (id : RecordId) (r : PluginRecord), s.pool.records[id]? = some r →
    r.idle.length + r.inUse ≤ s.pool.limits.maxInstances
  /-- A live instance waits once at the record that made it, or one thread has it in hand. -/
  stay : ∀ n, s.Live n → ∃ id g, s.pool.instances[n]? = some (id, g) ∧
    (s.Waits id n ∧ s.OffHand n ∨ s.Held id n ∧ s.Away n)
  /-- Idle instances are healthy. -/
  healthy : ∀ (id : RecordId) (r : PluginRecord) (n : InstanceId),
    s.pool.records[id]? = some r → n ∈ r.idle →
    ∃ g, s.pool.instances[n]? = some (id, g) ∧ g.poisoned = false

/-- In a section an instance of a record goes to a borrower. -/
def Handed (s s' : Ledger σ ε) (id : RecordId) (n : InstanceId) : Prop :=
  s.loans.count (.lent id n) < s'.loans.count (.lent id n)

theorem countP_charges (s : Ledger σ ε) (id : RecordId) :
    s.loans.countP (·.charges id) = (s.lentOf id).card + (s.makingsOf id).card := by
  unfold lentOf makingsOf
  induction s.loans using Multiset.induction_on with
  | empty => rfl
  | cons l ls ih =>
    rw [Multiset.countP_cons, ih]
    cases l with
    | registering id' m told | entering id' => simp
    | making id' m | lent id' n =>
      by_cases same : id' = id
      · simp [same]; omega
      · simp [same]

theorem offHand_iff {n : InstanceId} :
    s.OffHand n ↔ s.loans.countP (·.number? = some n) = 0 := by
  rw [Multiset.countP_eq_zero]
  exact Iff.rfl

theorem away_iff {n : InstanceId} : s.Away n ↔ s.pool.idles.count n = 0 := by
  rw [Multiset.count_eq_zero, mem_idles_iff]
  simp [Away]

namespace Balanced

theorem waits_of_idle (b : Balanced h s) {id : RecordId} {r : PluginRecord} {n : InstanceId}
    (found : s.pool.records[id]? = some r) (waits : n ∈ r.idle) : s.Waits id n ∧ s.OffHand n := by
  obtain ⟨g, there, -⟩ := b.idle id r n found waits
  have stay := b.stay n
  rw [if_pos (List.getElem?_eq_some_iff.1 there).1, stays] at stay
  have most := count_le_idles found n
  have least := List.count_pos_iff.2 waits
  refine ⟨⟨⟨r, found, by omega⟩, ?_⟩, offHand_iff.2 (by omega)⟩
  intro i x found' waits'
  obtain ⟨g', there', -⟩ := b.idle i x n found' waits'
  exact congrArg Prod.fst (Option.some.inj (there'.symm.trans there))

theorem held_of_mem (b : Balanced h s) {l : Loan} {n : InstanceId} (mine : l ∈ s.loans)
    (number : l.number? = some n) : s.Held l.account n ∧ s.Away n := by
  obtain ⟨g, there⟩ := b.owner l mine n number
  have stay := b.stay n
  rw [if_pos (List.getElem?_eq_some_iff.1 there).1, stays] at stay
  have least : 0 < s.loans.countP (·.number? = some n) := Multiset.countP_pos_of_mem mine number
  refine ⟨⟨by omega, ?_⟩, away_iff.2 (by omega)⟩
  intro l' mine' number'
  obtain ⟨g', there'⟩ := b.owner l' mine' n number'
  exact congrArg Prod.fst (Option.some.inj (there'.symm.trans there))

theorem accounts (b : Balanced h s) : Accounts s where
  inUse id r found := by
    rw [b.inUse id r found, countP_charges]
    exact Int.natCast_add _ _
  capacity := b.capacity
  healthy := b.idle
  stay n live := by
    have stay := b.stay n
    rw [if_pos live.1, stays, Multiset.count_eq_zero.2 live.2] at stay
    by_cases idle : n ∈ s.pool.idles
    · obtain ⟨id, r, found, waits⟩ := mem_idles_iff.1 idle
      obtain ⟨g, there, -⟩ := b.idle id r n found waits
      exact ⟨id, g, there, .inl (b.waits_of_idle found waits)⟩
    · rw [← Multiset.count_eq_zero] at idle
      have inHand : 0 < s.loans.countP (·.number? = some n) := by omega
      obtain ⟨l, mine, number⟩ := Multiset.countP_pos.1 inHand
      obtain ⟨g, there⟩ := b.owner l mine n number
      exact ⟨l.account, g, there, .inr (b.held_of_mem mine number)⟩

end Balanced

/-! ### Lending -/

/-- Only a pop and the end of a making hand out an instance, and it is healthy. -/
theorem Step.of_handed {id : RecordId} {n : InstanceId} (b : Balanced h s) (st : Step h s s')
    (handed : Handed s s' id n) :
    (∃ g, s.pool.instances[n]? = some (id, g) ∧ g.poisoned = false) ∧
      ((∃ r, s.pool.records[id]? = some r ∧ n ∈ r.idle) ∨ .making id (some n) ∈ s.loans) := by
  unfold Handed at handed
  cases st with
  | @pop _ id' r r' n' entered found lease =>
    obtain ⟨-, idle, last, rfl⟩ := PluginRecord.lease_eq_popped_iff.1 lease
    have waits : n' ∈ r.idle := by simp [last]
    obtain ⟨rfl, rfl⟩ : id = id' ∧ n = n' := by
      by_contra other
      rw [← Loan.lent.injEq] at other
      simp [Multiset.count_cons_of_ne other] at handed
    exact ⟨b.idle id r n found waits, .inl ⟨r, found, waits⟩⟩
  | @lend p ls retired id' n' g found healthy fit =>
    obtain ⟨rfl, rfl⟩ : id = id' ∧ n = n' := by
      by_contra other
      rw [← Loan.lent.injEq] at other
      simp [Multiset.count_cons_of_ne other] at handed
    exact ⟨⟨g, found, healthy⟩, .inr (Multiset.mem_cons_self _ _)⟩
  | reserve | load | abandon | create | loadFirst | describe | accept | reject | enter =>
    simp at handed
  | release =>
    rw [Multiset.count_cons] at handed
    exact absurd handed (Nat.not_lt.2 (Nat.le_add_right _ _))
  | drive | count | crash | succeed | clear | note => exact absurd handed (lt_irrefl _)

namespace Balanced

/-- An instance that goes to a borrower is healthy, in use, and nobody else borrows it. -/
theorem handed {id : RecordId} {n : InstanceId} (b : Balanced h s) (st : Step h s s')
    (handed : Handed s s' id n) :
    (∃ g, s.pool.instances[n]? = some (id, g) ∧ g.poisoned = false) ∧ s.Live n ∧
      ∀ i, .lent i n ∉ s.loans := by
  obtain ⟨there, source⟩ := st.of_handed b handed
  have known : n < s.pool.instances.length := by
    obtain ⟨g, found, -⟩ := there
    exact (List.getElem?_eq_some_iff.1 found).1
  have stay := b.stay n
  rw [if_pos known, stays] at stay
  refine ⟨there, ⟨known, ?_⟩, ?_⟩
  · rw [← Multiset.count_eq_zero]
    rcases source with ⟨r, found, waits⟩ | making
    · have idle := count_le_idles found n
      have waits := List.count_pos_iff.2 waits
      omega
    · have inHand : 0 < s.loans.countP (·.number? = some n) :=
        Multiset.countP_pos_of_mem making rfl
      omega
  · intro i lent
    rcases source with ⟨r, found, waits⟩ | making
    · exact (b.waits_of_idle found waits).2 _ lent rfl
    · obtain ⟨rest, split⟩ := Multiset.exists_cons_of_mem making
      have once := (b.held_of_mem making rfl).1.1
      simp only [split, Multiset.countP_cons, Loan.number?_making, if_true] at once
      have alsoLent : .lent i n ∈ rest := by simpa [split] using lent
      have twice : 0 < rest.countP (·.number? = some n) :=
        Multiset.countP_pos_of_mem alsoLent rfl
      omega

end Balanced

/-- What is out of use stays out of use. -/
theorem Step.retired_le (st : Step h s s') : s.retired ≤ s'.retired := by
  cases st with
  | abandon | release | reject | clear => exact Multiset.le_add_left _ _
  | pop | reserve | load | drive | count | lend | crash | succeed | create | loadFirst
  | describe | accept | enter | note => exact le_rfl

theorem Steps.retired_le (st : Steps h s s') : s.retired ≤ s'.retired := by
  induction st with
  | refl => exact le_rfl
  | tail _ st ih => exact ih.trans st.retired_le

/-- A poisoned instance that was given back is never in a hand again. -/
theorem Balanced.offHand_of_poisoned {id : RecordId} {n : InstanceId} {g : Instance σ ε}
    (b : Balanced h s) (found : s.pool.instances[n]? = some (id, g)) (poisoned : g.poisoned = true)
    (offHand : s.OffHand n) (st : Steps h s s') : s'.OffHand n := by
  have stay := b.stay n
  have notIdle : s.pool.idles.count n = 0 := by
    rw [Multiset.count_eq_zero, mem_idles_iff]
    rintro ⟨id', r, record, waits⟩
    obtain ⟨g', found', healthy⟩ := b.idle id' r n record waits
    obtain ⟨-, rfl⟩ := Prod.mk.inj (Option.some.inj (found.symm.trans found'))
    exact absurd poisoned (by simp [healthy])
  rw [if_pos (List.getElem?_eq_some_iff.1 found).1, stays, notIdle, offHand_iff.1 offHand] at stay
  have after := (b.steps st).stay n
  have grown := Multiset.count_le_of_le n (Steps.retired_le st)
  rw [offHand_iff]
  simp only [stays] at after
  split at after <;> omega

/-! ### Replacement -/

/-- A record that no name stands for, now and later. -/
structure Gone (s : Ledger σ ε) (id : RecordId) : Prop where
  known : id < s.pool.records.length
  entered : s.Entered id
  unnamed : ∀ e ∈ s.pool.registry, e.2 ≠ id

/-- New names are those of records that were about to be entered. -/
theorem Step.mem_registry (st : Step h s s') {e : String × RecordId} (here : e ∈ s'.pool.registry) :
    e ∈ s.pool.registry ∨ .entering e.2 ∈ s.loans := by
  cases st with
  | enter record =>
    rcases mem_enroll here with rfl | here
    · exact .inr (Multiset.mem_cons_self _ _)
    · exact .inl here
  | clear => simp [Pool.clear] at here
  | note same => exact .inl (same.registry ▸ here)
  | pop | reserve | load | drive | count | lend | abandon | release | crash | succeed | create
  | loadFirst | describe | accept | reject => exact .inl here

theorem Step.length_records_le (st : Step h s s') :
    s.pool.records.length ≤ s'.pool.records.length := by
  cases st with
  | create => simp
  | clear => exact (length_clear _).ge
  | note same => exact (congrArg List.length same.records).ge
  | pop | reserve | count | abandon | release | crash | succeed | describe | accept | reject =>
    exact (length_updateRecord ..).ge
  | load | drive | lend | loadFirst | enter => exact le_rfl

/-- Only a new record is closed to borrowers. -/
theorem Step.entered (st : Step h s s') {id : RecordId} (known : id < s.pool.records.length)
    (entered : s.Entered id) : s'.Entered id := by
  intro l mine
  cases st with
  | pop | reserve =>
    rcases Multiset.mem_cons.1 mine with rfl | mine
    · rfl
    · exact entered l mine
  | create =>
    rcases Multiset.mem_cons.1 mine with rfl | mine
    · simpa using known.ne'
    · exact entered l mine
  | load | lend =>
    rcases Multiset.mem_cons.1 mine with rfl | mine
    · rfl
    · exact entered l (Multiset.mem_cons_of_mem mine)
  | loadFirst | describe | accept | reject =>
    rcases Multiset.mem_cons.1 mine with rfl | mine
    · simpa using entered _ (Multiset.mem_cons_self _ _)
    · exact entered l (Multiset.mem_cons_of_mem mine)
  | abandon | release | enter => exact entered l (Multiset.mem_cons_of_mem mine)
  | drive | count | crash | succeed | clear | note => exact entered l mine

theorem Gone.step {id : RecordId} (gone : Gone s id) (st : Step h s s') : Gone s' id where
  known := gone.known.trans_le st.length_records_le
  entered := st.entered gone.known gone.entered
  unnamed e here := by
    rcases st.mem_registry here with here | entering
    · exact gone.unnamed e here
    · rintro rfl
      have still := gone.entered _ entering
      simp at still

theorem Gone.steps {id : RecordId} (gone : Gone s id) (st : Steps h s s') : Gone s' id := by
  induction st with
  | refl => exact gone
  | tail _ st ih => exact ih.step st

/-- A record whose name stands for it no longer is gone. -/
theorem Balanced.gone {name : String} {id : RecordId} (b : Balanced h s) (st : Step h s s')
    (before : s.pool.lookup? name = some id) (after : s'.pool.lookup? name ≠ some id) :
    Gone s' id := by
  rw [lookup?_eq_some_iff b.names] at before
  rw [Ne, lookup?_eq_some_iff (b.step st).names] at after
  obtain ⟨entered, r, found, rfl⟩ := b.registered _ before
  have known : id < s.pool.records.length := (List.getElem?_eq_some_iff.1 found).1
  refine ⟨known.trans_le st.length_records_le, st.entered known entered, ?_⟩
  rintro e here rfl
  rcases st.mem_registry here with former | entering
  · obtain ⟨-, r', found', bears'⟩ := b.registered e former
    obtain rfl : r = r' := Option.some.inj (found.symm.trans found')
    exact after (by rwa [bears'])
  · have still := entered _ entering
    simp at still

/-- The accounts of a pool are right whatever its threads do. Whoever is handed an instance gets a
healthy one that nobody else borrows, a poisoned instance that was given back is in no hand again, and
whoever resolves a path after a name was given away borrows from the record that has it now. -/
theorem accounts_of_reachable (reachable : Reachable h config s) :
    Accounts s ∧
    (∀ s' id n, Step h s s' → Handed s s' id n →
      (∃ g, s.pool.instances[n]? = some (id, g) ∧ g.poisoned = false) ∧ s.Live n ∧
        ∀ i, .lent i n ∉ s.loans) ∧
    (∀ s' id n (g : Instance σ ε), s.pool.instances[n]? = some (id, g) → g.poisoned = true →
      s.OffHand n → Steps h s s' → s'.OffHand n) ∧
    (∀ s₁ s₂ name old, s.pool.lookup? name = some old → Step h s s₁ →
      s₁.pool.lookup? name ≠ some old → Steps h s₁ s₂ →
      ∀ path id r, s₂.pool.resolve path = some (id, r) → id ≠ old ∧
        ∀ s₃ n, Steps h s₂ s₃ → .lent id n ∈ s₃.loans →
          ∃ g, s₃.pool.instances[n]? = some (id, g)) := by
  have b : Balanced h s := .of_reachable reachable
  refine ⟨b.accounts, ?_, ?_, ?_⟩
  · intro s' id n st handed
    exact b.handed st handed
  · intro s' id n g found poisoned offHand st
    exact b.offHand_of_poisoned found poisoned offHand st
  · intro s₁ s₂ name old before st after later path id r resolved
    obtain ⟨-, other, entry⟩ := mem_registry_of_resolve resolved
    refine ⟨((b.gone st before after).steps later).unnamed _ entry, ?_⟩
    intro s₃ n further lent
    exact (((b.step st).steps later).steps further).owner _ lent n rfl

/-- A plugin is registered, one thread borrows its instance, and another one makes a second. -/
theorem accounts_of_two_borrowers :
    ∃ (config : PoolConfig) (s : Ledger Unit Unit),
      Reachable ⟨fun _ => True, fun _ _ => True, fun _ => True, fun _ _ => True⟩ config s ∧
        s.loans = {.making 0 none, .lent 0 0} ∧ Accounts s := by
  let limits : Limits := ⟨2, .zero false, .zero false, 1, 1, by decide, by decide, by decide⟩
  let g : Instance Unit Unit :=
    ⟨"ab", fun _ => none, (), .zeroed 0, none, none, none, false, false⟩
  have opened : Steps (σ := Unit) (ε := Unit) ⟨fun _ => True, fun _ _ => True, fun _ => True, fun _ _ => True⟩
      (.empty ⟨limits, [], []⟩) _ := .single (.create "ab" [])
  have entered := ((opened.tail (.loadFirst (g := g) trivial)).tail
    (.accept rfl rfl trivial trivial)).tail (.enter rfl)
  have lent := entered.tail (.pop (show Entered _ 0 by simp [Entered, empty]) rfl rfl)
  have reserved := lent.tail (.reserve (show Entered _ 0 by simp [Entered, empty]) rfl rfl)
  exact ⟨_, _, reserved, rfl, (accounts_of_reachable reserved).1⟩

end FormatHost.Ledger
