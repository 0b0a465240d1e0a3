import FormatHost.Proofs.Pool.Accounts
/-!
# Which instances may be lent

A thread that makes an instance tests it before it lends it out or lets it wait. An instance that has passed
passes ever after. So whatever the threads do, an instance that waits or is lent has passed: one that has not
is in the hand of the thread that makes it, or out of use.
-/
namespace FormatHost

variable {σ ε : Type}

/-- A thread has the instance in hand and is still making it. -/
inductive Loan.Makes (n : InstanceId) : Loan → Prop
  | registering (id : RecordId) (told : Option PluginInfo) : Makes n (.registering id (some n) told)
  | making (id : RecordId) : Makes n (.making id (some n))

theorem Loan.Makes.number? {n : InstanceId} {l : Loan} (makes : l.Makes n) : l.number? = some n := by
  cases makes <;> rfl

namespace Ledger

variable {h : Habit σ ε} {s s' : Ledger σ ε} {n : InstanceId}

/-- An instance is in the making or out of use. -/
def Unused (loans : Multiset Loan) (retired : Multiset InstanceId) (n : InstanceId) : Prop :=
  (∃ l ∈ loans, l.Makes n) ∨ n ∈ retired

namespace Unused

variable {ls : Multiset Loan} {l l' : Loan} {out out' : Multiset InstanceId}

theorem cons (unused : Unused ls out n) (l : Loan) : Unused (l ::ₘ ls) out n :=
  unused.imp_left fun ⟨l', mine, makes⟩ => ⟨l', Multiset.mem_cons_of_mem mine, makes⟩

theorem retire (unused : Unused ls out n) (more : out ≤ out') : Unused ls out' n :=
  unused.imp_right fun gone => Multiset.mem_of_le more gone

/-- A loan that is given up. -/
theorem drop (unused : Unused (l ::ₘ ls) out n) (other : ¬l.Makes n) : Unused ls out n := by
  refine unused.imp_left ?_
  rintro ⟨l', mine, makes⟩
  rcases Multiset.mem_cons.1 mine with rfl | mine
  · exact absurd makes other
  · exact ⟨l', mine, makes⟩

/-- A loan whose instance goes out of use. -/
theorem discard (unused : Unused (l ::ₘ ls) out n) (retired : l.Makes n → n ∈ out') :
    Unused ls (out' + out) n := by
  by_cases makes : l.Makes n
  · exact .inr (Multiset.mem_add.2 (.inl (retired makes)))
  · exact (unused.drop makes).retire (Multiset.le_add_left ..)

end Unused

/-- Every instance is fit, unless it is in the making or out of use. -/
def Fitted (h : Habit σ ε) (s : Ledger σ ε) : Prop :=
  ∀ (n : InstanceId) (id : RecordId) (g : Instance σ ε), s.pool.instances[n]? = some (id, g) →
    h.fit g ∨ Unused s.loans s.retired n

theorem mem_of_makes_making {id : RecordId} {made : Option InstanceId}
    (makes : (Loan.making id made).Makes n) : n ∈ (made.toList : Multiset InstanceId) := by
  cases makes
  simp

theorem mem_of_makes_registering {id : RecordId} {told : Option PluginInfo} {made : Option InstanceId}
    (makes : (Loan.registering id made told).Makes n) : n ∈ (made.toList : Multiset InstanceId) := by
  cases makes
  simp

theorem Step.fitted (lasting : ∀ g g', h.driven g g' → h.fit g → h.fit g') (st : Step h s s')
    (fitted : Fitted h s) : Fitted h s' := by
  intro n id g found
  cases st with
  | pop | reserve | create => exact (fitted n id g found).imp_right fun unused => unused.cons _
  | count | crash | succeed => exact fitted n id g found
  | note same => exact fitted n id g (same.instances ▸ found)
  | clear => exact (fitted n id g found).imp_right fun unused => unused.retire (Multiset.le_add_left ..)
  | @load p ls retired id' g' loaded =>
    rcases of_getElem?_withNew found with ⟨rfl, -⟩ | old
    · exact .inr (.inl ⟨_, Multiset.mem_cons_self .., .making id'⟩)
    · exact (fitted n id g old).imp_right fun unused => (unused.drop nofun).cons _
  | @loadFirst p ls retired id' told g' loaded =>
    rcases of_getElem?_withNew found with ⟨rfl, -⟩ | old
    · exact .inr (.inl ⟨_, Multiset.mem_cons_self .., .registering id' told⟩)
    · exact (fitted n id g old).imp_right fun unused => (unused.drop nofun).cons _
  | @drive _ l m g₀ g' mine number there driven =>
    rcases of_getElem?_withState found with ⟨rfl, -, rfl⟩ | ⟨-, other⟩
    · exact (fitted n _ g₀ there).imp_left (lasting g₀ g driven)
    · exact fitted n id g other
  | @lend p ls retired id' m g' there healthy fit =>
    by_cases same : n = m
    · subst same
      obtain ⟨-, rfl⟩ := Prod.mk.inj (Option.some.inj (there.symm.trans found))
      exact .inl fit
    · refine (fitted n id g found).imp_right fun unused => (unused.drop fun makes => ?_).cons _
      cases makes
      exact same rfl
  | @accept p ls retired id' m told g' there healthy fit ready =>
    by_cases same : n = m
    · subst same
      obtain ⟨-, rfl⟩ := Prod.mk.inj (Option.some.inj (there.symm.trans found))
      exact .inl fit
    · refine (fitted n id g found).imp_right fun unused => (unused.drop fun makes => ?_).cons _
      cases makes
      exact same rfl
  | abandon => exact (fitted n id g found).imp_right fun unused => unused.discard mem_of_makes_making
  | reject =>
    exact (fitted n id g found).imp_right fun unused => (unused.discard mem_of_makes_registering).cons _
  | release => exact (fitted n id g found).imp_right fun unused => unused.discard nofun
  | enter => exact (fitted n id g found).imp_right fun unused => unused.drop nofun
  | @describe p ls retired id' m told info =>
    refine (fitted n id g found).imp_right fun unused => ?_
    by_cases makes : (Loan.registering id' m told).Makes n
    · cases makes
      exact .inl ⟨_, Multiset.mem_cons_self .., .registering id' _⟩
    · exact (unused.drop makes).cons _

theorem Steps.fitted (lasting : ∀ g g', h.driven g g' → h.fit g → h.fit g') (st : Steps h s s')
    (fitted : Fitted h s) : Fitted h s' := by
  induction st with
  | refl => exact fitted
  | tail _ st ih => exact st.fitted lasting ih

theorem fitted_empty (config : PoolConfig) : Fitted h (.empty config : Ledger σ ε) := by
  intro n id g found
  simp [Ledger.empty, Pool.empty] at found

/-- An instance that waits is neither in the making nor out of use. -/
theorem Balanced.not_unused_of_idle (b : Balanced h s) {id : RecordId} {r : PluginRecord}
    (record : s.pool.records[id]? = some r) (waits : n ∈ r.idle) : ¬Unused s.loans s.retired n := by
  rintro (⟨l, mine, makes⟩ | gone)
  · exact b.not_idle mine makes.number? record waits
  · have waiting : 0 < s.pool.idles.count n :=
      Multiset.count_pos.2 (Pool.mem_idles_iff.2 ⟨id, r, record, waits⟩)
    have retired : 0 < s.retired.count n := Multiset.count_pos.2 gone
    have stay := b.stay n
    simp only [stays] at stay
    split at stay <;> omega

/-- Nor is one that is lent. -/
theorem Balanced.not_unused_of_lent (b : Balanced h s) {id : RecordId}
    (lent : .lent id n ∈ s.loans) : ¬Unused s.loans s.retired n := by
  have stay := b.stay n
  simp only [stays] at stay
  rintro (⟨l, mine, makes⟩ | gone)
  · obtain ⟨rest, split⟩ := Multiset.exists_cons_of_mem lent
    have other : l ∈ rest := by
      rw [split] at mine
      refine (Multiset.mem_cons.1 mine).resolve_left ?_
      rintro rfl
      cases makes
    have twice : 0 < rest.countP (·.number? = some n) :=
      Multiset.countP_pos_of_mem other makes.number?
    rw [split, Multiset.countP_cons, if_pos (Loan.number?_lent id n)] at stay
    split at stay <;> omega
  · have inHand : 0 < s.loans.countP (·.number? = some n) := Multiset.countP_pos_of_mem lent rfl
    have retired : 0 < s.retired.count n := Multiset.count_pos.2 gone
    split at stay <;> omega

end Ledger

end FormatHost
