import FormatHost.Proofs.Guest.Busy
import FormatHost.Proofs.Pool.Containment
import FormatHost.Proofs.Pool.History
/-!
# Plugins inside plugins

However plugins ask each other, the chain of those that are active is no longer than its limit, no
plugin stands right behind itself, and each has another instance in hand. A request behind a full chain
is refused. When the call that it all began with is over, nothing is active that was not before, and
every place that was taken is free again.
-/
namespace FormatHost

open Ledger

variable {σ ε : Type}

/-! ### How the work of a thread is built up -/

namespace Frame

/-- What is in hand for the active plugins, outermost first. -/
def hands (frames : List Frame) : List Loan := frames.filterMap fun f => f.name.bind fun _ => f.loan

theorem hands_sublist (frames : List Frame) : (hands frames).Sublist (frames.filterMap Frame.loan) := by
  induction frames with
  | nil => exact .slnil
  | cons f rest ih =>
    obtain ⟨name, loan⟩ := f
    rcases loan with none | l
    · cases name <;> simpa [hands] using ih
    · cases name with
      | none => simpa [hands] using ih.cons l
      | some name => simpa [hands] using ih

theorem hands_le_loans (frames : List Frame) : (hands frames : Multiset Loan) ≤ loans frames :=
  (hands_sublist frames).subperm

/-- Where something is in hand for every active plugin, it concerns a record of that name. -/
theorem map_hands {p : Pool σ ε} {frames : List Frame} (busy : ∀ f ∈ frames, f.loan.isSome)
    (fits : ∀ f ∈ frames, ∀ l, f.loan = some l → Fits p f.name l) :
    (hands frames).map (fun l => p.records[l.account]?.map PluginRecord.name) =
      (names frames).map some := by
  induction frames with
  | nil => rfl
  | cons f rest ih =>
    have later := ih (fun g here => busy g (List.mem_cons_of_mem f here))
      fun g here => fits g (List.mem_cons_of_mem f here)
    have first := fits f List.mem_cons_self
    obtain ⟨l, loan⟩ := Option.isSome_iff_exists.1 (busy f List.mem_cons_self)
    cases name : f.name with
    | none => simpa [hands, names, name] using later
    | some x =>
      have fit := first l loan
      rw [name] at fit
      obtain ⟨r, found, same⟩ := fit
      simpa [hands, names, name, loan, found, same] using later

/-- The innermost plugin is that of the innermost piece of work, if only the outermost one is a loading. -/
theorem getLast?_of_mem_names {frames : List Frame} (named : ∀ f ∈ frames.tail, f.name.isSome)
    {name : String} (last : name ∈ (names frames).getLast?) :
    ∃ f, frames.getLast? = some f ∧ f.name = some name := by
  rcases List.eq_nil_or_concat frames with rfl | ⟨front, f, rfl⟩
  · simp [names] at last
  · rw [List.concat_eq_append, names_concat] at *
    cases own : f.name with
    | some x =>
      obtain rfl : x = name := by simpa [own] using last
      exact ⟨f, by simp, own⟩
    | none =>
      cases front with
      | nil => simp [own, names] at last
      | cons g rest =>
        have := named f (by simp)
        simp [own] at this

end Frame

/-- How the pieces of a thread's work stand inside each other. -/
structure Upright (limit : Nat) (st : Station σ ε) : Prop where
  chain : st.pool.chain = ⟨limit, Frame.names st.frames⟩
  depth : (Frame.names st.frames).length ≤ limit
  apart : (Frame.names st.frames).IsChain (· ≠ ·)
  named : ∀ f ∈ st.frames.tail, f.name.isSome
  waiting : ∀ f ∈ st.frames.dropLast, f.loan.isSome
  fits : ∀ f ∈ st.frames, ∀ l, f.loan = some l → Frame.Fits st.pool f.name l

/-- What is in hand keeps fitting while records keep their names. -/
theorem Frame.Fits.keep {p q : Pool σ ε} {name : Option String} {l : Loan} (fits : Frame.Fits p name l)
    (names : ∀ (id : RecordId) (r : PluginRecord), p.records[id]? = some r →
      ∃ r', q.records[id]? = some r' ∧ r'.name = r.name) : Frame.Fits q name l := by
  cases name with
  | none => exact fits
  | some name =>
    obtain ⟨r, found, same⟩ := fits
    obtain ⟨r', found', same'⟩ := names _ r found
    exact ⟨r', found', same'.trans same⟩

/-- Records keep their names. -/
theorem Move.name {h : Habit σ ε} {s : Ledger σ ε} {a b : Station σ ε} (move : Move h s a b)
    {id : RecordId} {r : PluginRecord} (found : a.pool.records[id]? = some r) :
    ∃ r', b.pool.records[id]? = some r' ∧ r'.name = r.name := by
  cases move with
  | account same => exact same.name found
  | crash => exact Pool.name_updateRecord (fun x _ => PluginRecord.name_crash _ _ x) found
  | succeed => exact Pool.name_updateRecord (fun _ _ => rfl) found
  | create =>
    exact ⟨r, (List.getElem?_append_left (List.getElem?_eq_some_iff.1 found).1).trans found, rfl⟩
  | settle found' loaded name =>
    refine Pool.name_updateRecord (fun x there => ?_) found
    rw [← Option.some.inj (found'.symm.trans there)]
    exact name
  | take | enter | leave | format | exhaust => exact ⟨r, found, rfl⟩

/-- What a record is called does not depend on what is in hand for it. -/
theorem Upright.take {limit : Nat} {frames : List Frame} {p : Pool σ ε} {name : Option String}
    {loan loan' : Option Loan} (upright : Upright limit ⟨frames ++ [⟨name, loan⟩], p⟩)
    (fits : ∀ l, loan' = some l → Frame.Fits p name l) :
    Upright limit ⟨frames ++ [⟨name, loan'⟩], p⟩ := by
  have names : Frame.names (frames ++ [⟨name, loan'⟩]) = Frame.names (frames ++ [⟨name, loan⟩]) := by
    rw [Frame.names_concat, Frame.names_concat]
  refine ⟨by simpa only [names] using upright.chain, by simpa only [names] using upright.depth,
    by simpa only [names] using upright.apart, ?_, ?_, ?_⟩
  · have named := upright.named
    cases frames with
    | nil => simp
    | cons g rest =>
      intro f here
      rcases List.mem_append.1 (show f ∈ rest ++ [⟨name, loan'⟩] from here) with outer | inner
      · exact named f (by simp [outer])
      · obtain rfl := List.mem_singleton.1 inner
        exact named ⟨name, loan⟩ (by simp)
  · simpa using upright.waiting
  · intro f here l inHand
    rcases List.mem_append.1 here with outer | inner
    · exact upright.fits f (List.mem_append_left _ outer) l inHand
    · obtain rfl := List.mem_singleton.1 inner
      exact fits l inHand

/-- The innermost piece of work is done. -/
theorem Upright.front {limit : Nat} {frames : List Frame} {f : Frame} {p q : Pool σ ε}
    (upright : Upright limit ⟨frames ++ [f], p⟩) (chain : q.chain = ⟨limit, Frame.names frames⟩)
    (names : ∀ (id : RecordId) (r : PluginRecord), p.records[id]? = some r →
      ∃ r', q.records[id]? = some r' ∧ r'.name = r.name) : Upright limit ⟨frames, q⟩ := by
  have depth := upright.depth
  have apart := upright.apart
  simp only [Frame.names_concat] at depth apart
  refine ⟨chain, ?_, apart.left_of_append, ?_, ?_, ?_⟩
  · rw [List.length_append] at depth
    exact Nat.le_of_add_right_le depth
  · intro g here
    refine upright.named g ?_
    cases frames with
    | nil => simp at here
    | cons a rest => simp [show g ∈ rest from here]
  · intro g here
    exact upright.waiting g (by simpa using List.mem_of_mem_dropLast here)
  · intro g here l inHand
    exact (upright.fits g (List.mem_append_left _ here) l inHand).keep names

/-- A plugin becomes active inside the one that waits for it. -/
theorem Upright.enter {limit : Nat} {frames : List Frame} {p : Pool σ ε} {name : String}
    {chain : CallChain} (upright : Upright limit ⟨frames, p⟩)
    (entered : p.chain.enter name = .ok chain)
    (waits : ∀ f, frames.getLast? = some f → f.loan.isSome ∧ f.name ≠ some name) :
    Upright limit ⟨frames ++ [⟨some name, none⟩], { p with chain }⟩ := by
  have now : p.chain = ⟨limit, Frame.names frames⟩ := upright.chain
  rw [now, CallChain.enter] at entered
  split at entered
  · exact absurd entered (by simp)
  rename_i room
  simp only [CallChain.depth] at room
  refine ⟨?_, ?_, ?_, ?_, ?_, ?_⟩
  · rw [Frame.names_concat]
    exact (Except.ok.inj entered).symm
  · simp only [Frame.names_concat, Option.toList_some, List.length_append, List.length_singleton]
    omega
  · rw [Frame.names_concat]
    refine List.isChain_append.2 ⟨upright.apart, List.isChain_singleton _, ?_⟩
    intro x last y new same
    obtain rfl : name = y := by simpa using new
    obtain ⟨f, inner, own⟩ := Frame.getLast?_of_mem_names upright.named last
    exact (waits f inner).2 (own.trans (congrArg some same))
  · have named := upright.named
    cases frames with
    | nil => simp
    | cons g rest =>
      intro f here
      rcases List.mem_append.1 (show f ∈ rest ++ [⟨some name, none⟩] from here) with outer | inner
      · exact named f outer
      · obtain rfl := List.mem_singleton.1 inner
        rfl
  · intro f here
    have outer : f ∈ frames := by simpa using here
    rcases List.eq_nil_or_concat frames with rfl | ⟨front, g, rfl⟩
    · simp at outer
    · rw [List.concat_eq_append] at *
      rcases List.mem_append.1 outer with before | last
      · exact upright.waiting f (by simpa using before)
      · obtain rfl := List.mem_singleton.1 last
        exact (waits f (by simp)).1
  · intro f here l inHand
    rcases List.mem_append.1 here with outer | inner
    · exact upright.fits f outer l inHand
    · obtain rfl := List.mem_singleton.1 inner
      exact absurd inHand (by simp)

theorem Move.upright {h : Habit σ ε} {s : Ledger σ ε} {limit : Nat} {a b : Station σ ε}
    (move : Move h s a b) (upright : Upright limit a) : Upright limit b := by
  have names := fun (i : RecordId) (r : PluginRecord) (found : a.pool.records[i]? = some r) =>
    move.name found
  cases move with
  | account same =>
    exact { upright with
      chain := same.chain.trans upright.chain
      fits := fun f here l inHand => (upright.fits f here l inHand).keep names }
  | crash | succeed =>
    exact { upright with fits := fun f here l inHand => (upright.fits f here l inHand).keep names }
  | take fits => exact upright.take fits
  | enter found entered waits => exact upright.enter entered waits
  | leave =>
    refine upright.front ?_ names
    have chain := upright.chain
    simp only [Frame.names_concat, Option.toList_some] at chain
    simp [CallChain.exit, chain]
  | format | exhaust => exact { upright with }
  | create =>
    refine { upright with named := by simp, waiting := by simp, fits := ?_ }
    intro f here l inHand
    obtain rfl := List.mem_singleton.1 here
    exact absurd inHand (by simp)
  | settle =>
    refine upright.front ?_ names
    have chain := upright.chain
    simp only [Frame.names_concat, Option.toList_none, List.append_nil] at chain
    exact chain

theorem Course.upright {h : Habit σ ε} {s : Ledger σ ε} {limit : Nat} {a b : Station σ ε}
    (course : Course h s a b) (upright : Upright limit a) : Upright limit b := by
  induction course with
  | refl => exact upright
  | tail _ move ih => exact move.upright ih

theorem upright_of_idle {limit : Nat} {p : Pool σ ε} (idle : p.chain = ⟨limit, []⟩) :
    Upright limit ⟨[], p⟩ :=
  ⟨idle, Nat.zero_le _, .nil, by simp, by simp, by simp⟩

/-! ### Who is called inside whom -/

/-- An instance starts to format inside a chain of plugins: each of them has something in hand, and the
instance is that of the innermost one. -/
structure Dispatched (L : Ledger σ ε) (limit : Nat) (id : RecordId) (n : InstanceId)
    (chain : List String) (hands : List Loan) : Prop where
  active : L.pool.chain.active = chain
  nonempty : chain ≠ []
  bounded : chain.length ≤ limit
  apart : chain.IsChain (· ≠ ·)
  top : chain.getLast? = L.pool.records[id]?.map PluginRecord.name
  mine : (hands : Multiset Loan) ≤ L.loans
  names : hands.map (fun l => L.pool.records[l.account]?.map PluginRecord.name) = chain.map some
  running : hands.getLast? = some (.lent id n)
  distinct : (hands.filterMap Loan.number?).Nodup
  free : ∃ g, L.pool.instances[n]? = some (id, g) ∧
    ∀ (out : Outside ε (Pool σ ε)) (path text : String) (m : ConfigMap) (e : ε) (p : Pool σ ε)
      (plugin : String),
      (ending (GuestM.formatText out path text m.toDatum) ⟨g, e, p⟩).1 ≠ .error (.busy plugin)

/-- What is in hand at one time are different instances. -/
theorem Ledger.Balanced.nodup_numbers {h : Habit σ ε} {L : Ledger σ ε} (b : Balanced h L)
    {hands : List Loan} (mine : (hands : Multiset Loan) ≤ L.loans) :
    (hands.filterMap Loan.number?).Nodup := by
  refine List.nodup_iff_count_le_one.2 fun n => ?_
  have stay := b.stay n
  have fewer := Multiset.countP_le_of_le (fun l => l.number? = some n) mine
  rw [List.count_filterMap]
  simp only [stays] at stay
  rw [Multiset.coe_countP] at fewer
  have same : hands.countP (fun l => l.number? == some n) =
      hands.countP fun l => decide (l.number? = some n) :=
    List.countP_congr fun l _ => by simp
  split at stay <;> omega

theorem Upright.dispatched {engine : Engine σ ε} {s : Ledger σ ε} {limit : Nat}
    {frames : List Frame} {p : Pool σ ε} {name : String} {id : RecordId} {n : InstanceId}
    (upright : Upright limit ⟨frames ++ [⟨some name, some (.lent id n)⟩], p⟩) (o : Orderly engine s)
    (known : Known (habit engine) s (frames ++ [⟨some name, some (.lent id n)⟩]) p) :
    ∃ L hands, Steps (habit engine) s L ∧ L.pool = p ∧
      Dispatched L limit id n p.chain.active hands := by
  obtain ⟨retired, steps⟩ := known
  have o' := o.steps steps
  have chain : p.chain.active = Frame.names frames ++ [name] := by
    rw [upright.chain, Frame.names_concat]
    rfl
  have depth := upright.depth
  have apart := upright.apart
  simp only [Frame.names_concat, Option.toList_some] at depth apart
  have busy : ∀ f ∈ frames ++ [⟨some name, some (.lent id n)⟩], f.loan.isSome := by
    intro f here
    rcases List.mem_append.1 here with outer | inner
    · exact upright.waiting f (by simpa using outer)
    · obtain rfl := List.mem_singleton.1 inner
      rfl
  have mine : (Frame.hands (frames ++ [⟨some name, some (.lent id n)⟩]) : Multiset Loan) ≤
      Frame.loans (frames ++ [⟨some name, some (.lent id n)⟩]) + s.loans :=
    (Frame.hands_le_loans _).trans (Multiset.le_add_right _ _)
  have lent : Loan.lent id n ∈ Frame.loans (frames ++ [⟨some name, some (.lent id n)⟩]) + s.loans := by
    simp [Frame.loans_concat]
  obtain ⟨r, found, own⟩ : Frame.Fits p (some name) (.lent id n) :=
    upright.fits ⟨some name, some (.lent id n)⟩ (by simp) _ rfl
  obtain ⟨g, there⟩ := o'.balanced.owner _ lent n rfl
  refine ⟨_, Frame.hands (frames ++ [⟨some name, some (.lent id n)⟩]), steps, rfl, rfl, ?_, ?_, ?_, ?_,
    mine, ?_, ?_, o'.balanced.nodup_numbers mine, g, there, fun out path text m e q plugin => ?_⟩
  · simp [chain]
  · simpa [chain] using depth
  · rw [chain]
    exact apart
  · rw [chain, show p.records[id]? = some r from found]
    simp [own]
  · rw [chain, Frame.map_hands busy upright.fits, Frame.names_concat]
    rfl
  · simp [Frame.hands]
  · exact formatText_ne_busy out path text m.toDatum (o'.settled n _ g there).1 plugin

/-! ### Requests behind a full chain -/

/-- A request that goes to another plugin behind a full chain is refused, and nothing but the journal
changes. -/
theorem exists_ending_formatFor_of_full (engine : Engine σ ε) (depth : Nat) (text : String)
    (override : Datum) (e : ε) {caller path : String} {p : Pool σ ε} {id : RecordId}
    {r : PluginRecord} (full : p.chain.limit ≤ p.chain.depth)
    (resolved : p.resolve path = some (id, r)) (other : r.name ≠ caller) :
    ∃ journal, ending (PoolM.formatFor engine depth caller path text override) (e, p) =
      (.error (.depthExceeded p.chain.limit (p.chain.active ++ [r.name])), e,
        { p with journal }) := by
  obtain ⟨journal, ⟨-, same⟩ | ⟨i, x, resolved', -, ran⟩⟩ :=
    PoolM.exists_ending_formatFor engine depth caller path text override e p
  · exact absurd (same id r resolved) other
  · obtain ⟨rfl, rfl⟩ := Prod.mk.inj (Option.some.inj (resolved.symm.trans resolved'))
    refine ⟨journal, ran.trans ?_⟩
    cases depth with
    | zero => rfl
    | succ depth =>
      have record : ({ p with journal } : Pool σ ε).records[id]? = some r :=
        (Pool.mem_registry_of_resolve resolved).1
      have refused : ({ p with journal } : Pool σ ε).chain.enter r.name =
          .error (.depthExceeded p.chain.limit (p.chain.active ++ [r.name])) :=
        CallChain.enter_of_le full r.name
      exact PoolM.ending_formatWith_of_error record (PoolM.ending_entering_of_error refused _)

/-- The plugin that made such a request learns of it by the status of a failure. -/
theorem exists_run_call_of_full (engine : Engine σ ε) (room depth : Nat) (e : ε) {p : Pool σ ε}
    {b b' : Boundary} {memory memory' : Memory} {request : Request} {id : RecordId}
    {r : PluginRecord} (asks : b.call room .format memory = (.asks request, b', memory'))
    (full : p.chain.limit ≤ p.chain.depth) (resolved : p.resolve request.path = some (id, r))
    (other : r.name ≠ request.caller) :
    ∃ journal, (HostTable.call room (PoolM.below engine depth).ask .format (some b) memory).run (e, p) =
      ((.ok (some 2),
        some { b' with error := ⟨some (Fault.depthExceeded p.chain.limit
          (p.chain.active ++ [r.name])).message⟩ }, memory'), e, { p with journal }) := by
  obtain ⟨journal, refused⟩ := exists_ending_formatFor_of_full engine depth request.text
    request.override.toDatum e (p := { p with
      journal := .debug dispatchLogger ("Plugin " ++ request.caller ++ " requested formatting of " ++
        request.path) :: p.journal }) full resolved other
  have answer := run_ask_outside (engine.room depth) (PoolM.formatFor engine depth) request e p
  rw [refused] at answer
  simp only [HostTable.call, asks, StateT.run_bind, PoolM.below, answer]
  exact ⟨_, rfl⟩

/-! ### Formatting -/

/-- A balanced pool counts as many places in use after a thread is done as it did before. -/
theorem Past.inUse {h : Habit σ ε} {s : Ledger σ ε} {p : Pool σ ε} (past : Past h s s.loans 0 p)
    (b : Balanced h s) {id : RecordId} {r : PluginRecord} (found : s.pool.records[id]? = some r) :
    ∃ r', p.records[id]? = some r' ∧ r'.inUse = r.inUse := by
  obtain ⟨retired, steps⟩ := past.steps
  obtain ⟨r', found', -⟩ := Steps.name steps found
  have after := (b.steps steps).inUse id r' found'
  rw [zero_add] at after
  exact ⟨r', found', after.trans (b.inUse id r found).symm⟩

theorem CallChain.empty_maxDepth (limits : Limits) :
    CallChain.empty limits.maxDepth = ⟨limits.maxDepth, []⟩ := by
  have least := limits.one_le_maxDepth
  rw [CallChain.empty]
  congr 1
  omega

/-- Between calls nothing is active. -/
theorem Ran.idle {engine : Engine σ ε} {config : PoolConfig} {x : ε × Pool σ ε}
    (ran : Ran engine config x) : x.2.chain = .empty x.2.limits.maxDepth := by
  obtain ⟨retired, reachable⟩ := ran.reachable
  have same : x.2.limits = config.limits := congrArg PoolConfig.limits (Steps.config reachable)
  have start : Upright config.limits.maxDepth (⟨[], .empty config⟩ : Station σ ε) :=
    upright_of_idle (CallChain.empty_maxDepth config.limits)
  rw [same, CallChain.empty_maxDepth]
  exact (Course.upright ran.tracked.course start).chain

/-- A format call from outside, in a ledger that the threads of a pool can get to. Whichever instance is
asked to format, however deep, is asked inside a proper chain of plugins, each with an instance of its
own. A request behind a full chain is refused with the status of a failure, and no instance is touched.
In the end nothing is active any more, and no place is taken that was not taken before. -/
theorem formatText_nested {engine : Engine σ ε} {config : PoolConfig} {s : Ledger σ ε}
    (reachable : Reachable (habit engine) config s) (voiced : s.pool.Voiced)
    (idle : s.pool.chain = .empty s.pool.limits.maxDepth) (path text : String) (m : ConfigMap)
    (e : ε) :
    let q := (ending (PoolM.formatText engine path text m.toDatum) (e, s.pool)).2.2
    (s.pool.events <:+ q.events ∧
      ∀ id n chain older, (.formatting id n chain :: older) <:+ q.events → s.pool.events <:+ older →
        ∃ L hands, Steps (habit engine) s L ∧ L.pool.events = older ∧
          Dispatched L s.pool.limits.maxDepth id n chain hands) ∧
    (∀ (room depth : Nat) (e : ε) (p : Pool σ ε) (b b' : Boundary) (memory memory' : Memory)
      (request : Request) (id : RecordId) (r : PluginRecord),
      b.call room .format memory = (.asks request, b', memory') → p.chain.limit ≤ p.chain.depth →
      p.resolve request.path = some (id, r) → r.name ≠ request.caller →
      ∃ journal, (HostTable.call room (PoolM.below engine depth).ask .format (some b)
          memory).run (e, p) =
        ((.ok (some 2),
          some { b' with error := ⟨some (Fault.depthExceeded p.chain.limit
            (p.chain.active ++ [r.name])).message⟩ }, memory'), e, { p with journal })) ∧
    q.chain = s.pool.chain ∧
    ∀ (id : RecordId) (r : PluginRecord), s.pool.records[id]? = some r →
      ∃ r', q.records[id]? = some r' ∧ r'.inUse = r.inUse := by
  have o : Orderly engine s := .of_reachable reachable
  have limit : s.pool.chain = ⟨s.pool.limits.maxDepth, []⟩ := idle.trans (CallChain.empty_maxDepth _)
  have begun : Tracked (habit engine) s ⟨[], s.pool⟩ [] s.pool := ⟨.refl, voiced⟩
  have tracked := tracked_formatText o .refl rfl path text m e begun
  have upright := upright_of_idle limit
  have past : Past (habit engine) s s.loans 0
      (ending (PoolM.formatText engine path text m.toDatum) (e, s.pool)).2.2 := by
    rcases ends_formatCall o path text m (e, s.pool) (.refl s) with ⟨-, past⟩ | ⟨id, past, -⟩
    · exact past
    · exact past
  refine ⟨⟨Course.events tracked.course, ?_⟩, ?_, ?_, fun id r found => past.inUse o.balanced found⟩
  · intro id n chain older noted since
    obtain ⟨st, course, rfl, cause⟩ := Course.cause tracked.course noted since
    have there := Course.upright course upright
    cases cause with
    | formatting known =>
      obtain ⟨L, hands, steps, rfl, dispatched⟩ := there.dispatched o known
      exact ⟨L, hands, steps, rfl, dispatched⟩
  · intro room depth e p b b' memory memory' request id r asks full resolved other
    exact exists_run_call_of_full engine room depth e asks full resolved other
  · rw [limit]
    exact (Course.upright tracked.course upright).chain

namespace Script

/-- An engine that knows two plugins which ask each other. -/
def askers : Engine ScriptState ScriptCounts :=
  double (asker "a" [102, 46, 98]) (asker "b" [102, 46, 97])

/-- The setup of a pool with room for two plugins twice inside each other. -/
def twoDeep : PoolConfig :=
  ⟨⟨2, .zero false, .zero false, 2, 4, Nat.two_pos, Nat.two_pos, Nat.succ_pos 3⟩, [], []⟩

/-- A pool with both plugins. -/
def twinned : ScriptCounts × Pool ScriptState ScriptCounts :=
  coupled twoDeep (asker "a" [102, 46, 98]) (asker "b" [102, 46, 97])

theorem ran_twinned : Ran askers twoDeep twinned := ran_coupled twoDeep _ _

/-- A format call, which goes to and fro until the chain is full. -/
def toAndFro : Except Fault (Option String) × ScriptCounts × Pool ScriptState ScriptCounts :=
  ending (PoolM.formatText askers "f.a" "x" (ConfigMap.toDatum [])) twinned

/-- The last instance that is called is the second one of its plugin, inside a full chain. -/
theorem exists_events_toAndFro : ∃ newer older,
    toAndFro.2.2.events = newer ++ .formatting 1 3 ["aa", "bb", "aa", "bb"] :: older :=
  ⟨[.succeeded 0, .succeeded 1, .succeeded 0, .succeeded 1],
    [.formatting 0 2 ["aa", "bb", "aa"], .formatting 1 1 ["aa", "bb"], .formatting 0 0 ["aa"]],
    by decide +kernel⟩

/-- The pool that the call begins with: nothing has happened, and a path goes to the first plugin. -/
theorem twinned_begins : (twinned.2.events, twinned.2.limits.maxDepth,
    (twinned.2.resolve "f.a").map fun x => (x.1, x.2.name)) = ([], 4, some (0, "aa")) := by
  decide +kernel

/-- What the host keeps for this instance when it asks in turn. -/
def lastAsking : Boundary := { (Boundary.fresh "bb").bind with path := ⟨some "f.a"⟩ }

end Script

open Script

/-- The general statement for two plugins that ask each other: the second instance of the second one is
called inside the full chain, and its own request is refused. -/
theorem twinned_nested :
    ∃ retired, Reachable (habit askers) twoDeep ⟨twinned.2, 0, retired⟩ ∧ twinned.2.Voiced ∧
      twinned.2.chain = .empty twinned.2.limits.maxDepth ∧
      (∃ L hands, Steps (habit askers) ⟨twinned.2, 0, retired⟩ L ∧
        Dispatched L 4 1 3 ["aa", "bb", "aa", "bb"] hands) ∧
      (∃ journal, (HostTable.call 0 (PoolM.below askers 0).ask .format (some lastAsking)
          (.zeroed 0)).run (twinned.1, { twinned.2 with chain := ⟨4, ["aa", "bb", "aa", "bb"]⟩ }) =
        ((.ok (some 2), some { lastAsking with
          path := .empty
          error := ⟨some (Fault.depthExceeded 4 ["aa", "bb", "aa", "bb", "aa"]).message⟩ },
            .zeroed 0), twinned.1,
          { twinned.2 with chain := ⟨4, ["aa", "bb", "aa", "bb"]⟩, journal })) ∧
      toAndFro.2.2.chain = twinned.2.chain ∧
      ∀ (id : RecordId) (r : PluginRecord), twinned.2.records[id]? = some r →
        ∃ r', toAndFro.2.2.records[id]? = some r' ∧ r'.inUse = r.inUse := by
  have ran := ran_twinned
  have begins := twinned_begins
  obtain ⟨newer, older, events⟩ := exists_events_toAndFro
  -- The pool stands for itself, so that nothing evaluates it again.
  unfold toAndFro at events ⊢
  generalize twinned = x at ran begins events ⊢
  obtain ⟨before, begins⟩ := Prod.mk.inj begins
  obtain ⟨depth, served⟩ := Prod.mk.inj begins
  obtain ⟨⟨id, r⟩, resolved, same⟩ := Option.map_eq_some_iff.1 served
  obtain ⟨rfl, name⟩ := Prod.mk.inj same
  obtain ⟨retired, reachable⟩ := ran.reachable
  obtain ⟨⟨-, witnessed⟩, refuses, chain, inUse⟩ := formatText_nested reachable ran.tracked.voiced ran.idle
    "f.a" "x" [] x.1
  have last : .formatting 1 3 ["aa", "bb", "aa", "bb"] :: older <:+
      (ending (PoolM.formatText askers "f.a" "x" (ConfigMap.toDatum [])) x).2.2.events :=
    ⟨newer, events.symm⟩
  have since : x.2.events <:+ older := before ▸ List.nil_suffix
  obtain ⟨L, hands, steps, -, dispatched⟩ := witnessed 1 3 ["aa", "bb", "aa", "bb"] older last since
  obtain ⟨journal, refused⟩ := refuses 0 0 x.1 { x.2 with chain := ⟨4, ["aa", "bb", "aa", "bb"]⟩ }
    lastAsking { lastAsking with path := .empty } (.zeroed 0) (.zeroed 0) ⟨"bb", "f.a", "", []⟩ 0 r rfl
    (Nat.le_refl 4) resolved (by rw [show r.name = "aa" from name]; decide)
  rw [show r.name = "aa" from name] at refused
  exact ⟨retired, reachable, ran.tracked.voiced, ran.idle, ⟨L, hands, steps, depth ▸ dispatched⟩,
    ⟨journal, refused⟩, chain, inUse⟩

end FormatHost
