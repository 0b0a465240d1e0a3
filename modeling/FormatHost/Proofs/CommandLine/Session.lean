import FormatHost.CommandLine.Run
import FormatHost.Proofs.Ends
import FormatHost.Proofs.Log.Daily
/-!
# What a run does besides formatting

Whatever a run does, it may write to its log meanwhile; apart from that it changes the tree only where it
writes a formatted file. Which plugins it loads depends on what is in the tree outside the log, and what
the pool is after that on the plugins alone.
-/
namespace FormatHost

variable {σ ε α : Type}

namespace Session

variable {s s' t t' : Session σ ε} {zone : List String → Prop} {place : List String}

/-- The places of the log's files. -/
def Owns (s : Session σ ε) (place : List String) : Prop := s.logger.Owns s.tree place

/-- No place of the tree is listed twice, and the names of log files have no slashes. -/
structure Sound (s : Session σ ε) : Prop where
  proper : s.tree.Proper
  whole : ∀ f, s.logger.file = some f → '/' ∉ f.stem.toList

/-- A session has gone on: its tree has changed inside a zone, and nothing was printed. -/
structure Worked (zone : List String → Prop) (s s' : Session σ ε) : Prop where
  sound : s'.Sound
  logger : s'.logger.closed = s.logger.closed
  agree : FileTree.Agree zone s.tree s'.tree
  output : s'.output = s.output

/-- A session has gone on by what was logged. -/
structure Logged (s s' : Session σ ε) : Prop where
  worked : Worked s.Owns s s'
  pool : s'.pool = s.pool
  engine : s'.engine = s.engine

/-- The log stays the same log. -/
theorem exists_file_of_closed {l l' : Logger} (closed : l'.closed = l.closed) {f' : DailyLog}
    (file : l'.file = some f') : ∃ f, l.file = some f ∧ f'.close = f.close := by
  have same : l'.file.map DailyLog.close = l.file.map DailyLog.close := (Logger.mk.inj closed).2.2.2
  rw [file, Option.map_some] at same
  obtain ⟨f, there, closed⟩ := Option.map_eq_some_iff.1 same.symm
  exact ⟨f, there, closed.symm⟩

namespace Worked

theorem refl (sound : s.Sound) (zone : List String → Prop) : Worked zone s s :=
  ⟨sound, rfl, .refl zone _, rfl⟩

theorem trans (first : Worked zone s s') (second : Worked zone s' t) : Worked zone s t :=
  ⟨second.sound, second.logger.trans first.logger, first.agree.trans second.agree,
    second.output.trans first.output⟩

theorem mono {zone' : List String → Prop} (worked : Worked zone s s')
    (more : ∀ place, zone place → zone' place) : Worked zone' s s' :=
  ⟨worked.sound, worked.logger, worked.agree.mono more, worked.output⟩

theorem owns_iff (worked : Worked zone s s') : s'.Owns place ↔ s.Owns place := by
  constructor
  · rintro ⟨f', file, owned⟩
    obtain ⟨f, there, closed⟩ := exists_file_of_closed worked.logger file
    exact ⟨f, there, (DailyLog.owns_iff closed worked.agree).1 owned⟩
  · rintro ⟨f, file, owned⟩
    obtain ⟨f', there, closed⟩ := exists_file_of_closed worked.logger.symm file
    exact ⟨f', there, (DailyLog.owns_iff closed worked.agree.symm).1 owned⟩

/-- What is logged is written inside a zone that has the log in it. -/
theorem log (worked : Worked zone s s') (owned : ∀ place, s.Owns place → zone place)
    (logged : Logged s' t) : Worked zone s t :=
  worked.trans (logged.worked.mono fun place own => owned place (worked.owns_iff.1 own))

end Worked

theorem Logged.refl (sound : s.Sound) : Logged s s := ⟨.refl sound _, rfl, rfl⟩

theorem Logged.trans (first : Logged s s') (second : Logged s' t) : Logged s t :=
  ⟨first.worked.log (fun _ => id) second, second.pool.trans first.pool, second.engine.trans first.engine⟩

theorem logged_log (sound : s.Sound) (clock : Clock) (r : LogRecord) : Logged s (s.log clock r) := by
  have emitted := Logger.wrote_emit sound.whole sound.proper clock.today clock.stamp r
  refine ⟨⟨⟨emitted.proper, fun f' file => ?_⟩, emitted.closed, emitted.agree, rfl⟩, rfl, rfl⟩
  obtain ⟨f, there, closed⟩ := exists_file_of_closed emitted.closed file
  have stem : f'.stem = f.stem := (DailyLog.mk.inj closed).2.1
  exact stem ▸ sound.whole f there

theorem logged_logAll (sound : s.Sound) (clock : Clock) (rs : List LogRecord) :
    Logged s (s.logAll clock rs) := by
  unfold logAll
  induction rs generalizing s with
  | nil => exact .refl sound
  | cons r rest ih =>
    have first := logged_log sound clock r
    exact first.trans (ih first.worked.sound)

/-- What is left of a computation with a pool when its notes were written to the log. -/
def settle (x : ε × Pool σ ε) : ε × Pool σ ε := (x.1, { x.2 with journal := [] })

/-- The session that has this engine and pool. -/
def withPool (s : Session σ ε) (x : ε × Pool σ ε) : Session σ ε := { s with engine := x.1, pool := x.2 }

/-- A computation with the pool does what it does, and what it has noted is logged. -/
theorem exists_run_usePool (sound : s.Sound) (clock : Clock) (use : PoolM σ ε α) :
    ∃ s', (usePool clock use).run s = ((ending use (s.engine, s.pool)).1, s') ∧
      Logged (s.withPool (settle (ending use (s.engine, s.pool)).2)) s' := by
  let x := (ending use (s.engine, s.pool)).2
  have sound' : (s.withPool (settle x)).Sound := ⟨sound.proper, sound.whole⟩
  exact ⟨(s.withPool (settle x)).logAll clock x.2.journal.reverse, rfl, logged_logAll sound' clock _⟩

/-! ### Loading plugins -/

/-- Two sessions have gone on with the same pool, each from where it began. -/
structure Alike (zone : List String → Prop) (s₀ t₀ s t : Session σ ε) : Prop where
  first : Worked zone s₀ s
  second : Worked zone t₀ t
  engine : t.engine = s.engine
  pool : t.pool = s.pool

/-- Two sessions begin with trees that differ inside a zone, in which their logs are. -/
structure Begun (zone : List String → Prop) (s₀ t₀ : Session σ ε) : Prop where
  agree : FileTree.Agree zone s₀.tree t₀.tree
  owned : ∀ place, s₀.Owns place → zone place
  owned' : ∀ place, t₀.Owns place → zone place

/-- Two parts of runs come to the same and keep sessions alike. -/
def Twin (zone : List String → Prop) (s₀ t₀ : Session σ ε) (c c' : M σ ε α) : Prop :=
  ∀ s t, Alike zone s₀ t₀ s t → (c'.run t).1 = (c.run s).1 ∧ Alike zone s₀ t₀ (c.run s).2 (c'.run t).2

section

variable {s₀ t₀ : Session σ ε} {engine : Engine σ ε} {clock clock' : Clock}

theorem Alike.logged (alike : Alike zone s₀ t₀ s t) (begun : Begun zone s₀ t₀) (one : Logged s s')
    (other : Logged t t') : Alike zone s₀ t₀ s' t' where
  first := alike.first.log begun.owned one
  second := alike.second.log begun.owned' other
  engine := other.engine.trans (alike.engine.trans one.engine.symm)
  pool := other.pool.trans (alike.pool.trans one.pool.symm)

/-- The trees of both differ inside the zone. -/
theorem Alike.agree (alike : Alike zone s₀ t₀ s t) (begun : Begun zone s₀ t₀) :
    FileTree.Agree zone s.tree t.tree :=
  (alike.first.agree.symm.trans begun.agree).trans alike.second.agree

theorem twin_usePool (begun : Begun zone s₀ t₀) (use : PoolM σ ε α) :
    Twin zone s₀ t₀ (usePool clock use) (usePool clock' use) := by
  intro s t alike
  obtain ⟨s', ran, logged⟩ := exists_run_usePool alike.first.sound clock use
  obtain ⟨t', ran', logged'⟩ := exists_run_usePool alike.second.sound clock' use
  rw [alike.engine, alike.pool] at ran' logged'
  rw [ran, ran']
  refine ⟨rfl, Alike.logged ?_ begun logged logged'⟩
  exact ⟨⟨⟨alike.first.sound.proper, alike.first.sound.whole⟩, alike.first.logger, alike.first.agree,
    alike.first.output⟩, ⟨⟨alike.second.sound.proper, alike.second.sound.whole⟩, alike.second.logger,
    alike.second.agree, alike.second.output⟩, rfl, rfl⟩

/-- A path that leads out of the zone is read alike. -/
theorem Alike.read (alike : Alike zone s₀ t₀ s t) (begun : Begun zone s₀ t₀) {p : Path}
    (foreign : ∀ q, s₀.tree.place p = .ok q → ¬zone q) :
    ∀ data, t.tree.read p = .ok data ↔ s.tree.read p = .ok data := by
  have agree := alike.agree begun
  intro data
  constructor
  · intro read
    obtain ⟨q, leads, -⟩ := FileTree.read_eq_ok_iff.1 read
    have out := foreign q (alike.first.agree.leads_iff.1 (agree.leads_iff.1 leads))
    exact agree.symm.read leads out read
  · intro read
    obtain ⟨q, leads, -⟩ := FileTree.read_eq_ok_iff.1 read
    have out := foreign q (alike.first.agree.leads_iff.1 leads)
    exact agree.read leads out read

theorem run_loadPlugin_of_error {p : Path} {e : FileError} (failed : s.tree.read p = .error e) :
    ∃ r, (loadPlugin engine clock p).run s = (.ok (), s.log clock r) := by
  refine ⟨.error Discovery.logger ("Failed to read plugin " ++ p.toString ++ ": " ++ e.message p), ?_⟩
  rw [loadPlugin, StateT.run_bind, StateT.run_get, pure_bind]
  simp only [failed]
  rfl

theorem run_loadPlugin_of_ok {p : Path} {data : Bytes} (read : s.tree.read p = .ok data) :
    (loadPlugin engine clock p).run s =
      (((usePool clock (PoolM.register engine p.stem data)).run s).1.map fun _ => (),
        ((usePool clock (PoolM.register engine p.stem data)).run s).2) := by
  rw [loadPlugin, StateT.run_bind, StateT.run_get, pure_bind]
  simp only [read]
  rfl

theorem twin_loadPlugin (begun : Begun zone s₀ t₀) {p : Path}
    (foreign : ∀ q, s₀.tree.place p = .ok q → ¬zone q) :
    Twin zone s₀ t₀ (loadPlugin engine clock p) (loadPlugin engine clock' p) := by
  intro s t alike
  have same := alike.read begun foreign
  cases one : s.tree.read p with
  | error e =>
    cases other : t.tree.read p with
    | ok data => exact absurd ((same data).1 other) (by simp [one])
    | error e' =>
      obtain ⟨r, ran⟩ : ∃ r, (loadPlugin engine clock p).run s = (.ok (), s.log clock r) :=
        run_loadPlugin_of_error one
      obtain ⟨r', ran'⟩ : ∃ r, (loadPlugin engine clock' p).run t = (.ok (), t.log clock' r) :=
        run_loadPlugin_of_error other
      rw [ran, ran']
      exact ⟨rfl, alike.logged begun (logged_log alike.first.sound clock r)
        (logged_log alike.second.sound clock' r')⟩
  | ok data =>
    rw [run_loadPlugin_of_ok one, run_loadPlugin_of_ok ((same data).2 one)]
    have registered : Twin zone s₀ t₀ (usePool clock (PoolM.register engine p.stem data))
      (usePool clock' (PoolM.register engine p.stem data)) := twin_usePool begun _
    obtain ⟨result, after⟩ := registered s t alike
    exact ⟨congrArg (Except.map fun _ => ()) result, after⟩

theorem twin_loadPlugins (begun : Begun zone s₀ t₀) {ps : List Path}
    (foreign : ∀ p ∈ ps, ∀ q, s₀.tree.place p = .ok q → ¬zone q) :
    Twin zone s₀ t₀ (loadPlugins engine clock ps) (loadPlugins engine clock' ps) := by
  induction ps with
  | nil => exact fun s t alike => ⟨rfl, alike⟩
  | cons p rest ih =>
    intro s t alike
    have first : Twin zone s₀ t₀ (loadPlugin engine clock p) (loadPlugin engine clock' p) :=
      twin_loadPlugin begun (foreign p List.mem_cons_self)
    obtain ⟨result, after⟩ := first s t alike
    have later := ih fun p mem => foreign p (List.mem_cons_of_mem _ mem)
    rw [loadPlugins, loadPlugins, StateT.run_bind, StateT.run_bind]
    revert result after
    rcases (loadPlugin engine clock p).run s with ⟨f | _, s'⟩ <;>
      rcases (loadPlugin engine clock' p).run t with ⟨f' | _, t'⟩ <;> intro result after
    · exact ⟨result, after⟩
    · simp at result
    · simp at result
    · exact later s' t' after

/-- No place of a zone is that of a plugin in a directory. -/
def Foreign (t : FileTree) (directory : Path) (zone : List String → Prop) : Prop :=
  ∀ q name, t.place directory = .ok q → zone (q ++ [name]) →
    (Path.splitName name).2 ≠ Discovery.suffix

/-- The same plugins are discovered. -/
theorem Alike.discover (alike : Alike zone s₀ t₀ s t) (begun : Begun zone s₀ t₀) {directory : Path}
    (foreign : Foreign s₀.tree directory zone) :
    (Discovery.discover t.tree directory).1 = (Discovery.discover s.tree directory).1 := by
  have agree := alike.agree begun
  rw [Discovery.discover_fst, Discovery.discover_fst, agree.isDirectory,
    Discovery.candidates_eq alike.first.sound.proper alike.second.sound.proper agree
      fun q name leads => foreign q name (alike.first.agree.leads_iff.1 leads)]

/-- What is discovered leads out of the zone. -/
theorem foreign_of_mem_discover {u : FileTree} (proper : u.Proper) {directory : Path}
    (foreign : Foreign s₀.tree directory zone) {p : Path}
    (mem : p ∈ (Discovery.discover u directory).1) {q : List String}
    (leads : s₀.tree.place p = .ok q) : ¬zone q := by
  rw [Discovery.discover_fst] at mem
  split at mem
  · obtain ⟨name, listed, rfl⟩ := List.mem_map.1 mem
    obtain ⟨suffixed, -⟩ := (Discovery.mem_candidates_iff proper).1 (List.mem_filter.1 listed).1
    have plain : name ≠ ".." := by
      rintro rfl
      exact absurd suffixed (by decide)
    obtain ⟨q', found, rfl⟩ := FileTree.exists_of_join plain leads
    exact fun within => foreign q' name found within suffixed
  · exact absurd mem List.not_mem_nil

/-- The session in which it was logged that there are no plugins, if all was loaded and there are none. -/
def missed (s : Session σ ε) (clock : Clock) (directory : Path) (result : Except Fault Unit) :
    Session σ ε :=
  if result.toBool && !s.hasPlugins then
    s.log clock (.error loggerName ("No usable plugins found in " ++ directory.toString))
  else s

theorem logged_missed (sound : s.Sound) (clock : Clock) (directory : Path) (result : Except Fault Unit) :
    Logged s (s.missed clock directory result) := by
  unfold missed
  split
  · exact logged_log sound clock _
  · exact .refl sound

/-- The plugins that are discovered are loaded. -/
theorem run_loadDirectory (s : Session σ ε) (directory : Path) {result : Except Fault Unit}
    (loaded : (loadPlugins engine clock (Discovery.discover s.tree directory).1).run
      (s.logAll clock (Discovery.discover s.tree directory).2) = (result, s')) :
    (loadDirectory engine clock directory).run s = (result, s'.missed clock directory result) := by
  rw [loadDirectory, StateT.run_bind, StateT.run_get, pure_bind]
  revert loaded
  rcases Discovery.discover s.tree directory with ⟨found, records⟩
  intro loaded
  simp only
  rw [StateT.run_bind, StateT.run_modify, pure_bind, StateT.run_bind, loaded]
  cases result with
  | error f => rfl
  | ok _ =>
    unfold missed
    change StateT.run (ite ((!s'.hasPlugins) = true)
      (modify _ >>= fun _ => pure (Except.ok ())) (pure (Except.ok ()))) s' = _
    cases s'.hasPlugins <;> rfl

/-- The same plugins are loaded into the pool, whatever is logged meanwhile. -/
theorem twin_loadDirectory (begun : Begun zone s₀ t₀) {directory : Path}
    (foreign : Foreign s₀.tree directory zone) :
    Twin zone s₀ t₀ (loadDirectory engine clock directory) (loadDirectory engine clock' directory) := by
  intro s t alike
  let found := (Discovery.discover s.tree directory).1
  have alike₁ : Alike zone s₀ t₀ (s.logAll clock (Discovery.discover s.tree directory).2)
      (t.logAll clock' (Discovery.discover t.tree directory).2) :=
    alike.logged begun (logged_logAll alike.first.sound clock _)
      (logged_logAll alike.second.sound clock' _)
  have loaded : Twin zone s₀ t₀ (loadPlugins engine clock found) (loadPlugins engine clock' found) :=
    twin_loadPlugins begun fun p mem q leads =>
      foreign_of_mem_discover alike.first.sound.proper foreign mem leads
  obtain ⟨result, after⟩ := loaded _ _ alike₁
  have same : (Discovery.discover t.tree directory).1 = found := alike.discover begun foreign
  rw [run_loadDirectory s directory rfl, run_loadDirectory t directory rfl, same]
  exact ⟨result, after.logged begun (logged_missed after.first.sound clock directory _)
    (logged_missed after.second.sound clock' directory _)⟩

end

end Session
end FormatHost
