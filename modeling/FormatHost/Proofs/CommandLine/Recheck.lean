import FormatHost.Proofs.CommandLine.Clean
import FormatHost.Proofs.CommandLine.Setup
import FormatHost.Proofs.Pool.Delegation
import FormatHost.Proofs.Pool.Steady
/-!
# Runs after runs

Who formats files and then checks them finds nothing to format, and who formats them again changes nothing.
What this rests on is that a text is read back as it was written. That holds as long as formatters add no
carriage returns: these are written as they are, and read as line feeds.
-/
namespace FormatHost

variable {σ ε : Type}

namespace Session

variable {engine : Engine σ ε} {f : String → String → Option String} {s s₁ : Session σ ε}
  {clock : Clock} {o : Options} {directory : Path}

/-- The session in which the plugins were listed, if they are to be. -/
def listed (s : Session σ ε) (clock : Clock) (list : Bool) : Session σ ε :=
  if list then s.printListing clock else s

/-- To list the plugins is to print something. -/
theorem exists_listed (s : Session σ ε) (clock : Clock) (list : Bool) :
    ∃ text, s.listed clock list = s.print text := by
  have nothing : s = s.print "" := by simp [print]
  unfold listed
  split
  · unfold printListing
    split
    · exact ⟨_, rfl⟩
    · exact ⟨"", nothing⟩
  · exact ⟨"", nothing⟩

/-- Where plugins cannot be loaded nothing is done with files. -/
theorem run_work_of_error {e : Fault}
    (failed : (loadDirectory engine clock directory).run s = (.error e, s₁)) :
    (work engine clock o directory).run s = (.error (.pool e), s₁) := by
  rw [work, StateT.run_bind, failed]
  rfl

/-- Who wants a listing only gets nothing else. -/
theorem run_work_of_listing
    (loaded : (loadDirectory engine clock directory).run s = (.ok (), s₁))
    (only : (o.list && o.files.isEmpty) = true) :
    (work engine clock o directory).run s = (.ok 0, s₁.listed clock o.list) := by
  have list : o.list = true := by simp_all
  rw [work, StateT.run_bind, loaded]
  simp only [list, if_true, Bool.true_and, listed] at only ⊢
  rw [only]
  rfl

/-- Otherwise files are formatted, and the pool is shut down after that. -/
theorem run_work_of_ok (loaded : (loadDirectory engine clock directory).run s = (.ok (), s₁))
    (more : (o.list && o.files.isEmpty) = false) :
    (work engine clock o directory).run s =
      let x := (formatFiles engine clock o.check 0 o.files).run (s₁.listed clock o.list)
      (x.1, ((usePool clock PoolM.shutdown).run x.2).2) := by
  rw [work, StateT.run_bind, loaded]
  simp only [more, listed]
  cases o.list <;> rfl

/-- What a log owns are no plugins. -/
theorem foreign_owns (s : Session σ ε) (directory : Path) : Foreign s.tree directory s.Owns := by
  rintro q name - ⟨log, -, q', name', -, same, named⟩
  obtain ⟨-, last⟩ := List.append_inj' same rfl
  obtain rfl : name = name' := List.head_eq_of_cons_eq last
  exact named.plain.2

/-- To load plugins changes the log at most. -/
theorem worked_loadDirectory (sound : s.Sound) (engine : Engine σ ε) (clock : Clock)
    (directory : Path) : Worked s.Owns s ((loadDirectory engine clock directory).run s).2 := by
  have twin : Twin s.Owns s s (loadDirectory engine clock directory)
      (loadDirectory engine clock directory) :=
    twin_loadDirectory ⟨.refl _ _, fun _ => id, fun _ => id⟩ (foreign_owns s directory)
  exact (twin s s ⟨.refl sound _, .refl sound _, rfl, rfl⟩).2.first

/-- What was printed before does not matter. -/
theorem Worked.print {zone : List String → Prop} (worked : Worked zone s s₁) (text : String) :
    Worked zone (s.print text) (s₁.print text) :=
  ⟨⟨worked.sound.proper, worked.sound.whole⟩, worked.logger, worked.agree,
    congrArg (fun output => output ++ text) worked.output⟩

theorem Apart.print {files : List String} (apart : s.Apart files) (text : String) :
    (s.print text).Apart files :=
  ⟨apart.log, apart.same⟩

/-- To use the pool changes the log at most. -/
theorem worked_usePool {α : Type} (sound : s.Sound) (clock : Clock) (use : PoolM σ ε α) :
    Worked s.Owns s ((usePool clock use).run s).2 := by
  obtain ⟨s', ran, logged⟩ := exists_run_usePool sound clock use
  rw [ran]
  exact ⟨logged.worked.sound, logged.worked.logger, logged.worked.agree, logged.worked.output⟩

/-- After files were formatted without a fault all of them are clean, and nothing has changed but they and
the log. -/
theorem clean_of_work (idempotent : Idempotent f) (unbroken : Unbroken f) (sound : s.Sound)
    (apart : s.Apart o.files)
    (formats : ((loadDirectory engine clock directory).run s).2.FormatsFiles engine o.files f)
    (check : o.check = false) {s' : Session σ ε}
    (done : (work engine clock o directory).run s = (.ok 0, s')) :
    ((loadDirectory engine clock directory).run s).1 = .ok () ∧
      (∃ text, Worked (s.Touches o.files) (s.print text) s') ∧ ∀ name ∈ o.files, Clean f s'.tree name := by
  have first := worked_loadDirectory sound engine clock directory
  rcases loaded : (loadDirectory engine clock directory).run s with ⟨e | _, s₁⟩
  · have refused : (Except.error (.pool e) : FileOutcome) = .ok 0 :=
      congrArg Prod.fst ((run_work_of_error loaded).symm.trans done)
    exact absurd refused (by simp)
  rw [loaded] at first formats
  refine ⟨rfl, ?_⟩
  obtain ⟨text, listed⟩ := exists_listed s₁ clock o.list
  have begun := first.print text
  cases only : o.list && o.files.isEmpty with
  | true =>
    have same := (run_work_of_listing loaded only).symm.trans done
    obtain rfl : s₁.listed clock o.list = s' := congrArg Prod.snd same
    have none : o.files = [] := by simp_all
    rw [listed, none]
    exact ⟨⟨text, begun.mono fun _ => .inl⟩, fun _ mem => absurd mem List.not_mem_nil⟩
  | false =>
    rw [run_work_of_ok loaded only, listed, check] at done
    rcases formatted : (formatFiles engine clock false 0 o.files).run (s₁.print text) with ⟨r, s₂⟩
    rw [formatted] at done
    obtain ⟨rfl, rfl⟩ := Prod.mk.inj done
    obtain ⟨worked, clean, -⟩ := clean_of_formatFiles idempotent unbroken (fun _ => id) begun.sound
      ((apart.print text).worked begun) formats formatted
    have whole := (begun.mono fun _ => .inl).trans
      (worked.mono fun q => (touches_iff begun).1)
    have last := worked_usePool whole.sound clock (PoolM.shutdown (σ := σ) (ε := ε))
    refine ⟨⟨text, whole.trans (last.mono fun q own => .inl (whole.owns_iff.1 own))⟩, ?_⟩
    intro name mem
    refine (clean name mem).of_agree last.agree fun q leads own => ?_
    exact apart.log name mem q (whole.agree.leads_iff.1 leads) (whole.owns_iff.1 own)

/-- Where all files are clean they are left as they are, and nothing is printed of them. -/
theorem exists_work_of_clean (sound : s.Sound) (apart : s.Apart o.files)
    (loaded : (loadDirectory engine clock directory).run s = (.ok (), s₁))
    (formats : s₁.FormatsFiles engine o.files f) (clean : ∀ name ∈ o.files, Clean f s.tree name) :
    ∃ s', (work engine clock o directory).run s = (.ok 0, s') ∧
      FileTree.Agree s.Owns s.tree s'.tree ∧ s'.output = (s₁.listed clock o.list).output := by
  have first := worked_loadDirectory sound engine clock directory
  rw [loaded] at first
  obtain ⟨text, listed⟩ := exists_listed s₁ clock o.list
  have begun := first.print text
  cases only : o.list && o.files.isEmpty with
  | true =>
    refine ⟨_, run_work_of_listing loaded only, ?_, rfl⟩
    rw [listed]
    exact begun.agree
  | false =>
    obtain ⟨s₂, formatted, worked⟩ := exists_formatFiles_of_clean (fun _ => id) begun.sound
      ((apart.print text).worked begun) formats
      (fun name mem => (clean name mem).of_agree begun.agree (apart.log name mem)) clock o.check 0
    have whole := begun.trans (worked.mono fun q => begun.owns_iff.1)
    have last := worked_usePool whole.sound clock (PoolM.shutdown (σ := σ) (ε := ε))
    refine ⟨_, ?_, (whole.trans (last.mono fun q => whole.owns_iff.1)).agree, ?_⟩
    · rw [run_work_of_ok loaded only, listed]
      simp only [formatted]
    · rw [listed]
      exact last.output.trans worked.output

end Session

/-! ### Plugins that compute -/

/-- In a steady pool format calls answer by what the plugins of the paths compute, now and later. -/
theorem Pool.Steady.formats {c : Bytes → Calculus σ} {x : ε × Pool σ ε} (steady : x.2.Steady c)
    (engine : Engine σ ε) {paths : List String} {f : String → String → Option String}
    (handled : ∀ path ∈ paths, x.2.answerer? c path = some (f path)) :
    Formats engine paths f x := by
  have still (y : ε × Pool σ ε) (formatted : Formatted engine paths x y) :
      y.2.Steady c ∧ ∀ path, y.2.answerer? c path = x.2.answerer? c path := by
    induction formatted with
    | begun => exact ⟨steady, fun _ => rfl⟩
    | @called y _ path mem text ih =>
      obtain ⟨e', q⟩ := y
      obtain ⟨steady, same⟩ := ih
      obtain ⟨e'', q', ran, steady', same'⟩ :=
        steady.exists_ending_formatText engine e' ((same path).trans (handled path mem)) text
      rw [ran]
      exact ⟨steady'.notes rfl rfl rfl, fun path => (same' path).trans (same path)⟩
  intro y formatted path mem text
  obtain ⟨e', q⟩ := y
  obtain ⟨steady, same⟩ := still _ formatted
  obtain ⟨e'', q', ran, -⟩ :=
    steady.exists_ending_formatText engine e' ((same path).trans (handled path mem)) text
  rw [ran]

theorem Pool.Steady.settle {c : Bytes → Calculus σ} {x : ε × Pool σ ε} (steady : x.2.Steady c) :
    (Session.settle x).2.Steady c :=
  steady.notes rfl rfl rfl

/-- Where a directory has one plugin the pool is what its registration makes of it. -/
theorem Session.pool_of_single {engine : Engine σ ε} {clock : Clock} {directory p : Path} {data : Bytes}
    {s : Session σ ε} (sound : s.Sound) (found : (Discovery.discover s.tree directory).1 = [p])
    (read : s.tree.read p = .ok data) :
    let s' := ((loadDirectory engine clock directory).run s).2
    (s'.engine, s'.pool) =
      settle (ending (PoolM.register engine p.stem data) (s.engine, s.pool)).2 := by
  let s₀ := s.logAll clock (Discovery.discover s.tree directory).2
  have logged : Logged s s₀ := logged_logAll sound clock _
  have read₀ : s₀.tree.read p = .ok data := by
    obtain ⟨q, leads, -⟩ := FileTree.read_eq_ok_iff.1 read
    refine logged.worked.agree.read leads ?_ read
    exact foreign_of_mem_discover sound.proper (foreign_owns s directory)
      (found ▸ List.mem_singleton_self p) leads
  obtain ⟨s₁, ran, logged₁⟩ :=
    exists_run_usePool logged.worked.sound clock (PoolM.register engine p.stem data)
  obtain ⟨result, loaded⟩ : ∃ result, (loadPlugins engine clock [p]).run s₀ = (result, s₁) := by
    rw [loadPlugins, StateT.run_bind, run_loadPlugin_of_ok read₀, ran]
    cases (ending (PoolM.register engine p.stem data) (s₀.engine, s₀.pool)).1 with
    | error f => exact ⟨_, rfl⟩
    | ok id => exact ⟨_, rfl⟩
  intro s'
  have last : Logged s₁ s' := by
    have whole := run_loadDirectory s directory (found.symm ▸ loaded)
    rw [show s' = s₁.missed clock directory result from congrArg Prod.snd whole]
    exact logged_missed logged₁.worked.sound clock directory result
  rw [last.engine, last.pool, logged₁.engine, logged₁.pool, logged.engine, logged.pool]
  rfl

/-! ### Run after run -/

namespace Run

/-- The files of a run are neither plugins nor read for settings, and lie apart from its log; each of them
has one path. -/
structure Separate (o : Options) (tree : FileTree) (s : Session σ ε) (plugins : Path) : Prop where
  files : s.Apart o.files
  config : ∀ name, o.config.filter (· != "") = some name → ∃ q data,
    tree.place (.ofString name) = .ok q ∧ tree.node? q = some (.file data) ∧
      ¬s.Touches o.files q
  envFile : ∃ q, tree.place Settings.envFileName = .ok q ∧ ¬s.Has o.files q
  plugins : Session.Foreign s.tree plugins (s.Has o.files)

section

variable {engine : Engine σ ε} {start : ε} {clock : Clock} {environment : List (String × String)}
  {o : Options} {tree : FileTree} {s : Session σ ε} {plugins : Path}
  {f : String → String → Option String}

theorem Separate.settled (separate : Separate o tree s plugins) :
    Settled o tree (s.Touches o.files) where
  config := separate.config
  envFile := by
    obtain ⟨q, leads, apart⟩ := separate.envFile
    refine ⟨q, leads, ?_⟩
    rintro (⟨log, -, d, name, -, same, named⟩ | file)
    · obtain ⟨home, -, here⟩ : ∃ home, tree.place ⟨"", []⟩ = .ok home ∧ q = home ++ [".env"] :=
        FileTree.exists_of_join (by decide) leads
      obtain ⟨-, last⟩ := List.append_inj' (here.symm.trans same) rfl
      obtain rfl : ".env" = name := List.head_eq_of_cons_eq last
      rcases named.2 with ends | ends <;> exact absurd ends (by decide)
    · exact apart file

theorem Separate.foreign (separate : Separate o tree s plugins) :
    Session.Foreign s.tree plugins (s.Touches o.files) := by
  rintro q name leads (own | file)
  · exact Session.foreign_owns s plugins q name leads own
  · exact separate.plugins q name leads file

/-- A run that comes to nothing else has something to do. -/
theorem busy_of_done (opened : session start environment o tree = .ok (s, plugins))
    (done : (withOptions engine start clock environment o tree).status = .ok 0) :
    (o.files.isEmpty && !o.list) = false := by
  refine Bool.eq_false_iff.2 fun idle => ?_
  rw [withOptions_of_idle opened engine clock idle] at done
  exact absurd done (by simp)

/-- A run over clean files changes nothing but the log, and prints its listing at most. -/
theorem withOptions_of_clean (engine : Engine σ ε) (clock : Clock)
    (opened : session start environment o tree = .ok (s, plugins)) (sound : s.Sound)
    (apart : s.Apart o.files) {s₁ : Session σ ε}
    (loaded : (Session.loadDirectory engine clock plugins).run s = (.ok (), s₁))
    (formats : s₁.FormatsFiles engine o.files f) (clean : ∀ name ∈ o.files, Clean f s.tree name)
    (busy : (o.files.isEmpty && !o.list) = false) :
    let x := withOptions engine start clock environment o tree
    x.status = .ok 0 ∧ x.output = (s₁.listed clock o.list).output ∧
      FileTree.Agree s.Owns s.tree x.tree := by
  obtain ⟨s', formatted, agree, output⟩ := Session.exists_work_of_clean sound apart loaded formats clean
  rw [withOptions_eq opened engine clock busy, formatted]
  exact ⟨rfl, output, agree⟩

/-- What a run prints that was given no files. -/
theorem output_of_none (engine : Engine σ ε) (clock : Clock)
    (opened : session start environment o tree = .ok (s, plugins)) (sound : s.Sound)
    {s₁ : Session σ ε} (loaded : (Session.loadDirectory engine clock plugins).run s = (.ok (), s₁)) :
    (withOptions engine start clock environment { o with files := [] } tree).output =
      (s₁.listed clock o.list).output := by
  have opened : session start environment { o with files := [] } tree = .ok (s, plugins) := opened
  rcases Bool.eq_false_or_eq_true o.list with list | list
  · rw [withOptions_eq opened engine clock (by simp [list]),
      Session.run_work_of_listing loaded (by simp [list])]
  · rw [withOptions_of_idle opened engine clock (by simp [list]), list]
    obtain ⟨entries, settings, config, steps⟩ := exists_of_session opened
    have first := Session.worked_loadDirectory sound engine clock plugins
    rw [loaded] at first
    exact (first.output.trans (congrArg Session.output steps.begun)).symm

/-- Where a run has changed its files and its log only, another one begins in the same way and loads the
same plugins. -/
theorem reload (opened : session start environment o tree = .ok (s, plugins))
    (separate : Separate o tree s plugins) (sound : s.Sound)
    (loaded : ((Session.loadDirectory engine clock plugins).run s).1 = .ok ())
    (formats : ((Session.loadDirectory engine clock plugins).run s).2.FormatsFiles engine o.files f)
    {after : FileTree} (proper : after.Proper) (agree : FileTree.Agree (s.Touches o.files) s.tree after)
    (clock' : Clock) :
    let t : Session σ ε := { s with tree := after }
    session start environment o after = .ok (t, plugins) ∧ Session.Worked (s.Touches o.files) s t ∧
      ∃ t₁, (Session.loadDirectory engine clock' plugins).run t = (.ok (), t₁) ∧
        t₁.FormatsFiles engine o.files f := by
  intro t
  have changed : Session.Worked (s.Touches o.files) s t := ⟨⟨proper, sound.whole⟩, rfl, agree, rfl⟩
  have twin : Session.Twin (s.Touches o.files) s t (Session.loadDirectory engine clock plugins)
      (Session.loadDirectory engine clock' plugins) :=
    Session.twin_loadDirectory ⟨agree, fun _ => .inl, fun _ own => .inl (changed.owns_iff.1 own)⟩
      separate.foreign
  obtain ⟨result, alike⟩ := twin s t ⟨.refl sound _, .refl changed.sound _, rfl, rfl⟩
  refine ⟨session_again opened separate.settled agree, changed, _, Prod.ext (result.trans loaded) rfl, ?_⟩
  unfold Session.FormatsFiles
  rw [alike.engine, alike.pool]
  exact formats

/-- Who formats files and then checks them finds nothing to format, and who formats them again changes
nothing, if formatters are functions of path and text, leave formatted texts alone and add no carriage
returns. -/
theorem clean_after_format (proper : tree.Proper)
    (opened : session start environment o tree = .ok (s, plugins))
    (separate : Separate o tree s plugins)
    (formats : ((Session.loadDirectory engine clock plugins).run s).2.FormatsFiles engine o.files f)
    (idempotent : Idempotent f) (unbroken : Unbroken f) (check : o.check = false)
    (done : (withOptions engine start clock environment o tree).status = .ok 0) (clock' : Clock) :
    let after := (withOptions engine start clock environment o tree).tree
    let checked := withOptions engine start clock' environment { o with check := true } after
    let repeated := withOptions engine start clock' environment o after
    (checked.status = .ok 0 ∧
      checked.output = (withOptions engine start clock' environment { o with files := [] } after).output ∧
      ∀ place, ¬s.Owns place → checked.tree.node? place = after.node? place) ∧
    repeated.status = .ok 0 ∧
      ∀ place, ¬s.Owns place → repeated.tree.node? place = after.node? place := by
  have sound := sound_of_session proper opened
  have busy := busy_of_done opened done
  have first := withOptions_eq opened engine clock busy
  rcases ran : (Session.work engine clock o plugins).run s with ⟨status, s'⟩
  rw [ran] at first
  rw [first] at done ⊢
  obtain rfl : status = .ok 0 := done
  obtain ⟨loaded, ⟨text, worked⟩, clean⟩ := Session.clean_of_work idempotent unbroken sound
    separate.files formats check ran
  obtain ⟨opened', changed, t₁, loaded', formats'⟩ :=
    reload opened separate sound loaded formats worked.sound.proper worked.agree clock'
  have apart := separate.files.worked changed
  obtain ⟨status, output, kept⟩ := withOptions_of_clean (o := { o with check := true }) engine clock'
    opened' changed.sound apart loaded' formats' clean busy
  obtain ⟨status', -, kept'⟩ := withOptions_of_clean engine clock' opened' changed.sound apart loaded'
    formats' clean busy
  refine ⟨⟨status, ?_, fun place out => ?_⟩, status', fun place out => ?_⟩
  · exact output.trans (output_of_none engine clock' opened' changed.sound loaded').symm
  · exact kept.outside place fun own => out (changed.owns_iff.1 own)
  · exact kept'.outside place fun own => out (changed.owns_iff.1 own)

end

end Run

namespace Run

open Script

/-- A working directory with one plugin and an empty configuration, beside a file that ends with a blank. -/
def desk : FileTree where
  home := ["home"]
  nodes := [
    (["home"], .directory),
    (["home", "e.yaml"], .file []),
    (["home", "plugins"], .directory),
    (["home", "plugins", "aa.compiled"], .file [1]),
    (["f.a"], .file (Utf8.encode "x "))]

theorem proper_desk : desk.Proper := by
  simp [FileTree.Proper, desk]

/-- The file is to be formatted. -/
def errand : Options := ⟨["/f.a"], some "e.yaml", none, false, false, none⟩

/-- No log is written. -/
def quiet : List (String × String) := [("FMTBRIDGE_LOG_DIR", "")]

def noon : Clock := .of ⟨2024, 1, 2⟩ 12 0 0 .null

/-- A run with a script as the plugin. -/
def onDesk (script : Script) (o : Options) (tree : FileTree) : RunResult :=
  withOptions (single script) .zero noon quiet o tree

/-- The run begins without a log, and the plugin can be loaded and handles the file. -/
def deskReady (script : Script) : Bool :=
  match (session .zero quiet errand desk :
    Except RunFault (Session ScriptState ScriptCounts × Path)) with
  | .error _ => false
  | .ok (s, plugins) =>
    let p := (ending (PoolM.register (single script) "aa" [1]) (s.engine, s.pool)).2.2
    s.logger.file.isNone && s.tree.home == desk.home && s.tree.nodes == desk.nodes &&
      plugins == ⟨"", ["plugins"]⟩ &&
      p.records.all (fun r => r.status == .loaded && !r.idle.isEmpty) && (p.resolve "/f.a").isSome

/-- An engine of one script knows no other module. -/
theorem exists_of_single {script : Script} {moduleBytes : Bytes} {e : ScriptCounts}
    {m : Module ScriptState ScriptCounts} (known : (single script moduleBytes e).1 = .ok m) :
    ∃ key, m = script.toModule key := by
  unfold single engine engineOf at known
  dsimp only at known
  split at known
  · exact absurd known (by simp)
  · next found =>
    obtain ⟨entry, there, rfl⟩ := Option.map_eq_some_iff.1 found
    obtain rfl := List.mem_singleton.1 (List.mem_of_find?_eq_some there)
    split at known
    · exact absurd known (by simp)
    · exact ⟨moduleBytes, (Except.ok.inj known).symm⟩

/-- Without a log the file of the desk is apart from everything else. -/
theorem separate_desk {s : Session σ ε} (noLog : s.logger.file = none) (tree : s.tree = desk) :
    Separate errand desk s ⟨"", ["plugins"]⟩ := by
  have unowned (q : List String) : ¬s.Owns q := by
    rintro ⟨log, file, -⟩
    exact absurd (noLog.symm.trans file) (by simp)
  have only (q : List String) (file : s.Has errand.files q) : q = ["f.a"] := by
    obtain ⟨name, mem, leads⟩ := file
    obtain rfl := List.mem_singleton.1 mem
    rw [tree] at leads
    exact (Except.ok.inj leads).symm
  refine ⟨⟨fun name mem q leads => unowned q, ?same⟩, ?config, ?envFile, ?plugins⟩
  case same =>
    intro a mem b mem' q leads leads'
    rw [List.mem_singleton.1 mem, List.mem_singleton.1 mem']
  case config =>
    intro name named
    obtain rfl : "e.yaml" = name := Option.some.inj named
    refine ⟨["home", "e.yaml"], [], rfl, rfl, ?_⟩
    rintro (own | file)
    · exact unowned _ own
    · exact absurd (only _ file) (by decide)
  case envFile => exact ⟨["home", ".env"], rfl, fun file => absurd (only _ file) (by decide)⟩
  case plugins =>
    intro q name leads file
    rw [tree] at leads
    obtain rfl : ["home", "plugins"] = q := Except.ok.inj leads
    exact absurd (only _ file) (by simp)

/-- A plain script that answers with a function of the text formats the file of the desk by it. -/
theorem formats_desk {script : Script} (plain : script.Plain) (pred : Nat)
    (size : script.bufferSize = (pred + 1 : Nat)) (nonneg : 0 ≤ script.bufferPointer)
    (room : script.bufferPointer + (pred + 1 : Nat) ≤ script.memorySize) {step : FormatStep}
    (format : script.format = [step]) {f : String → Option String} (answers : step.answer? = some f)
    (ready : deskReady script = true) :
    ∃ (s : Session ScriptState ScriptCounts) (plugins : Path),
      session .zero quiet errand desk = .ok (s, plugins) ∧ Separate errand desk s plugins ∧
      ((Session.loadDirectory (single script) noon plugins).run s).2.FormatsFiles (single script)
        errand.files fun _ => f := by
  unfold deskReady at ready
  split at ready
  · exact absurd ready (by simp)
  next s plugins opened =>
  simp only [Bool.and_eq_true, beq_iff_eq, Option.isNone_iff_eq_none, List.all_eq_true,
    Bool.not_eq_true', List.isEmpty_eq_false_iff] at ready
  obtain ⟨⟨⟨⟨⟨noLog, home⟩, nodes⟩, rfl⟩, waits⟩, handled⟩ := ready
  have tree : s.tree = desk := by
    rw [show s.tree = ⟨s.tree.home, s.tree.nodes⟩ from rfl, home, nodes]
  refine ⟨s, _, opened, separate_desk noLog tree, ?_⟩
  obtain ⟨entries, settings, config, steps⟩ := exists_of_session opened
  have begun : (s.engine, s.pool) = (ScriptCounts.zero, Pool.empty config) := by rw [steps.begun]
  have start : Ran (single script) config (s.engine, s.pool) := begun ▸ .opened _
  let c : Bytes → Calculus ScriptState :=
    fun _ => ⟨view, script.bufferPointer, pred, fun _ text => f text⟩
  have computes (moduleBytes : Bytes) (e : ScriptCounts) (m : Module ScriptState ScriptCounts)
      (known : (single script moduleBytes e).1 = .ok m) : m.Computes (c moduleBytes) := by
    obtain ⟨key, rfl⟩ := exists_of_single known
    exact computes_toModule plain size nonneg room format answers key
  have steady := (start.registered "aa" [1]).steady computes fun r mem _ => by
    obtain ⟨status, idle⟩ := waits r mem
    exact ⟨by simp [status], idle⟩
  have found : (Discovery.discover s.tree ⟨"", ["plugins"]⟩).1 = [⟨"", ["plugins", "aa.compiled"]⟩] := by
    rw [tree]
    decide +kernel
  have read : s.tree.read ⟨"", ["plugins", "aa.compiled"]⟩ = .ok [1] := by
    rw [tree]
    rfl
  have stem : (⟨"", ["plugins", "aa.compiled"]⟩ : Path).stem = "aa" := by decide +kernel
  unfold Session.FormatsFiles
  rw [Session.pool_of_single (sound_of_session proper_desk opened) found read, stem]
  refine steady.settle.formats (single script) fun path mem => ?_
  obtain rfl : path = "/f.a" := List.mem_singleton.1 mem
  obtain ⟨entry, resolved⟩ := Option.isSome_iff_exists.1 handled
  exact congrArg (Option.map _) resolved

/-- A plugin that trims lines. -/
def trimming : Script := { overhanging with memorySize := 1124, format := [.trim] }

theorem idempotent_trimmed : Idempotent fun _ => trimmed? := by
  intro path text formatted trimmed
  obtain rfl := eq_trimLines_of_trimmed? trimmed
  exact .inl (if_pos (trimLines_trimLines text))

theorem unbroken_trimmed : Unbroken fun _ => trimmed? := by
  intro path text formatted clean trimmed mem
  rw [eq_trimLines_of_trimmed? trimmed] at mem
  rcases mem_of_mem_trimLines mem with newline | mem
  · exact absurd newline (by decide)
  · exact clean mem

/-- A plugin that ends the only line that it knows in its own way. -/
def returning : Script := { overhanging with memorySize := 1124, format := [.text "x\x0d\n"] }

end Run

open Script Run

/-- The general statement for a plugin that trims lines. -/
theorem clean_after_trimming :
    ∃ (s : Session ScriptState ScriptCounts) (plugins : Path),
      session .zero quiet errand desk = .ok (s, plugins) ∧ Separate errand desk s plugins ∧
      (onDesk trimming errand desk).status = .ok 0 ∧
      let after := (onDesk trimming errand desk).tree
      let checked := onDesk trimming { errand with check := true } after
      let repeated := onDesk trimming errand after
      (checked.status = .ok 0 ∧
        checked.output = (onDesk trimming { errand with files := [] } after).output ∧
        ∀ place, ¬s.Owns place → checked.tree.node? place = after.node? place) ∧
      repeated.status = .ok 0 ∧
        ∀ place, ¬s.Owns place → repeated.tree.node? place = after.node? place := by
  have plain : trimming.Plain := ⟨rfl, rfl, rfl, rfl, rfl⟩
  obtain ⟨s, plugins, opened, separate, formats⟩ := formats_desk plain 99 rfl (by decide)
    (by decide) rfl rfl (by decide +kernel)
  have done : (onDesk trimming errand desk).status = .ok 0 := eq_ok_of_toOption (by decide +kernel)
  exact ⟨s, plugins, opened, separate, done, Run.clean_after_format proper_desk opened separate formats
    idempotent_trimmed unbroken_trimmed rfl done noon⟩

/-- A line that was given another end is read with its old one, and formatted once more. -/
theorem not_clean_after_returning :
    ∃ (s : Session ScriptState ScriptCounts) (plugins : Path) (f : String → String → Option String),
      session .zero quiet errand desk = .ok (s, plugins) ∧ Separate errand desk s plugins ∧
      ((Session.loadDirectory (single returning) noon plugins).run s).2.FormatsFiles (single returning)
        errand.files f ∧ Idempotent f ∧
      (onDesk returning errand desk).status = .ok 0 ∧
      let checked := onDesk returning { errand with check := true } (onDesk returning errand desk).tree
      checked.status = .ok 1 ∧ checked.output = "needs formatting: /f.a\n" := by
  have plain : returning.Plain := ⟨rfl, rfl, rfl, rfl, rfl⟩
  obtain ⟨s, plugins, opened, separate, formats⟩ := formats_desk plain 99 rfl (by decide)
    (by decide) rfl rfl (by decide +kernel)
  have done : (onDesk returning errand desk).status = .ok 0 := eq_ok_of_toOption (by decide +kernel)
  refine ⟨s, plugins, _, opened, separate, formats, ?_, done, ?_⟩
  · exact fun path text formatted again => .inr again
  · have evaluated : (fun x : RunResult => (x.status.toOption, x.output))
        (onDesk returning { errand with check := true } (onDesk returning errand desk).tree) =
          (some 1, "needs formatting: /f.a\n") := by decide +kernel
    obtain ⟨status, output⟩ := Prod.mk.inj evaluated
    exact ⟨eq_ok_of_toOption status, output⟩

end FormatHost
