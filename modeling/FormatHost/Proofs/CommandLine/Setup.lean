import FormatHost.Proofs.CommandLine.Session
/-!
# How a run begins

Before a run loads its plugins it reads its settings and opens its log. What it begins with then depends on
the tree in three places only: the configuration file, the environment file, and the directory of the log.
A run that comes after another one begins in the same way, unless that one has written to the files that
settings are read from.
-/
namespace FormatHost

variable {σ ε : Type}

variable {t u v : FileTree} {p : Path} {q : List String} {data : Bytes}

/-! ### Files that stay -/

namespace FileTree

/-- A file that is outside the zone is read in the same way after the tree has grown and changed. -/
theorem Grown.read (grown : Grown t u) {zone : List String → Prop} (agree : Agree zone u v)
    (leads : t.place p = .ok q) (file : t.node? q = some (.file data)) (out : ¬zone q) :
    v.read p = .ok data :=
  read_eq_ok_iff.2 ⟨q, agree.leads (place_of_within grown.within leads),
    (agree.outside q out).trans (grown.kept q _ file)⟩

theorem find_of_read (read : t.read p = .ok data) : t.find p = .ok (.file data) := by
  obtain ⟨q, leads, file⟩ := read_eq_ok_iff.1 read
  exact find_eq_ok_iff.2 ⟨q, leads, file⟩

theorem readText_congr (same : u.read p = t.read p) : u.readText p = t.readText p := by
  rw [readText, readText, same]

end FileTree

/-! ### Settings -/

namespace Settings

variable {environment : List (String × String)} {entries : Entries}

/-- Where the environment file is no file in either tree, or the same one, its variables are the same. -/
theorem envFile_congr (reads : ∀ data, u.read envFileName = .ok data ↔ t.read envFileName = .ok data)
    (environment : List (String × String)) : envFile u environment = envFile t environment := by
  by_cases there : ∃ data, t.read envFileName = .ok data
  · obtain ⟨data, read⟩ := there
    have read' := (reads data).2 read
    unfold envFile
    rw [FileTree.find_of_read read, FileTree.find_of_read read',
      FileTree.readText_congr (read'.trans read.symm)]
  · have missing (v : FileTree) (none : ∀ data, v.read envFileName ≠ .ok data) :
        envFile v environment = .ok [] := by
      unfold envFile
      split
      · next data found =>
        exact absurd (FileTree.read_eq_ok_iff.2 (FileTree.find_eq_ok_iff.1 found)) (none data)
      · rfl
    rw [missing t fun data read => there ⟨data, read⟩,
      missing u fun data read => there ⟨data, (reads data).1 read⟩]

/-- Entries that are read from a file that stays, or from none, are read again. -/
theorem readEntries_congr {file : Option String}
    (same : ∀ name, file.filter (· != "") = some name → ∃ data,
      t.read (.ofString name) = .ok data ∧ u.read (.ofString name) = .ok data) :
    readEntries u file = readEntries t file := by
  unfold readEntries
  cases named : file.filter (· != "") with
  | none => rfl
  | some name =>
    obtain ⟨data, read, read'⟩ := same name named
    simp only [FileTree.find_of_read read, FileTree.find_of_read read',
      FileTree.readText_congr (read'.trans read.symm)]

end Settings

/-! ### The log -/

/-- To set up a logger makes the directory of its files at most, which is there after that, and there is
nothing left to make for another one. -/
theorem Logger.exists_of_setup {name : String} {console : Bool} {level : Datum} {directory : Option Path}
    {retention : Int} {l : Logger}
    (done : setup name console level directory retention t = .ok (l, u)) :
    FileTree.Grown t u ∧
      (∀ f, l.file = some f → f.stem = name ∧
        ∃ q, u.place f.directory = .ok q ∧ u.node? q = some .directory) ∧
      ∀ v, u.Within v → setup name console level directory retention v = .ok (l, v) := by
  cases directory with
  | none =>
    obtain ⟨rfl, rfl⟩ := Prod.mk.inj (Except.ok.inj done)
    exact ⟨.refl t, fun f file => absurd file (by simp), fun v _ => rfl⟩
  | some d =>
    obtain ⟨⟨f, u'⟩, created, same⟩ := exists_of_bind_eq_ok done
    obtain ⟨rfl, rfl⟩ := Prod.mk.inj (Except.ok.inj same)
    obtain ⟨u'', made, same⟩ := exists_of_bind_eq_ok created
    obtain ⟨rfl, rfl⟩ := Prod.mk.inj (Except.ok.inj same)
    obtain ⟨grown, there, again⟩ := FileTree.exists_of_makeDirectories made
    refine ⟨grown, fun f file => ?_, fun v within => ?_⟩
    · obtain rfl := Option.some.inj file
      exact ⟨rfl, there⟩
    · simp only [setup, DailyLog.create, again v within]
      rfl

/-! ### Sessions -/

namespace Run

/-- The logger of a run, and the tree in which its directory is there. -/
def openLog (o : Options) (s : Settings) (tree : FileTree) : Except FileError (Logger × FileTree) :=
  let directory := s.logDirectory.scalars
  Logger.setup Session.loggerName true (.string (orText o.logLevel s.logLevel.scalars))
    (if directory.isEmpty then none else some (.ofString directory)) s.logRetention tree

/-- What a run begins with, and the directory of its plugins. -/
def session (start : ε) (environment : List (String × String)) (o : Options) (tree : FileTree) :
    Except RunFault (Session σ ε × Path) := do
  let entries ← (Settings.readEntries tree o.config).mapError .settings
  let settings ← (Settings.ofEntries entries tree environment).mapError .settings
  let (logger, tree) ← (openLog o settings tree).mapError .log
  let config ← (PoolConfig.ofEntries (Settings.poolEntries settings entries)).mapError .pool
  return (⟨logger, tree, "", [], .empty config, start⟩,
    .ofString (orText o.pluginDirectory settings.pluginDirectory.scalars))

section

variable {start : ε} {environment : List (String × String)} {o : Options} {tree after : FileTree}
  {s : Session σ ε} {plugins : Path}

/-- The steps in which it comes about what a run begins with. -/
structure Opened (start : ε) (environment : List (String × String)) (o : Options) (tree : FileTree)
    (s : Session σ ε) (plugins : Path) (entries : Settings.Entries) (settings : Settings)
    (config : PoolConfig) : Prop where
  read : Settings.readEntries tree o.config = .ok entries
  given : Settings.ofEntries entries tree environment = .ok settings
  logged : openLog o settings tree = .ok (s.logger, s.tree)
  configured : PoolConfig.ofEntries (Settings.poolEntries settings entries) = .ok config
  begun : s = ⟨s.logger, s.tree, "", [], .empty config, start⟩
  named : plugins = .ofString (orText o.pluginDirectory settings.pluginDirectory.scalars)

theorem exists_of_session (opened : session start environment o tree = .ok (s, plugins)) :
    ∃ entries settings config, Opened start environment o tree s plugins entries settings config := by
  obtain ⟨entries, read, opened⟩ := exists_of_bind_eq_ok opened
  obtain ⟨settings, given, opened⟩ := exists_of_bind_eq_ok opened
  obtain ⟨⟨logger, tree'⟩, logged, opened⟩ := exists_of_bind_eq_ok opened
  obtain ⟨config, configured, opened⟩ := exists_of_bind_eq_ok opened
  obtain ⟨rfl, rfl⟩ := Prod.mk.inj (Except.ok.inj opened)
  exact ⟨entries, settings, config, eq_ok_of_mapError read, eq_ok_of_mapError given,
    eq_ok_of_mapError logged, eq_ok_of_mapError configured, rfl, rfl⟩

namespace Opened

variable {entries : Settings.Entries} {settings : Settings} {config : PoolConfig}

theorem session_eq (opened : Opened start environment o tree s plugins entries settings config) :
    session start environment o tree = .ok (s, plugins) := by
  rw [opened.begun, opened.named, session, opened.read]
  simp only [mapError_ok, bind, Except.bind, opened.given, opened.logged, opened.configured]
  rfl

end Opened

/-- A run works from what it begins with, unless it has nothing to do. -/
theorem withOptions_of_session (opened : session start environment o tree = .ok (s, plugins))
    (engine : Engine σ ε) (clock : Clock) :
    withOptions engine start clock environment o tree =
      if o.files.isEmpty && !o.list then ⟨.ok 2, "", [nothingToDo], s.tree⟩
      else
        let x := (Session.work engine clock o plugins).run s
        ⟨x.1, x.2.output, x.2.console, x.2.tree⟩ := by
  obtain ⟨entries, settings, config, steps⟩ := exists_of_session opened
  have logged := steps.logged
  unfold openLog at logged
  rw [withOptions, steps.read]
  simp only [steps.given]
  rw [withSettings]
  simp only [logged, steps.configured]
  split
  · rfl
  · rw [steps.begun, steps.named]
    rfl

/-- A run that has something to do works from what it begins with. -/
theorem withOptions_eq (opened : session start environment o tree = .ok (s, plugins))
    (engine : Engine σ ε) (clock : Clock) (busy : (o.files.isEmpty && !o.list) = false) :
    withOptions engine start clock environment o tree =
      let x := (Session.work engine clock o plugins).run s
      ⟨x.1, x.2.output, x.2.console, x.2.tree⟩ := by
  rw [withOptions_of_session opened, busy]
  rfl

/-- A run that has nothing to do only says so. -/
theorem withOptions_of_idle (opened : session start environment o tree = .ok (s, plugins))
    (engine : Engine σ ε) (clock : Clock) (idle : (o.files.isEmpty && !o.list) = true) :
    withOptions engine start clock environment o tree = ⟨.ok 2, "", [nothingToDo], s.tree⟩ := by
  rw [withOptions_of_session opened, idle]
  rfl

theorem sound_of_session (proper : tree.Proper)
    (opened : session start environment o tree = .ok (s, plugins)) : s.Sound := by
  obtain ⟨entries, settings, config, steps⟩ := exists_of_session opened
  obtain ⟨grown, stem, -⟩ := Logger.exists_of_setup steps.logged
  refine ⟨grown.proper proper, fun f file => ?_⟩
  rw [(stem f file).1]
  decide

/-- The files that a run reads its settings from stay as they are. -/
structure Settled (o : Options) (tree : FileTree) (zone : List String → Prop) : Prop where
  config : ∀ name, o.config.filter (· != "") = some name → ∃ q data,
    tree.place (.ofString name) = .ok q ∧ tree.node? q = some (.file data) ∧ ¬zone q
  envFile : ∃ q, tree.place Settings.envFileName = .ok q ∧ ¬zone q

/-- After a run that has not written there a run begins with the same again. -/
theorem session_again {zone : List String → Prop}
    (opened : session start environment o tree = .ok (s, plugins)) (settled : Settled o tree zone)
    (agree : FileTree.Agree zone s.tree after) :
    session start environment o after = .ok ({ s with tree := after }, plugins) := by
  obtain ⟨entries, settings, config, steps⟩ := exists_of_session opened
  obtain ⟨grown, -, again⟩ := Logger.exists_of_setup steps.logged
  have read : Settings.readEntries after o.config = .ok entries := by
    refine (Settings.readEntries_congr fun name named => ?_).trans steps.read
    obtain ⟨q, data, leads, file, out⟩ := settled.config name named
    exact ⟨data, FileTree.read_eq_ok_iff.2 ⟨q, leads, file⟩, grown.read agree leads file out⟩
  have envFile : Settings.envFile after environment = Settings.envFile tree environment := by
    obtain ⟨q, leads, out⟩ := settled.envFile
    have leads' : after.place Settings.envFileName = .ok q :=
      agree.leads (FileTree.place_of_within grown.within leads)
    refine Settings.envFile_congr (fun data => ?_) environment
    simp only [FileTree.read_eq_ok_iff, leads, leads', Except.ok.injEq, exists_eq_left',
      agree.outside q out]
    refine ⟨fun file => ?_, grown.kept q _⟩
    cases there : tree.node? q with
    | none => rcases grown.made q there with none | made <;> simp_all only [reduceCtorEq, Option.some.injEq]
    | some node => exact (grown.kept q node there).symm.trans file
  have given : Settings.ofEntries entries after environment = .ok settings := by
    rw [← steps.given, Settings.ofEntries, Settings.ofEntries, envFile]
  have same := congrArg (fun s' : Session σ ε => { s' with tree := after }) steps.begun
  exact Opened.session_eq ⟨read, given, again after agree.within, steps.configured, same, steps.named⟩

end

end Run
end FormatHost
