import FormatHost.Proofs.CommandLine.Recheck
/-!
# File after file

A run comes to its files one by one. What a file comes to depends on what is read from it and on what the
pool makes of that at this moment: it cannot be read, cannot be formatted, is left alone, or gets another
text. A visit says what it has to say, writes at most that text, and goes on to the next file whatever the
file has come to.
-/
namespace FormatHost

variable {σ ε : Type}

/-- What a file comes to. -/
inductive Fate where
  | unreadable
  | failed
  | kept
  /-- The file has another text when it is formatted. -/
  | changed (formatted : String)
  deriving DecidableEq, Repr

namespace Fate

/-- The exit status has to tell of it. -/
def counts (check : Bool) : Fate → Bool
  | unreadable | failed => true
  | kept => false
  | changed _ => check

/-- The text that is written to the file. -/
def written? (check : Bool) : Fate → Option String
  | changed formatted => if check then none else some formatted
  | _ => none

/-- What is printed of the file. -/
def report (check : Bool) (p : Path) : Fate → String
  | changed _ => if check then "needs formatting: " ++ p.toString ++ "\n" else ""
  | _ => ""

end Fate

namespace Session

variable {engine : Engine σ ε} {clock : Clock} {check : Bool} {name : String} {p : Path}
  {text : List Char} {s s' s₁ : Session σ ε}

/-! ### Where files can be written -/

/-- The directory of the log is there. -/
def Rooted (s : Session σ ε) : Prop :=
  ∀ f q, s.logger.file = some f → s.tree.place f.directory = .ok q →
    s.tree.node? q = some .directory

theorem Rooted.worked {zone : List String → Prop} (rooted : s.Rooted) (worked : Worked zone s s') :
    s'.Rooted := by
  intro f' q file leads
  obtain ⟨f, there, closed⟩ := exists_file_of_closed worked.logger file
  have directory : f'.directory = f.directory := (DailyLog.mk.inj closed).1
  rw [directory] at leads
  exact (worked.agree.directories q).2 (rooted f q there (worked.agree.leads_iff.1 leads))

/-- A file that could be read can be written, whatever was logged meanwhile: even where the log has
removed it there is still its directory. -/
theorem exists_write (rooted : s.Rooted) {old : Bytes} (read : s.tree.read p = .ok old)
    (worked : Worked s.Owns s s') (data : Bytes) :
    ∃ q, s.tree.place p = .ok q ∧ s'.tree.node? q ≠ some .directory ∧
      s'.tree.write p data = .ok (s'.tree.set q (.file data)) := by
  obtain ⟨q, leads, file⟩ := FileTree.read_eq_ok_iff.1 read
  have leads' := worked.agree.leads leads
  have nothing : s'.tree.node? q ≠ some .directory := by
    rw [Ne, worked.agree.directories, file]
    simp
  refine ⟨q, leads, nothing, ?_⟩
  unfold FileTree.write FileTree.modify
  simp only [leads', bind, Except.bind]
  cases there : s'.tree.node? q with
  | some node =>
    cases node with
    | directory => exact absurd there nothing
    | file old => rfl
  | none =>
    have own : s.Owns q := by
      refine Classical.byContradiction fun out => ?_
      exact absurd (there.symm.trans ((worked.agree.outside q out).trans file)) (by simp)
    obtain ⟨f, log, d, last, directory, rfl, -⟩ := own
    have above := (worked.agree.directories d).2 (rooted f d log directory)
    rw [List.dropLast_concat, above]
    rfl

/-! ### One file -/

/-- The format call for a text that was read from a file. -/
def call (engine : Engine σ ε) (name : String) (text : List Char) (s : Session σ ε) :
    Except Fault (Option String) × ε × Pool σ ε :=
  ending (PoolM.formatText engine (Path.ofString name).toString (String.ofList text) .null)
    (s.engine, s.pool)

/-- What a file comes to in a session. -/
def fate (engine : Engine σ ε) (name : String) (s : Session σ ε) : Fate :=
  match s.tree.readText (.ofString name) with
  | .error _ => .unreadable
  | .ok text =>
    match (s.call engine name text).1 with
    | .error _ => .failed
    | .ok none => .kept
    | .ok (some formatted) => if formatted.toList = text then .kept else .changed formatted

/-- The engine and the pool behind a visit: a file that can be read is formatted. -/
def called (engine : Engine σ ε) (name : String) (s : Session σ ε) : ε × Pool σ ε :=
  match s.tree.readText (.ofString name) with
  | .error _ => (s.engine, s.pool)
  | .ok text => settle (s.call engine name text).2

/-- The places that a visit may change: those of the log, and that of the file if there is a text to be
written to it. -/
def Rewrites (engine : Engine σ ε) (check : Bool) (name : String) (s : Session σ ε)
    (q : List String) : Prop :=
  s.Owns q ∨ s.tree.place (.ofString name) = .ok q ∧
    ((s.fate engine name).written? check).isSome

/-- A session has come to a file: it has called the pool if the file can be read, printed its report,
written the text that is to be written, and changed nothing else but its log. -/
structure Visited (engine : Engine σ ε) (check : Bool) (name : String) (s s' : Session σ ε) : Prop where
  pool : (s'.engine, s'.pool) = s.called engine name
  worked : Worked (s.Rewrites engine check name)
    (s.print ((s.fate engine name).report check (.ofString name))) s'
  written : ∀ formatted, (s.fate engine name).written? check = some formatted →
    ∃ q, s.tree.place (.ofString name) = .ok q ∧
      (¬s.Owns q → s'.tree.node? q = some (.file (Utf8.encode formatted)))

theorem print_nothing (s : Session σ ε) : s.print "" = s := by simp [print]

/-- Sessions that come to files one after the other, and what the files come to. -/
inductive Visits (engine : Engine σ ε) (check : Bool) :
    List String → Session σ ε → List Fate → Session σ ε → Prop
  | done (s : Session σ ε) : Visits engine check [] s [] s
  | next {s s₁ s' : Session σ ε} {name : String} {names : List String} {fates : List Fate}
      (visited : Visited engine check name s s₁) (later : Visits engine check names s₁ fates s') :
      Visits engine check (name :: names) s (s.fate engine name :: fates) s'

/-- What is printed of files. -/
def reports (check : Bool) : List String → List Fate → String
  | name :: names, fate :: fates => fate.report check (.ofString name) ++ reports check names fates
  | _, _ => ""

instance (t : FileTree) (p : Path) (q : List String) : Decidable (t.place p = .ok q) :=
  decidable_of_iff ((t.place p).toOption = some q) (by cases t.place p <;> simp [Except.toOption])

/-- The text that was written to a place last. -/
def lastWritten? (check : Bool) (t : FileTree) (q : List String) : List String → List Fate → Option String
  | name :: names, fate :: fates =>
    (lastWritten? check t q names fates).or
      (if t.place (.ofString name) = .ok q then fate.written? check else none)
  | _, _ => none

theorem lastWritten?_congr {t u : FileTree} {zone : List String → Prop}
    (agree : FileTree.Agree zone t u) (check : Bool) (q : List String) (names : List String)
    (fates : List Fate) : lastWritten? check u q names fates = lastWritten? check t q names fates := by
  fun_induction lastWritten? check t q names fates with
  | case1 name names fate fates ih => simp only [lastWritten?, ih, agree.leads_iff]
  | case2 names fates none =>
    cases names with
    | nil => rfl
    | cons name names =>
      cases fates with
      | nil => rfl
      | cons fate fates => exact (none _ _ _ _ rfl rfl).elim

theorem print_print (s : Session σ ε) (a b : String) : (s.print a).print b = s.print (a ++ b) := by
  simp [print, String.append_assoc]

variable {names : List String} {fates : List Fate}

/-- What files have said is printed, and nothing has changed but they and the log. -/
theorem Visits.worked (visits : Visits engine check names s fates s') (sound : s.Sound) :
    Worked (s.Touches names) (s.print (reports check names fates)) s' := by
  induction visits with
  | done s =>
    have silent : reports check [] [] = "" := rfl
    rw [silent, print_nothing]
    exact .refl sound _
  | @next s s₁ s' name names fates visited later ih =>
    have more := ih visited.worked.sound
    have first := visited.worked.print (reports check names fates)
    rw [print_print] at first
    refine (first.mono ?_).trans (more.mono ?_)
    · rintro q (own | ⟨leads, -⟩)
      · exact .inl own
      · exact .inr ⟨name, List.mem_cons_self, leads⟩
    · intro q touched
      refine ((touches_iff (s := s.print _) visited.worked).1 touched).imp_right ?_
      rintro ⟨other, mem, leads⟩
      exact ⟨other, List.mem_cons_of_mem _ mem, leads⟩

/-- Outside the log there is what was written last, and otherwise what was there before. -/
theorem Visits.node? (visits : Visits engine check names s fates s') {q : List String}
    (out : ¬s.Owns q) :
    s'.tree.node? q = (lastWritten? check s.tree q names fates).elim (s.tree.node? q)
      fun text => some (.file (Utf8.encode text)) := by
  induction visits with
  | done s => rfl
  | @next s s₁ s' name names fates visited later ih =>
    have out₁ : ¬s₁.Owns q := fun own => out ((visited.worked.owns_iff (s := s.print _)).1 own)
    have agree : FileTree.Agree (s.Rewrites engine check name) s.tree s₁.tree := visited.worked.agree
    rw [ih out₁, lastWritten?_congr agree, lastWritten?]
    cases lastWritten? check s.tree q names fates with
    | some text => rfl
    | none =>
      simp only [Option.none_or, Option.elim_none]
      split
      · next leads =>
        cases written : (s.fate engine name).written? check with
        | none =>
          refine agree.outside q ?_
          rintro (own | ⟨-, some⟩)
          · exact out own
          · simp [written] at some
        | some text =>
          obtain ⟨q', leads', put⟩ := visited.written text written
          obtain rfl : q = q' := Except.ok.inj (leads.symm.trans leads')
          exact put out
      · next apart =>
        refine agree.outside q ?_
        rintro (own | ⟨leads, -⟩)
        · exact out own
        · exact apart leads

end Session
end FormatHost
