import FormatHost.Proofs.CommandLine.Session
/-!
# Files that need no formatting

A file is clean if its formatter leaves what is read from it as it is. Formatters that are functions of
path and text, leave formatted texts alone and add no carriage returns leave every file clean; and where
all files are clean, nothing is written and nothing is told of any file.
-/
namespace FormatHost

variable {σ ε : Type}

/-- What a pool is after format calls for some paths, with its notes taken away. -/
inductive Formatted (engine : Engine σ ε) (paths : List String) (x : ε × Pool σ ε) :
    ε × Pool σ ε → Prop
  | begun : Formatted engine paths x x
  | called {y : ε × Pool σ ε} (formatted : Formatted engine paths x y) {path : String}
      (mem : path ∈ paths) (text : String) : Formatted engine paths x
        (Session.settle (ending (PoolM.formatText engine path text .null) y).2)

/-- Whatever was formatted before, format calls for these paths succeed, and what they answer is a function
of path and text. -/
def Formats (engine : Engine σ ε) (paths : List String) (f : String → String → Option String)
    (x : ε × Pool σ ε) : Prop :=
  ∀ y, Formatted engine paths x y → ∀ path ∈ paths, ∀ text,
    (ending (PoolM.formatText engine path text .null) y).1 = .ok (f path text)

/-- A text that was formatted is left alone. -/
def Idempotent (f : String → String → Option String) : Prop :=
  ∀ path text formatted, f path text = some formatted →
    f path formatted = none ∨ f path formatted = some formatted

/-- No text gets its first carriage return when it is formatted. -/
def Unbroken (f : String → String → Option String) : Prop :=
  ∀ path text formatted, '\r' ∉ text.toList → f path text = some formatted → '\r' ∉ formatted.toList

/-- What is read from a file is left as it is. -/
def Clean (f : String → String → Option String) (t : FileTree) (name : String) : Prop :=
  ∃ text, t.readText (.ofString name) = .ok text ∧
    ∀ formatted, f (Path.ofString name).toString (String.ofList text) = some formatted →
      formatted.toList = text

section

variable {engine : Engine σ ε} {paths : List String} {f : String → String → Option String}
  {x y z : ε × Pool σ ε} {t u : FileTree} {name : String}

theorem Formatted.trans (first : Formatted engine paths x y) (second : Formatted engine paths y z) :
    Formatted engine paths x z := by
  induction second with
  | begun => exact first
  | called _ mem text ih => exact ih.called mem text

/-- A format call does not change what others answer. -/
theorem Formats.next (formats : Formats engine paths f x) {path : String} (mem : path ∈ paths)
    (text : String) :
    Formats engine paths f (Session.settle (ending (PoolM.formatText engine path text .null) x).2) :=
  fun y formatted => formats y ((Formatted.begun.called mem text).trans formatted)

/-- A file is read alike where trees agree. -/
theorem readText_of_agree {zone : List String → Prop} (agree : FileTree.Agree zone t u) {p : Path}
    (out : ∀ q, t.place p = .ok q → ¬zone q) {text : List Char}
    (read : t.readText p = .ok text) : u.readText p = .ok text := by
  obtain ⟨data, s, bytes, decoded, rfl⟩ := FileTree.readText_eq_ok_iff.1 read
  obtain ⟨q, leads, -⟩ := FileTree.read_eq_ok_iff.1 bytes
  exact FileTree.readText_eq_ok_iff.2 ⟨data, s, agree.read leads (out q leads) bytes, decoded, rfl⟩

theorem Clean.of_agree {zone : List String → Prop} (clean : Clean f t name)
    (agree : FileTree.Agree zone t u)
    (out : ∀ q, t.place (.ofString name) = .ok q → ¬zone q) : Clean f u name := by
  obtain ⟨text, read, same⟩ := clean
  exact ⟨text, readText_of_agree agree out read, same⟩

/-- A file to which a formatted text was written is clean. -/
theorem clean_of_write (idempotent : Idempotent f) (unbroken : Unbroken f) {text formatted : String}
    (feeds : '\r' ∉ text.toList) (answer : f (Path.ofString name).toString text = some formatted)
    (written : t.write (.ofString name) (Utf8.encode formatted) = .ok u) : Clean f u name := by
  obtain ⟨q, _, leads, file, rfl⟩ := FileTree.exists_of_modify written
  have agree : FileTree.Agree (· = q) t (t.set q (.file (Utf8.encode formatted))) := .set t file _ rfl
  have there := FileTree.node?_set_self t (FileTree.ne_nil_of_node? file)
    (.file (Utf8.encode formatted))
  have read : (t.set q (.file (Utf8.encode formatted))).readText (.ofString name) =
      .ok formatted.toList := by
    refine FileTree.readText_eq_ok_iff.2 ⟨_, formatted,
      FileTree.read_eq_ok_iff.2 ⟨q, agree.leads leads, there⟩, Utf8.decode_encode formatted, ?_⟩
    exact (Text.unifyBreaks_of_notMem (unbroken _ _ _ feeds answer)).symm
  refine ⟨formatted.toList, read, fun again more => ?_⟩
  rw [String.ofList_toList] at more
  rcases idempotent _ _ _ answer with none | same
  · simp [none] at more
  · rw [Option.some.inj (more.symm.trans same)]

end

namespace Session

variable {engine : Engine σ ε} {paths : List String} {f : String → String → Option String}
  {s s' s₀ : Session σ ε} {clock : Clock} {check : Bool} {name : String} {p : Path} {text : List Char}

/-! ### One file -/

theorem run_formatFile_of_error {e : ReadFault} (failed : s.tree.readText (.ofString name) = .error e) :
    ∃ r, (formatFile engine clock check name).run s = (.ok 1, s.log clock r) := by
  refine ⟨.error loggerName ("Cannot read " ++ (Path.ofString name).toString ++ ": " ++
    e.message (.ofString name)), ?_⟩
  rw [formatFile, StateT.run_bind, StateT.run_get, pure_bind]
  simp only [failed]
  rfl

theorem run_formatFile_of_ok (read : s.tree.readText (.ofString name) = .ok text)
    {answer : Option String}
    (answered : (usePool clock (PoolM.formatText engine (Path.ofString name).toString
      (String.ofList text) .null)).run s = (.ok answer, s')) :
    (formatFile engine clock check name).run s =
      (keepResult clock check (.ofString name) text answer).run s' := by
  rw [formatFile, StateT.run_bind, StateT.run_get, pure_bind]
  simp only [read]
  rw [StateT.run_bind, answered]
  rfl

theorem run_keepResult_of_none {answer : Option String}
    (same : answer.filter (fun r => r.toList != text) = none) :
    ∃ r, (keepResult clock check p text answer).run s = (.ok 0, s.log clock r) := by
  refine ⟨.debug loggerName ("Already formatted: " ++ p.toString), ?_⟩
  rw [keepResult]
  simp only [same]
  rfl

/-- An answer that was kept without a fault was written, if it is another text. -/
theorem exists_of_keepResult {answer : Option String} {formatted : String} {n : Nat}
    (changed : answer.filter (fun r => r.toList != text) = some formatted)
    (kept : (keepResult clock false p text answer).run s = (.ok n, s')) :
    n = 0 ∧ ∃ tree r, s.tree.write p (Utf8.encode formatted) = .ok tree ∧
      s' = log clock r { s with tree } := by
  rw [keepResult] at kept
  simp only [changed, Bool.false_eq_true, if_false] at kept
  rw [StateT.run_bind, StateT.run_get, pure_bind] at kept
  cases written : s.tree.write p (Utf8.encode formatted) with
  | error e =>
    simp only [written] at kept
    have refused : (Except.error (.write e) : FileOutcome) = .ok n := congrArg Prod.fst kept
    exact absurd refused (by simp)
  | ok tree =>
    simp only [written] at kept
    obtain ⟨status, after⟩ := Prod.mk.inj kept
    exact ⟨(Except.ok.inj status).symm, tree, _, rfl, after.symm⟩

/-- Format calls on the paths of files answer by a function, now and later. -/
def FormatsFiles (engine : Engine σ ε) (files : List String) (f : String → String → Option String)
    (s : Session σ ε) : Prop :=
  Formats engine (files.map fun name => (Path.ofString name).toString) f (s.engine, s.pool)

variable {files : List String}

/-- A file's text is formatted, and the pool is ready for the next one. -/
theorem exists_usePool_of_formats (sound : s.Sound) (formats : s.FormatsFiles engine files f)
    (mem : name ∈ files) (clock : Clock) (text : String) :
    ∃ s', (usePool clock (PoolM.formatText engine (Path.ofString name).toString text .null)).run s =
        (.ok (f (Path.ofString name).toString text), s') ∧
      Worked s.Owns s s' ∧ s'.FormatsFiles engine files f := by
  have known : (Path.ofString name).toString ∈ files.map fun name => (Path.ofString name).toString :=
    List.mem_map_of_mem mem
  obtain ⟨s', ran, logged⟩ := exists_run_usePool sound clock
    (PoolM.formatText engine (Path.ofString name).toString text .null)
  rw [formats _ .begun _ known] at ran
  refine ⟨s', ran, ⟨logged.worked.sound, logged.worked.logger, logged.worked.agree,
    logged.worked.output⟩, ?_⟩
  unfold FormatsFiles
  rw [logged.engine, logged.pool]
  exact formats.next known text

/-- A clean file stays as it is, and nothing is told of it. -/
theorem exists_formatFile_of_clean (sound : s.Sound) (formats : s.FormatsFiles engine files f)
    (mem : name ∈ files) (clean : Clean f s.tree name) (clock : Clock) (check : Bool) :
    ∃ s', (formatFile engine clock check name).run s = (.ok 0, s') ∧ Worked s.Owns s s' ∧
      s'.FormatsFiles engine files f := by
  obtain ⟨text, read, same⟩ := clean
  obtain ⟨s₁, answered, worked, formats₁⟩ :=
    exists_usePool_of_formats sound formats mem clock (String.ofList text)
  have unchanged : (f (Path.ofString name).toString (String.ofList text)).filter
      (fun r => r.toList != text) = none :=
    Option.filter_eq_none_iff.2 fun r answer => by simpa using same r answer
  obtain ⟨r, kept⟩ : ∃ r, (keepResult clock check (.ofString name) text _).run s₁ =
    (.ok 0, s₁.log clock r) := run_keepResult_of_none unchanged
  refine ⟨s₁.log clock r, (run_formatFile_of_ok read answered).trans kept,
    worked.log (fun _ => id) (logged_log worked.sound clock r), formats₁⟩

/-- A file that was formatted without a fault is clean, and nothing else but the log has changed. -/
theorem clean_of_formatFile (idempotent : Idempotent f) (unbroken : Unbroken f) (sound : s.Sound)
    (formats : s.FormatsFiles engine files f) (mem : name ∈ files)
    (apart : ∀ q, s.tree.place (.ofString name) = .ok q → ¬s.Owns q)
    (done : (formatFile engine clock false name).run s = (.ok 0, s')) :
    Worked (fun q => s.Owns q ∨ s.tree.place (.ofString name) = .ok q) s s' ∧
      s'.FormatsFiles engine files f ∧ Clean f s'.tree name := by
  cases read : s.tree.readText (.ofString name) with
  | error e =>
    obtain ⟨r, ran⟩ : ∃ r, (formatFile engine clock false name).run s = (.ok 1, s.log clock r) :=
      run_formatFile_of_error read
    exact absurd (congrArg Prod.fst (ran.symm.trans done)) (by simp)
  | ok text =>
    obtain ⟨s₁, answered, worked, formats₁⟩ :=
      exists_usePool_of_formats sound formats mem clock (String.ofList text)
    have kept := (run_formatFile_of_ok read answered).symm.trans done
    have apart₁ (q : List String) (leads : s₁.tree.place (.ofString name) = .ok q) :
        ¬s₁.Owns q := fun own =>
      apart q (worked.agree.leads_iff.1 leads) (worked.owns_iff.1 own)
    cases changed : (f (Path.ofString name).toString (String.ofList text)).filter
        (fun r => r.toList != text) with
    | none =>
      obtain ⟨r, same⟩ : ∃ r, (keepResult clock false (.ofString name) text _).run s₁ =
        (.ok 0, s₁.log clock r) := run_keepResult_of_none changed
      obtain rfl : s₁.log clock r = s' := congrArg Prod.snd (same.symm.trans kept)
      have whole := worked.log (fun _ => id) (logged_log worked.sound clock r)
      refine ⟨whole.mono fun _ => .inl, formats₁, text, readText_of_agree whole.agree apart read, ?_⟩
      intro formatted answer
      simpa using Option.filter_eq_none_iff.1 changed formatted answer
    | some formatted =>
      obtain ⟨-, tree, r, written, rfl⟩ := exists_of_keepResult changed kept
      have answer : f (Path.ofString name).toString (String.ofList text) = some formatted :=
        (Option.filter_eq_some_iff.1 changed).1
      have feeds : '\r' ∉ (String.ofList text).toList := by
        obtain ⟨_, _, -, -, rfl⟩ := FileTree.readText_eq_ok_iff.1 read
        rw [String.toList_ofList]
        exact Text.notMem_unifyBreaks _
      have clean := clean_of_write idempotent unbroken feeds answer written
      obtain ⟨q, _, leads, file, rfl⟩ := FileTree.exists_of_modify written
      have put : Worked (fun q => s.Owns q ∨ s.tree.place (.ofString name) = .ok q) s₁
          { s₁ with tree := s₁.tree.set q (.file (Utf8.encode formatted)) } :=
        ⟨⟨worked.sound.proper.set _ _, worked.sound.whole⟩, rfl,
          .set _ file _ (.inr (worked.agree.leads_iff.1 leads)), rfl⟩
      have whole := (worked.mono fun _ => .inl).trans put
      have logged := logged_log put.sound clock r
      refine ⟨whole.log (fun _ => .inl) logged, formats₁, clean.of_agree logged.worked.agree ?_⟩
      exact fun q leads own => apart q (whole.agree.leads_iff.1 leads) (whole.owns_iff.1 own)

/-! ### All files -/

/-- The files of a run lie apart from its log, and two ways to write the path of one file are the same
path. -/
structure Apart (s : Session σ ε) (files : List String) : Prop where
  log : ∀ name ∈ files, ∀ q, s.tree.place (.ofString name) = .ok q → ¬s.Owns q
  same : ∀ a ∈ files, ∀ b ∈ files, ∀ q, s.tree.place (.ofString a) = .ok q →
    s.tree.place (.ofString b) = .ok q → Path.ofString a = Path.ofString b

/-- The places of files. -/
def Has (s : Session σ ε) (files : List String) (q : List String) : Prop :=
  ∃ name ∈ files, s.tree.place (.ofString name) = .ok q

/-- The places that change when files are formatted: those of the log, and of the files. -/
def Touches (s : Session σ ε) (files : List String) (q : List String) : Prop :=
  s.Owns q ∨ s.Has files q

theorem Apart.worked {zone : List String → Prop} (apart : s.Apart files) (worked : Worked zone s s') :
    s'.Apart files where
  log name mem q leads own :=
    apart.log name mem q (worked.agree.leads_iff.1 leads) (worked.owns_iff.1 own)
  same a mem b mem' q leads leads' :=
    apart.same a mem b mem' q (worked.agree.leads_iff.1 leads) (worked.agree.leads_iff.1 leads')

theorem touches_iff {zone : List String → Prop} (worked : Worked zone s s') {q : List String} :
    s'.Touches files q ↔ s.Touches files q := by
  simp only [Touches, Has, worked.owns_iff, worked.agree.leads_iff]

/-- Clean files stay clean when another file is formatted. -/
theorem Apart.clean (apart : s.Apart files) {a b : String} (mem : a ∈ files) (mem' : b ∈ files)
    (worked : Worked (fun q => s.Owns q ∨ s.tree.place (.ofString a) = .ok q) s s')
    (formatted : Clean f s'.tree a) (clean : Clean f s.tree b) : Clean f s'.tree b := by
  by_cases same : Path.ofString a = Path.ofString b
  · unfold Clean at formatted ⊢
    rwa [← same]
  · refine clean.of_agree worked.agree fun q leads => ?_
    rintro (own | there)
    · exact apart.log b mem' q leads own
    · exact same (apart.same a mem b mem' q there leads)

theorem run_formatFiles_cons {status n : Nat} {rest : List String}
    (first : (formatFile engine clock check name).run s = (.ok n, s')) :
    (formatFiles engine clock check status (name :: rest)).run s =
      (formatFiles engine clock check (max status n) rest).run s' := by
  rw [formatFiles, StateT.run_bind, first]
  rfl

/-- The status of formatted files is not less than it was before. -/
theorem exists_of_formatFiles_cons {status : Nat} {rest : List String}
    (done : (formatFiles engine clock check status (name :: rest)).run s = (.ok 0, s')) :
    ∃ n s₁, (formatFile engine clock check name).run s = (.ok n, s₁) ∧
      (formatFiles engine clock check (max status n) rest).run s₁ = (.ok 0, s') := by
  rw [formatFiles, StateT.run_bind] at done
  rcases first : (formatFile engine clock check name).run s with ⟨e | n, s₁⟩
  · rw [first] at done
    have refused : (Except.error e : FileOutcome) = .ok 0 := congrArg Prod.fst done
    exact absurd refused (by simp)
  · rw [first] at done
    exact ⟨n, s₁, rfl, done⟩

theorem status_of_formatFiles {status : Nat} {names : List String}
    (done : (formatFiles engine clock check status names).run s = (.ok 0, s')) : status = 0 := by
  induction names generalizing status s with
  | nil => exact Except.ok.inj (congrArg Prod.fst done)
  | cons name rest ih =>
    obtain ⟨n, s₁, -, later⟩ := exists_of_formatFiles_cons done
    have none := ih later
    omega

/-- After files were formatted without a fault all of them are clean, and nothing has changed but they and
the log. -/
theorem clean_of_formatFiles (idempotent : Idempotent f) (unbroken : Unbroken f) {status : Nat}
    {names : List String} (mem : ∀ name ∈ names, name ∈ files) (sound : s.Sound) (apart : s.Apart files)
    (formats : s.FormatsFiles engine files f)
    (done : (formatFiles engine clock false status names).run s = (.ok 0, s')) :
    Worked (s.Touches files) s s' ∧ (∀ name ∈ names, Clean f s'.tree name) ∧
      ∀ name ∈ files, Clean f s.tree name → Clean f s'.tree name := by
  induction names generalizing status s with
  | nil =>
    obtain rfl : s = s' := congrArg Prod.snd done
    exact ⟨.refl sound _, fun _ none => absurd none List.not_mem_nil, fun _ _ clean => clean⟩
  | cons name rest ih =>
    obtain ⟨n, s₁, first, later⟩ := exists_of_formatFiles_cons done
    have zero := status_of_formatFiles later
    obtain rfl : n = 0 := by omega
    have here := mem name List.mem_cons_self
    obtain ⟨worked, formats₁, clean⟩ :=
      clean_of_formatFile idempotent unbroken sound formats here (apart.log name here) first
    obtain ⟨more, others, kept⟩ := ih (fun b mem' => mem b (List.mem_cons_of_mem _ mem')) worked.sound
      (apart.worked worked) formats₁ later
    refine ⟨?_, ?_, fun b mem' before => kept b mem' (apart.clean here mem' worked clean before)⟩
    · refine (worked.mono ?_).trans (more.mono fun q => (touches_iff worked).1)
      exact fun q touched => touched.imp_right fun leads => ⟨name, here, leads⟩
    · exact List.forall_mem_cons.2 ⟨kept name here clean, others⟩

/-- Clean files are left as they are, and nothing is told of them. -/
theorem exists_formatFiles_of_clean {names : List String} (mem : ∀ name ∈ names, name ∈ files)
    (sound : s.Sound) (apart : s.Apart files) (formats : s.FormatsFiles engine files f)
    (clean : ∀ name ∈ names, Clean f s.tree name) (clock : Clock) (check : Bool) (status : Nat) :
    ∃ s', (formatFiles engine clock check status names).run s = (.ok status, s') ∧
      Worked s.Owns s s' := by
  induction names generalizing s with
  | nil => exact ⟨s, rfl, .refl sound _⟩
  | cons name rest ih =>
    have here := mem name List.mem_cons_self
    obtain ⟨s₁, first, worked, formats₁⟩ :=
      exists_formatFile_of_clean sound formats here (clean name List.mem_cons_self) clock check
    obtain ⟨s', later, more⟩ := ih (fun b mem' => mem b (List.mem_cons_of_mem _ mem')) worked.sound
      (apart.worked worked) formats₁ fun b mem' =>
        (clean b (List.mem_cons_of_mem _ mem')).of_agree worked.agree
          (apart.log b (mem b (List.mem_cons_of_mem _ mem')))
    refine ⟨s', ?_, worked.trans (more.mono fun q => worked.owns_iff.1)⟩
    rw [run_formatFiles_cons first, Nat.max_zero]
    exact later

end Session
end FormatHost
