import FormatHost.Log.Logger
import FormatHost.Proofs.Files.Tree
import FormatHost.Proofs.Log.Name
/-!
# What a log touches

A log makes its directory. After that it adds files to it, lengthens them, and removes those that are too
old; and all of these have names of log files. Nothing else in the tree changes.
-/
namespace FormatHost

variable {t u : FileTree} {stem name : String} {today : Day} {place : List String}

namespace DailyLog

variable {l l' : DailyLog}

/-- A name that starts with the stem of a log and ends like one of its files. -/
def IsName (stem name : String) : Prop :=
  stem.toList ++ ['-'] <+: name.toList ∧ (".log".toList <:+ name.toList ∨ ".log\n".toList <:+ name.toList)

/-- The files that are removed have names of log files. -/
theorem isName_of_dayOf? {day : Day} (dated : dayOf? stem name = some day) : IsName stem name := by
  obtain ⟨-, cs, tail, -, ends, rfl⟩ := dayOf?_eq_some_iff_spelled.1 dated
  simp only [IsName, String.toList_append]
  constructor
  · rw [List.append_assoc]
    exact List.prefix_append _ _
  · rcases ends with rfl | rfl
    · exact .inl (List.suffix_append _ _)
    · exact .inr (List.suffix_append _ _)

/-- The file of a day has such a name. -/
theorem isName_day (stem : String) (day : Day) : IsName stem (stem ++ "-" ++ day.text ++ ".log") := by
  simp only [IsName, String.toList_append]
  refine ⟨?_, .inl (List.suffix_append _ _)⟩
  rw [List.append_assoc]
  exact List.prefix_append _ _

/-- What follows the last point of a name, with the point, is the end of the name. -/
theorem splitName_suffix (name : String) : (Path.splitName name).2.toList <:+ name.toList := by
  unfold Path.splitName
  simp only
  split
  · next split =>
    rw [String.toList_ofList]
    have parts : name.toList.reverse.takeWhile (· != '.') ++ name.toList.reverse.dropWhile (· != '.') =
        name.toList.reverse := List.takeWhile_append_dropWhile
    cases rest : name.toList.reverse.dropWhile (· != '.') with
    | nil =>
      rw [rest, List.append_nil] at parts
      rw [parts, List.length_reverse, List.length_reverse] at split
      exact absurd split.1 (Nat.lt_irrefl _)
    | cons c others =>
      have point : c = '.' := by
        have head := List.head?_dropWhile_not (· != '.') name.toList.reverse
        simpa [rest] using head
      have whole := congrArg List.reverse parts
      rw [List.reverse_reverse, rest, point] at whole
      exact ⟨others.reverse, Eq.trans (by simp) whole⟩
  · exact List.nil_suffix

/-- No such name stands for the directory above, and none is that of a plugin. -/
theorem IsName.plain (named : IsName stem name) :
    name ≠ ".." ∧ (Path.splitName name).2 ≠ Discovery.suffix := by
  have last : name.toList.getLast? = some 'g' ∨ name.toList.getLast? = some '\n' := by
    rcases named.2 with ⟨before, whole⟩ | ⟨before, whole⟩
    · exact .inl (by rw [← whole]; simp)
    · exact .inr (by rw [← whole]; simp)
  constructor
  · rintro rfl
    revert last
    decide
  · intro suffixed
    have ends := splitName_suffix name
    obtain ⟨before, whole⟩ := suffixed ▸ ends
    have last' : name.toList.getLast? = some 'd' := by
      rw [← whole]
      simp [Discovery.suffix]
    rw [last'] at last
    revert last
    decide

/-- A text without slashes is a path of one part. -/
theorem ofString_of_notMem {s : String} (whole : '/' ∉ s.toList) (some : s.toList ≠ [])
    (here : s.toList ≠ ['.']) : Path.ofString s = ⟨"", [s]⟩ := by
  have apart : ∀ c ∈ s.toList, (c == '/') = false := by
    intro c mem
    have apart : c ≠ '/' := fun same => whole (same ▸ mem)
    simpa using apart
  have root : s.toList.takeWhile (· == '/') = [] := by
    cases chars : s.toList with
    | nil => rfl
    | cons c rest => exact List.takeWhile_cons_of_neg (by simp [apart c (by simp [chars])])
  unfold Path.ofString Path.rootOf
  rw [Text.splitAt_of_forall apart, root]
  simp [some, here]

theorem notMem_text (day : Day) : '/' ∉ day.text.toList := by
  have number (n : Nat) : '/' ∉ (toString n).toList := by
    intro mem
    have mem : '/' ∈ Nat.toDigits 10 n := by simpa using mem
    exact absurd (Nat.isDigit_of_mem_toDigits (by decide) (by decide) mem) (by decide)
  have two (n : Nat) : '/' ∉ (Day.twoDigits n).toList := by
    unfold Day.twoDigits
    split
    · simpa using number n
    · exact number n
  have year := number day.year
  simp only [Day.text, String.toList_append, List.mem_append, not_or]
  exact ⟨⟨⟨⟨year, by decide⟩, two day.month⟩, by decide⟩, two day.day⟩

/-- The places of a log's files. -/
def Owns (l : DailyLog) (t : FileTree) (place : List String) : Prop :=
  ∃ q name, t.place l.directory = .ok q ∧ place = q ++ [name] ∧ IsName l.stem name

/-- Logs that differ in the day that is open own the same places, also where the tree has the same
directories. -/
theorem owns_iff (closed : l'.close = l.close) {zone : List String → Prop}
    (agree : FileTree.Agree zone t u) : l'.Owns u place ↔ l.Owns t place := by
  have directory : l'.directory = l.directory := (DailyLog.mk.inj closed).1
  have stem : l'.stem = l.stem := (DailyLog.mk.inj closed).2.1
  simp only [Owns, directory, stem, agree.leads_iff]

/-- A log has been written to. -/
structure Wrote (l : DailyLog) (t : FileTree) (l' : DailyLog) (t' : FileTree) : Prop where
  closed : l'.close = l.close
  agree : FileTree.Agree (l.Owns t) t t'
  proper : t'.Proper

theorem Wrote.refl (l : DailyLog) (proper : t.Proper) : Wrote l t l t := ⟨rfl, .refl _ t, proper⟩

theorem Wrote.trans {l'' : DailyLog} {v : FileTree} (first : Wrote l t l' u)
    (second : Wrote l' u l'' v) : Wrote l t l'' v where
  closed := second.closed.trans first.closed
  agree := first.agree.trans (second.agree.mono fun _ => (owns_iff first.closed first.agree).1)
  proper := second.proper

/-- A path behind that of the directory leads to a place that the log owns. -/
theorem owns_of_join (named : IsName l.stem name)
    (leads : t.place (l.directory.join ⟨"", [name]⟩) = .ok place) : l.Owns t place := by
  obtain ⟨q, found, rfl⟩ := FileTree.exists_of_join named.plain.1 leads
  exact ⟨q, name, found, rfl, named⟩

theorem pathFor_eq (whole : '/' ∉ l.stem.toList) (day : Day) :
    l.pathFor day = l.directory.join ⟨"", [l.stem ++ "-" ++ day.text ++ ".log"]⟩ := by
  unfold pathFor
  rw [ofString_of_notMem]
  · simpa [whole] using notMem_text day
  · simp
  · intro point
    have long := congrArg List.length point
    simp at long
    omega

/-- Bytes are written at the end of a day's file. -/
theorem wrote_append (whole : '/' ∉ l.stem.toList) (proper : t.Proper) {day : Day} {data : Bytes}
    (appended : t.append (l.pathFor day) data = .ok u) : Wrote l t l u := by
  obtain ⟨q, old, leads, file, rfl⟩ := FileTree.exists_of_modify appended
  rw [pathFor_eq whole] at leads
  exact ⟨rfl, .set t file _ (owns_of_join (isName_day l.stem day) leads), proper.set _ _⟩

/-- Files that are too old are removed. -/
theorem wrote_prune (proper : t.Proper) {n : Nat} (pruned : l.prune today t = .ok (n, u)) :
    Wrote l t l u := by
  unfold prune at pruned
  split at pruned
  · obtain ⟨-, rfl⟩ := Prod.mk.inj (Except.ok.inj pruned)
    exact .refl l proper
  · cases cut : l.cutoff today with
    | error e => simp [cut, bind, Except.bind] at pruned
    | ok first =>
      simp only [cut, bind, Except.bind, pure, Except.pure, Except.ok.injEq, Prod.mk.injEq] at pruned
      obtain ⟨-, rfl⟩ := pruned
      have expired : ∀ entry ∈ (t.children l.directory).filter (l.isExpired first),
          IsName l.stem entry.1 ∧ ∀ q, t.place l.directory = .ok q →
            t.node? (q ++ [entry.1]) ≠ some .directory := by
        rintro ⟨name, node⟩ mem
        obtain ⟨mem, expired⟩ := List.mem_filter.1 mem
        obtain ⟨q, leads, there⟩ := proper.mem_children_iff.1 mem
        unfold isExpired at expired
        split at expired
        · next data day file dated =>
          refine ⟨isName_of_dayOf? dated, fun q' leads' => ?_⟩
          obtain rfl : q = q' := by simpa [leads] using leads'
          simp only at file
          simp [there, file]
        · simp at expired
      revert expired
      generalize (t.children l.directory).filter (l.isExpired first) = entries
      intro expired
      refine List.foldlRecOn entries _ (.refl l proper) fun u written entry mem => ?_
      split
      · next place leads =>
        obtain ⟨named, file⟩ := expired entry mem
        obtain ⟨q, found, rfl⟩ := FileTree.exists_of_join named.plain.1 leads
        have found := written.agree.leads_iff.1 found
        have file' : u.node? (q ++ [entry.1]) ≠ some .directory :=
          fun there => file q found ((written.agree.directories _).1 there)
        have owned : l.Owns u (q ++ [entry.1]) :=
          (owns_iff rfl written.agree).2 ⟨q, entry.1, found, rfl, named⟩
        exact written.trans ⟨rfl, .remove u file' owned, written.proper.remove _⟩
      · exact written

theorem wrote_openFor (whole : '/' ∉ l.stem.toList) (proper : t.Proper) (today : Day) :
    Wrote l t (l.openFor today t).2.1 (l.openFor today t).2.2 := by
  unfold openFor
  split
  · exact .refl l proper
  · cases pruned : l.prune today t with
    | error e => exact ⟨rfl, .refl _ t, proper⟩
    | ok result =>
      obtain ⟨n, u⟩ := result
      have first := wrote_prune proper pruned
      cases appended : u.append (l.pathFor today) [] with
      | error e =>
        simp only [appended]
        exact { first with }
      | ok v =>
        simp only [appended]
        exact { first.trans (wrote_append whole first.proper appended) with }

/-- A line that is written changes files of the log only. -/
theorem wrote_emit (whole : '/' ∉ l.stem.toList) (proper : t.Proper) (today : Day) (line : String) :
    Wrote l t (l.emit today line t).1 (l.emit today line t).2 := by
  have opened := wrote_openFor whole proper today
  unfold emit
  revert opened
  rcases l.openFor today t with ⟨_ | fault, l', u⟩ <;> intro opened
  · have whole' : '/' ∉ l'.stem.toList := (DailyLog.mk.inj opened.closed).2.1 ▸ whole
    simp only
    cases appended : u.append (l'.pathFor today) (Utf8.encode (line ++ "\n")) with
    | error e => exact opened
    | ok v => exact opened.trans (wrote_append whole' opened.proper appended)
  · exact opened

end DailyLog

/-! ### Loggers -/

namespace Logger

variable {l l' : Logger}

/-- The logger with no file open. -/
def closed (l : Logger) : Logger := { l with file := l.file.map DailyLog.close }

/-- The places of a logger's files. -/
def Owns (l : Logger) (t : FileTree) (place : List String) : Prop :=
  ∃ f, l.file = some f ∧ f.Owns t place

/-- A logger has been written to. -/
structure Wrote (l : Logger) (t : FileTree) (l' : Logger) (t' : FileTree) : Prop where
  closed : l'.closed = l.closed
  agree : FileTree.Agree (l.Owns t) t t'
  proper : t'.Proper

theorem Wrote.refl (l : Logger) (proper : t.Proper) : Wrote l t l t := ⟨rfl, .refl _ t, proper⟩

/-- What is logged changes files of the log only. -/
theorem wrote_emit (whole : ∀ f, l.file = some f → '/' ∉ f.stem.toList) (proper : t.Proper)
    (today : Day) (stamp : String) (r : LogRecord) :
    Wrote l t (l.emit today stamp r t).2.1 (l.emit today stamp r t).2.2 := by
  unfold emit
  split
  · exact .refl l proper
  · simp only
    split
    · exact .refl l proper
    · next f file =>
      have emitted := DailyLog.wrote_emit (whole f file) proper today (line stamp r)
      refine ⟨?_, emitted.agree.mono fun place owned => ⟨f, file, owned⟩, emitted.proper⟩
      simp [closed, file, emitted.closed]

end Logger
end FormatHost
