import FormatHost.Proofs.Log.Daily
/-!
# Which files of a log are removed

Pruning goes through the directory of a log and removes the files of which a day is read that is too long
ago. So the files that go are exactly those of a day more than so many days ago, and those whose names are
mistaken for that of such a file; everything else stays, and the number that is given is that of the files.

If the log is to keep more days than there have been, nothing is removed; but then nothing is written
either, since the file of a new day is opened after the old ones have been removed.
-/
namespace FormatHost

/-! ### Removing entries of a directory -/

namespace FileTree

variable {t : FileTree} {directory : Path} {q : List String} {name : String}

/-- No name is longer than names may be. -/
def Short (t : FileTree) : Prop := ∀ n ∈ t.nodes, ∀ name ∈ n.1, (Utf8.encode name).length ≤ 255

/-- Behind the path of a directory a name leads to the entry. -/
theorem place_join_of_entry (short : t.Short) (leads : t.place directory = .ok q)
    (there : t.node? q = some .directory) (plain : name ≠ "..") (entry : t.node? (q ++ [name]) ≠ none) :
    t.place (directory.join ⟨"", [name]⟩) = .ok (q ++ [name]) := by
  have fits : (Utf8.encode name).length ≤ 255 := by
    rw [node?_of_ne_nil t (by simp)] at entry
    obtain ⟨node, found⟩ := Option.ne_none_iff_exists'.1 entry
    obtain ⟨n, listed, -⟩ := Option.map_eq_some_iff.1 found
    have here : n.1 = q ++ [name] := by simpa using List.find?_some listed
    exact short n (List.mem_of_find?_eq_some listed) name (by simp [here])
  rw [place_join, leads]
  change t.follow q name = _
  simp only [follow, there]
  rw [if_neg (Nat.not_lt.2 fits), if_neg plain]

/-- The tree without an entry of a directory. -/
def discard (directory : Path) (t : FileTree) (entry : String × FileNode) : FileTree :=
  match t.place (directory.join ⟨"", [entry.1]⟩) with
  | .ok place => t.remove place
  | .error _ => t

/-- Where the entries are files that their paths lead to, they are gone in the end, and all else is as it
was. -/
theorem node?_foldl_discard {entries : List (String × FileNode)}
    (files : ∀ entry ∈ entries, t.place (directory.join ⟨"", [entry.1]⟩) = .ok (q ++ [entry.1]) ∧
      t.node? (q ++ [entry.1]) ≠ some .directory) :
    (∀ entry ∈ entries, (entries.foldl (discard directory) t).node? (q ++ [entry.1]) = none) ∧
      ∀ place, (∀ entry ∈ entries, place ≠ q ++ [entry.1]) →
        (entries.foldl (discard directory) t).node? place = t.node? place := by
  induction entries generalizing t with
  | nil => exact ⟨fun entry mem => absurd mem List.not_mem_nil, fun place _ => rfl⟩
  | cons entry rest ih =>
    obtain ⟨leads, file⟩ := files entry List.mem_cons_self
    have discarded : discard directory t entry = t.remove (q ++ [entry.1]) := by
      simp only [discard, leads]
    have agree : Agree (fun _ => True) t (t.remove (q ++ [entry.1])) := .remove t file trivial
    obtain ⟨removed, kept⟩ := ih (t := t.remove (q ++ [entry.1])) fun other mem => by
      obtain ⟨leads, file⟩ := files other (List.mem_cons_of_mem _ mem)
      exact ⟨agree.leads leads, fun there => file ((agree.directories _).1 there)⟩
    rw [List.foldl_cons, discarded]
    constructor
    · intro other mem
      by_cases again : ∃ later ∈ rest, q ++ [other.1] = q ++ [later.1]
      · obtain ⟨later, mem, same⟩ := again
        rw [same]
        exact removed later mem
      · rw [kept _ fun later mem same => again ⟨later, mem, same⟩]
        rcases List.mem_cons.1 mem with rfl | mem
        · exact node?_remove_self t (by simp)
        · exact absurd ⟨other, mem, rfl⟩ again
    · intro place apart
      rw [kept place fun later mem => apart later (List.mem_cons_of_mem _ mem)]
      exact node?_remove_ne t (apart entry List.mem_cons_self)

end FileTree

namespace DailyLog

variable {t : FileTree} {l : DailyLog} {name : String} {today : Day} {q : List String}

/-! ### The days that are kept -/

theorem cutoff_of_reaches (valid : today.IsValid) (reaches : today.Reaches l.retention) :
    l.cutoff today = .ok (today.ordinal - l.retention) := by
  have within := (Day.reaches_iff valid).1 reaches
  have bound : today.ordinal ≤ 3652059 := valid.ordinal_le
  have fits : ¬(maxDistance < l.retention ∨ today.ordinal ≤ l.retention) := by
    unfold maxDistance
    omega
  exact if_neg fits

theorem cutoff_of_not_reaches (valid : today.IsValid) (endless : ¬today.Reaches l.retention) :
    l.cutoff today = .error .noSuchDay := by
  rw [Day.reaches_iff valid] at endless
  exact if_pos (.inr (Nat.not_lt.1 endless))

theorem prune_of_cutoff {first : Nat} (kept : 1 ≤ l.retention) (cut : l.cutoff today = .ok first) :
    l.prune today t =
      let expired := (t.children l.directory).filter (l.isExpired first)
      .ok (expired.length, expired.foldl (FileTree.discard l.directory) t) := by
  have some : l.retention ≠ 0 := by omega
  simp only [prune, some, if_false, cut, bind, Except.bind]
  rfl

theorem prune_of_not_reaches (kept : 1 ≤ l.retention) (valid : today.IsValid)
    (endless : ¬today.Reaches l.retention) : l.prune today t = .error .noSuchDay := by
  have some : l.retention ≠ 0 := by omega
  simp only [prune, some, if_false, cutoff_of_not_reaches valid endless, bind, Except.bind]

/-- A log that is to keep more days than there have been writes nothing into the file of a new day. -/
theorem emit_of_not_reaches (kept : 1 ≤ l.retention) (valid : today.IsValid)
    (endless : ¬today.Reaches l.retention) (closed : l.opened ≠ some today) (line : String) :
    l.emit today line t = (l.close, t) := by
  simp only [emit, openFor, if_neg closed, prune_of_not_reaches kept valid endless]
  rfl

/-! ### The files that go -/

/-- An entry of the directory at a place is a file of a day that is too long ago. -/
structure Expired (l : DailyLog) (today : Day) (t : FileTree) (q : List String) (name : String) :
    Prop where
  file : ∃ data, t.node? (q ++ [name]) = some (.file data)
  dated : ∃ day : Day, day.IsValid ∧ (name = fileName l.stem day ∨ Mistaken l.stem day name) ∧
    day.Precedes l.retention today

theorem mem_filter_isExpired_iff (proper : t.Proper) (leads : t.place l.directory = .ok q)
    (valid : today.IsValid) (reaches : today.Reaches l.retention) :
    name ∈ ((t.children l.directory).filter (l.isExpired (today.ordinal - l.retention))).map Prod.fst ↔
      l.Expired today t q name := by
  have within := (Day.reaches_iff valid).1 reaches
  have past {day : Day} (valid' : day.IsValid) :
      day.ordinal < today.ordinal - l.retention ↔ day.Precedes l.retention today := by
    rw [Day.precedes_iff valid'.regular valid.regular]
    omega
  simp only [List.mem_map, List.mem_filter, Prod.exists, exists_and_right, exists_eq_right,
    proper.mem_children_iff, leads, Except.ok.injEq, exists_eq_left']
  constructor
  · rintro ⟨node, there, expired⟩
    unfold isExpired at expired
    split at expired
    · next data day file dated =>
      simp only at file dated
      obtain ⟨valid', named⟩ := dayOf?_eq_some_iff.1 dated
      exact ⟨⟨data, file ▸ there⟩, day, valid', named, (past valid').1 (of_decide_eq_true expired)⟩
    · simp at expired
  · rintro ⟨⟨data, there⟩, day, valid', named, before⟩
    have dated : dayOf? l.stem name = some day := dayOf?_eq_some_iff.2 ⟨valid', named⟩
    refine ⟨.file data, there, ?_⟩
    simp only [isExpired, dated]
    exact decide_eq_true ((past valid').2 before)

/-- So many entries of a directory are gone, and all else is as it was. -/
structure Pruned (expired : String → Prop) (t : FileTree) (q : List String) (n : Nat) (u : FileTree) :
    Prop where
  count : ∃ gone : List String, gone.Nodup ∧ (∀ name, name ∈ gone ↔ expired name) ∧ gone.length = n
  removed : ∀ name, expired name → u.node? (q ++ [name]) = none
  kept : ∀ place, (∀ name, expired name → place ≠ q ++ [name]) → u.node? place = t.node? place

/-- As long as the calendar reaches back as many days as are kept, pruning ends well. Gone are exactly the
files of days before these, with those whose names are mistaken for theirs, and so many were there. Beyond
the calendar it fails. -/
theorem prune_removes_expired (proper : t.Proper) (short : t.Short)
    (leads : t.place l.directory = .ok q) (there : t.node? q = some .directory)
    (valid : today.IsValid) (kept : 1 ≤ l.retention) :
    (today.Reaches l.retention →
      ∃ n u, l.prune today t = .ok (n, u) ∧ Pruned (l.Expired today t q) t q n u) ∧
    (¬today.Reaches l.retention → l.prune today t = .error .noSuchDay) := by
  refine ⟨fun reaches => ?_, prune_of_not_reaches kept valid⟩
  refine ⟨_, _, prune_of_cutoff kept (cutoff_of_reaches valid reaches), ?_⟩
  have listed (name : String) : name ∈ ((t.children l.directory).filter
      (l.isExpired (today.ordinal - l.retention))).map Prod.fst ↔ l.Expired today t q name :=
    mem_filter_isExpired_iff proper leads valid reaches
  have once := (proper.children_names l.directory).filter
    (l.isExpired (today.ordinal - l.retention))
  revert listed once
  generalize (t.children l.directory).filter (l.isExpired (today.ordinal - l.retention)) = entries
  intro listed once
  have expired (entry : String × FileNode) (mem : entry ∈ entries) : l.Expired today t q entry.1 :=
    (listed entry.1).1 (List.mem_map_of_mem mem)
  have files : ∀ entry ∈ entries,
      t.place (l.directory.join ⟨"", [entry.1]⟩) = .ok (q ++ [entry.1]) ∧
        t.node? (q ++ [entry.1]) ≠ some .directory := by
    intro entry mem
    obtain ⟨⟨data, file⟩, day, valid', named, -⟩ := expired entry mem
    have plain := (isName_of_dayOf? (dayOf?_eq_some_iff.2 ⟨valid', named⟩)).plain.1
    exact ⟨FileTree.place_join_of_entry short leads there plain (by simp [file]), by simp [file]⟩
  obtain ⟨removed, unchanged⟩ := FileTree.node?_foldl_discard files
  refine ⟨⟨entries.map Prod.fst, List.pairwise_map.2 once, listed, List.length_map _⟩, ?_, ?_⟩
  · intro name past
    obtain ⟨entry, mem, rfl⟩ := List.mem_map.1 ((listed name).2 past)
    exact removed entry mem
  · intro place apart
    exact unchanged place fun entry mem => apart entry.1 (expired entry mem)

/-- A log that keeps so many days. -/
def keeping (days : Nat) : DailyLog := ⟨⟨"", ["logs"]⟩, "f", days, none⟩

/-- The last day of a month. -/
def monthEnd : Day := ⟨2024, 1, 31⟩

/-- The directory of a log with two files of old days, the second with a line feed behind its name, the
file of a day that is kept, one of another log, one of a day that there is not, and a directory. -/
def shelf : FileTree := ⟨[], [(["logs"], .directory), (["logs", "f-2024-01-23.log"], .file [120]),
  (["logs", "f-2024-01-01.log\n"], .file []), (["logs", "f-2024-01-24.log"], .file []),
  (["logs", "f-g-2024-01-01.log"], .file []), (["logs", "f-2023-02-29.log"], .file []),
  (["logs", "f-2024-01-02.log"], .directory)]⟩

/-- The general statement for a week. -/
theorem two_removed_of_shelf :
    shelf.Proper ∧ shelf.Short ∧ shelf.place (keeping 7).directory = .ok ["logs"] ∧
    shelf.node? ["logs"] = some .directory ∧ monthEnd.IsValid ∧ 1 ≤ (keeping 7).retention ∧
    monthEnd.Reaches 7 ∧
    ∃ u, (keeping 7).prune monthEnd shelf = .ok (2, u) ∧
      Pruned ((keeping 7).Expired monthEnd shelf ["logs"]) shelf ["logs"] 2 u := by
  have proper : shelf.Proper := by
    unfold FileTree.Proper
    decide +kernel
  have short : shelf.Short := by
    unfold FileTree.Short
    decide +kernel
  have valid : monthEnd.IsValid := by decide
  have reaches : monthEnd.Reaches 7 := (Day.reaches_iff valid).2 (by decide +kernel)
  obtain ⟨n, u, pruned, settled⟩ :=
    (prune_removes_expired proper short (l := keeping 7) (q := ["logs"]) rfl rfl valid (by decide)).1 reaches
  have two : ((keeping 7).prune monthEnd shelf).toOption.map Prod.fst = some 2 := by decide +kernel
  obtain rfl : n = 2 := by simpa [pruned, Except.toOption] using two
  exact ⟨proper, short, rfl, rfl, valid, by decide, reaches, u, pruned, settled⟩

/-- The directory of a log with one file. -/
def holding (name : String) : FileTree := ⟨[], [(["logs"], .directory), (["logs", name], .file [])]⟩

/-- A log that is to keep a million days cannot be pruned; and files go whose names are those of no day's
file: one with a line feed at its end, and one with digits of another script. -/
theorem unpruned_and_misread :
    ((keeping 1000000).prune monthEnd (holding "f-2024-01-30.log")).toOption.isNone ∧
    ∀ name ∈ ["f-2024-01-01.log\n", "f-٢٠٢٤-01-01.log"],
      (∀ day : Day, name ≠ fileName "f" day) ∧
      ((keeping 7).prune monthEnd (holding name)).toOption.map
        (fun pruned => (pruned.1, pruned.2.node? ["logs", name])) = some (1, none) := by
  refine ⟨by decide +kernel, ?_⟩
  simp only [List.mem_cons, List.not_mem_nil, or_false, forall_eq_or_imp, forall_eq]
  refine ⟨⟨fun day same => ?lineFeed, by decide +kernel⟩, fun day same => ?script, by decide +kernel⟩
  case lineFeed =>
    have behind := congrArg (fun name => name.toList[16]?) same
    simp [fileName, Day.written, Day.yearDigits] at behind
  case script =>
    have digit := congrArg (fun name => name.toList[2]?) same
    simp [fileName, Day.written, Day.yearDigits] at digit

end DailyLog
end FormatHost
