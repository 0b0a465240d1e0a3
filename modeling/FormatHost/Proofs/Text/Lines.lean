import FormatHost.Text.Lines
/-!
# Lines and line ends

A text is put together from its lines as it was, and lines that have no line feeds are found again when
they were put together. In a text that is read all line ends are line feeds.
-/
namespace FormatHost.Text

variable {α : Type} {isMark : α → Bool} {cs : List α}

/-- A list without marks is one part. -/
theorem splitAt_of_forall (none : ∀ c ∈ cs, isMark c = false) : splitAt isMark cs = [cs] := by
  induction cs with
  | nil => rfl
  | cons c rest ih =>
    have others := ih fun d mem => none d (List.mem_cons_of_mem _ mem)
    rw [splitAt, none c List.mem_cons_self, others]
    rfl

/-- The first part ends before the first mark. -/
theorem splitAt_append {mark : α} (none : ∀ c ∈ cs, isMark c = false) (marks : isMark mark = true)
    (rest : List α) : splitAt isMark (cs ++ mark :: rest) = cs :: splitAt isMark rest := by
  induction cs with
  | nil => rw [List.nil_append, splitAt, if_pos marks]
  | cons c others ih =>
    have later := ih fun d mem => none d (List.mem_cons_of_mem _ mem)
    rw [List.cons_append, splitAt, none c List.mem_cons_self, later]
    rfl

theorem splitAt_ne_nil (isMark : α → Bool) (cs : List α) : splitAt isMark cs ≠ [] := by
  cases cs with
  | nil => simp [splitAt]
  | cons c rest =>
    rw [splitAt]
    split
    · simp
    · split <;> simp

/-- Parts have what the list has, apart from the marks. -/
theorem mem_of_mem_splitAt {part : List α} {c : α} (listed : part ∈ splitAt isMark cs) (mem : c ∈ part) :
    c ∈ cs ∧ isMark c = false := by
  induction cs generalizing part with
  | nil =>
    obtain rfl : part = [] := by simpa [splitAt] using listed
    exact absurd mem List.not_mem_nil
  | cons d rest ih =>
    rw [splitAt] at listed
    split at listed
    · rcases List.mem_cons.1 listed with rfl | listed
      · exact absurd mem List.not_mem_nil
      · exact (ih listed mem).imp_left (List.mem_cons_of_mem _)
    · next plain =>
      have plain : isMark d = false := by simpa using plain
      split at listed
      · next empty => exact absurd empty (splitAt_ne_nil _ _)
      · next first others parts =>
        rcases List.mem_cons.1 listed with rfl | listed
        · rcases List.mem_cons.1 mem with rfl | mem
          · exact ⟨List.mem_cons_self, plain⟩
          · exact (ih (parts ▸ List.mem_cons_self) mem).imp_left (List.mem_cons_of_mem _)
        · exact (ih (parts ▸ List.mem_cons_of_mem _ listed) mem).imp_left (List.mem_cons_of_mem _)

theorem unlines_cons (l next : List Char) (others : List (List Char)) :
    unlines (l :: next :: others) = l ++ '\n' :: unlines (next :: others) := by
  simp [unlines, List.intercalate]

/-- Lines that were put together are found again. -/
theorem lines_unlines {ls : List (List Char)} (some : ls ≠ []) (whole : ∀ l ∈ ls, '\n' ∉ l) :
    lines (unlines ls) = ls := by
  induction ls with
  | nil => exact absurd rfl some
  | cons l rest ih =>
    have first : ∀ c ∈ l, (c == '\n') = false := by
      intro c mem
      have apart : c ≠ '\n' := fun same => whole l List.mem_cons_self (same ▸ mem)
      simpa using apart
    cases rest with
    | nil => simpa [unlines, List.intercalate, lines] using splitAt_of_forall first
    | cons next others =>
      have later := ih (by simp) fun l mem => whole l (List.mem_cons_of_mem _ mem)
      rw [unlines_cons, lines, splitAt_append first (by decide), ← lines, later]

/-- What is put together from lines has what they have, and line feeds. -/
theorem mem_of_mem_unlines {ls : List (List Char)} {c : Char} (mem : c ∈ unlines ls) :
    c = '\n' ∨ ∃ l ∈ ls, c ∈ l := by
  induction ls with
  | nil => exact absurd mem (by simp [unlines, List.intercalate])
  | cons l rest ih =>
    cases rest with
    | nil => exact .inr ⟨l, List.mem_cons_self, by simpa [unlines, List.intercalate] using mem⟩
    | cons next others =>
      rw [unlines_cons] at mem
      rcases List.mem_append.1 mem with here | later
      · exact .inr ⟨l, List.mem_cons_self, here⟩
      rcases List.mem_cons.1 later with feed | later
      · exact .inl feed
      · exact (ih later).imp_right fun ⟨m, listed, mem⟩ => ⟨m, List.mem_cons_of_mem _ listed, mem⟩

/-- In a text without carriage returns all line ends are line feeds already. -/
theorem unifyBreaks_of_notMem {cs : List Char} (unbroken : '\r' ∉ cs) : unifyBreaks cs = cs := by
  fun_induction unifyBreaks cs with
  | case1 => rfl
  | case2 rest ih => exact absurd List.mem_cons_self unbroken
  | case3 c rest other ih =>
    have apart : c ≠ '\r' := fun same => unbroken (same ▸ List.mem_cons_self)
    rw [ih fun mem => unbroken (List.mem_cons_of_mem _ mem), if_neg (by simpa using apart)]

/-- A text that is read has no carriage returns. -/
theorem notMem_unifyBreaks (cs : List Char) : '\r' ∉ unifyBreaks cs := by
  fun_induction unifyBreaks cs with
  | case1 => exact List.not_mem_nil
  | case2 rest ih => exact List.not_mem_cons_of_ne_of_not_mem (by decide) ih
  | case3 c rest other ih =>
    refine List.not_mem_cons_of_ne_of_not_mem ?_ ih
    split
    · decide
    · next kept => exact fun same => kept (by simp [← same])

end FormatHost.Text
