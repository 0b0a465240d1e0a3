import FormatHost.Proofs.Config.Spelling
import FormatHost.Proofs.Files.Tree
import FormatHost.Proofs.Json.Grammar
/-!
# Strings and numbers are read by the grammar

What the parser reads as a string or a number is spelled by the text that it has taken, and what is spelled
is read, if what stands behind a number does not go on with it.
-/
namespace FormatHost.Json

variable {s t rest after : Text}

/-! ### Blanks -/

theorem exists_skip (s : Text) : ∃ a, Blanks a ∧ s = a ++ skip s :=
  ⟨s.takeWhile isSpace, fun _ mem => List.all_eq_true.1 List.all_takeWhile _ mem,
    List.takeWhile_append_dropWhile.symm⟩

theorem Blanks.skip_append (blanks : Blanks t) (s : Text) : skip (t ++ s) = skip s := by
  unfold skip
  exact List.dropWhile_append_of_pos blanks

theorem Blanks.append (blanks : Blanks s) (blanks' : Blanks t) : Blanks (s ++ t) := by
  intro x mem
  exact (List.mem_append.1 mem).elim (blanks x) (blanks' x)

theorem blanks_nil : Blanks [] := fun _ none => absurd none List.not_mem_nil

/-! ### Strings -/

/-- Pieces are read up to the closing quote. -/
theorem pieces_eq_ok_iff {ps : List Piece} :
    pieces s = .ok (ps, rest) ↔ ∃ t, s = t ++ .char '"' :: rest ∧ Pieced t ps := by
  constructor
  · intro read
    fun_induction pieces s generalizing ps with
    | case1 => exact absurd read (by simp)
    | case2 after =>
      obtain ⟨rfl, rfl⟩ := Prod.mk.inj (Except.ok.inj read)
      exact ⟨[], rfl, .none⟩
    | case3 a b c d rest' none => exact absurd read (by simp)
    | case4 a b c d rest' n digits e failed ih => exact absurd read (by simp)
    | case5 a b c d rest' n digits qs after done ih =>
      obtain ⟨rfl, rfl⟩ := Prod.mk.inj (Except.ok.inj read)
      obtain ⟨t, rfl, pieced⟩ := ih done
      exact ⟨_, rfl, .unit digits pieced⟩
    | case6 => exact absurd read (by simp)
    | case7 => exact absurd read (by simp)
    | case8 s rest' other c letter qs after done ih =>
      obtain ⟨rfl, rfl⟩ := Prod.mk.inj (Except.ok.inj read)
      obtain ⟨t, rfl, pieced⟩ := ih done
      exact ⟨_, rfl, .short letter pieced⟩
    | case9 => exact absurd read (by simp)
    | case10 => exact absurd read (by simp)
    | case11 s rest' quote slash plain qs after done ih =>
      obtain ⟨rfl, rfl⟩ := Prod.mk.inj (Except.ok.inj read)
      obtain ⟨t, rfl, pieced⟩ := ih done
      exact ⟨_, rfl, .plain plain quote slash pieced⟩
    | case12 => exact absurd read (by simp)
  · rintro ⟨t, rfl, pieced⟩
    induction pieced with
    | none => rw [List.nil_append, pieces]
    | @plain s t ps plain quote slash pieced ih =>
      rw [List.cons_append, pieces]
      · simp only [plain, if_true, ih]
      · exact quote
      · exact slash
    | @short s c t ps letter pieced ih =>
      rw [List.cons_append, List.cons_append, pieces]
      · simp only [letter, ih]
      · rintro a b c d rest rfl
        exact absurd letter (by simp [shortEscape?])
    | @unit a b c d n t ps digits pieced ih =>
      simp only [List.cons_append]
      rw [pieces]
      simp only [digits, ih]

theorem single_eq_ok_iff {n : Nat} {x : Symbol} :
    single true n = .ok x ↔ Symbol.ofCodePoint? n = some x := by
  unfold single
  rcases Symbol.ofCodePoint? n with _ | _ | offset <;> simp

/-- Pieces are joined. -/
theorem joined_eq_ok_iff {ps : List Piece} : joined true ps = .ok t ↔ Joined ps t := by
  constructor
  · intro done
    fun_induction joined true ps generalizing t with
    | case1 =>
      obtain rfl := Except.ok.inj done
      exact .none
    | case2 s rest ih =>
      obtain ⟨others, joined, rfl⟩ := exists_of_map_eq_ok done
      exact .raw (ih joined)
    | case3 n =>
      obtain ⟨x, spelled, rfl⟩ := exists_of_map_eq_ok done
      exact .unit (single_eq_ok_iff.1 spelled) nofun .none
    | case4 n s rest ih =>
      obtain ⟨x, spelled, done⟩ := exists_of_bind_eq_ok done
      obtain ⟨others, joined, done⟩ := exists_of_bind_eq_ok done
      obtain rfl := Except.ok.inj done
      exact .unit (single_eq_ok_iff.1 spelled) nofun (.raw (ih joined))
    | case5 high low rest pair ih =>
      obtain ⟨x, spelled, done⟩ := exists_of_bind_eq_ok done
      obtain ⟨others, joined, done⟩ := exists_of_bind_eq_ok done
      obtain rfl := Except.ok.inj done
      obtain ⟨isHigh, isLow⟩ := (Bool.and_eq_true _ _).mp pair
      exact .pair isHigh isLow (single_eq_ok_iff.1 spelled) (ih joined)
    | case6 high low rest apart ih =>
      obtain ⟨x, spelled, done⟩ := exists_of_bind_eq_ok done
      obtain ⟨others, joined, done⟩ := exists_of_bind_eq_ok done
      obtain rfl := Except.ok.inj done
      refine .unit (single_eq_ok_iff.1 spelled) ?_ (ih joined)
      rintro l qs ⟨⟩
      simpa using apart
  · intro joined
    induction joined with
    | none => rw [Json.joined]
    | raw rest ih =>
      rw [Json.joined, ih]
      rfl
    | unit spells apart rest ih =>
      rw [joined_unit spells apart, ih]
      rfl
    | pair isHigh isLow spells rest ih =>
      simp only [isHighUnit, isLowUnit, Bool.and_eq_true, decide_eq_true_eq] at isHigh isLow
      rw [joined_pair isHigh isLow spells, ih]
      rfl

/-- A string is read up to its closing quote. -/
theorem string_eq_ok_iff {text : Text} :
    string true s = .ok (text, rest) ↔ ∃ t, s = t ++ .char '"' :: rest ∧ Quotes t text := by
  unfold string
  constructor
  · intro read
    split at read
    · exact absurd read (by simp)
    · next ps after done =>
      obtain ⟨text', joined, same⟩ := exists_of_map_eq_ok read
      obtain ⟨rfl, rfl⟩ := Prod.mk.inj same
      obtain ⟨t, rfl, pieced⟩ := pieces_eq_ok_iff.1 done
      exact ⟨t, rfl, ps, pieced, joined_eq_ok_iff.1 joined⟩
  · rintro ⟨t, rfl, ps, pieced, joined⟩
    rw [pieces_eq_ok_iff.2 ⟨t, rfl, pieced⟩]
    simp only [joined_eq_ok_iff.2 joined]
    rfl

/-! ### Digits -/

/-- A text does not go on with a digit. -/
def NoDigit (t : Text) : Prop := ∀ s, t.head? = some s → digit? s = none

theorem digits_of_noDigit (stops : NoDigit t) : digits t = ([], t) := by
  cases t with
  | nil => rfl
  | cons s rest =>
    rw [digits, stops s rfl]

theorem Digits.digits_append {ds : List Nat} (spelled : Digits t ds) (stops : NoDigit after) :
    digits (t ++ after) = (ds, after) := by
  induction t generalizing ds with
  | nil =>
    obtain rfl : ds = [] := List.map_eq_nil_iff.1 spelled.symm
    exact digits_of_noDigit stops
  | cons s t ih =>
    cases ds with
    | nil => exact absurd spelled (by simp [Digits])
    | cons d ds =>
      obtain ⟨first, others⟩ := List.cons.inj spelled
      rw [List.cons_append, digits, first]
      simp only [ih others]

/-- The digits that are read stand in front. -/
theorem exists_of_digits {ds : List Nat} (read : digits s = (ds, after)) :
    ∃ t, s = t ++ after ∧ Digits t ds := by
  fun_induction digits s generalizing ds with
  | case1 =>
    obtain ⟨rfl, rfl⟩ := Prod.mk.inj read
    exact ⟨[], rfl, rfl⟩
  | case2 s rest d digit ds' after' others ih =>
    obtain ⟨rfl, rfl⟩ := Prod.mk.inj read
    obtain ⟨t, rfl, spelled⟩ := ih others
    exact ⟨s :: t, rfl, by rw [Digits, List.map_cons, List.map_cons, digit, spelled]⟩
  | case3 s rest none =>
    obtain ⟨rfl, rfl⟩ := Prod.mk.inj read
    exact ⟨[], rfl, rfl⟩

/-! ### Numbers -/

/-- What may stand behind a value: nothing, a blank, a comma or a closing bracket. -/
def Trails (t : Text) : Prop :=
  ∀ s, t.head? = some s → s ∈ [.char ' ', .char '\t', .char '\n', .char '\r', .char ',', .char ']', .char '}']

theorem Trails.noDigit (trails : Trails t) : NoDigit t := by
  intro s first
  have none : ∀ x ∈ [Symbol.char ' ', .char '\t', .char '\n', .char '\r', .char ',', .char ']', .char '}'],
      digit? x = none := by decide
  exact none s (trails s first)

theorem Trails.fraction? (trails : Trails t) : fraction? t = none := by
  cases t with
  | nil => rfl
  | cons s rest =>
    have point : s ≠ .char '.' := by
      rintro rfl
      exact absurd (trails _ rfl) (by decide)
    rw [Json.fraction?]
    exact fun _ same => point (List.cons.inj same).1

theorem Trails.exponent? (trails : Trails t) : exponent? t = none := by
  cases t with
  | nil => rfl
  | cons s rest =>
    cases s with
    | surrogate offset => rfl
    | char c =>
      have letter : (c == 'e' || c == 'E') = false := by
        have member := trails _ rfl
        simp only [List.mem_cons, Symbol.char.injEq, List.not_mem_nil, or_false] at member
        rcases member with rfl | rfl | rfl | rfl | rfl | rfl | rfl <;> rfl
      unfold Json.exponent?
      simp only [letter, Bool.false_eq_true, if_false]

theorem Digits.noDigit_of_letter {c : Char} (letter : c = 'e' ∨ c = 'E') (t : Text) :
    NoDigit (.char c :: t) := by
  rintro s first
  obtain rfl := Option.some.inj first
  rcases letter with rfl | rfl <;> rfl

theorem Exponent.noDigit {u : Text} {e : Int} (exponent : Exponent u e) (after : Text) :
    NoDigit (u ++ after) := by
  cases exponent with
  | plain letter => exact Digits.noDigit_of_letter letter _
  | plus letter => exact Digits.noDigit_of_letter letter _
  | minus letter => exact Digits.noDigit_of_letter letter _

theorem Exponent.fraction? {u : Text} {e : Int} (exponent : Exponent u e) (after : Text) :
    Json.fraction? (u ++ after) = none := by
  cases exponent with
  | plain letter => rcases letter with rfl | rfl <;> rfl
  | plus letter => rcases letter with rfl | rfl <;> rfl
  | minus letter => rcases letter with rfl | rfl <;> rfl

/-- A fraction is read to its end. -/
theorem fraction?_append {f : Text} {ps : List Nat} (part : Digits f ps) (some : ps ≠ [])
    (stops : NoDigit after) : fraction? (.char '.' :: (f ++ after)) = .some (ps, after) := by
  rw [fraction?, part.digits_append stops]
  cases ps with
  | nil => exact absurd rfl some
  | cons d ds => rfl

theorem exists_of_fraction? {ps : List Nat} (read : fraction? s = some (ps, after)) :
    ∃ f, s = .char '.' :: (f ++ after) ∧ Digits f ps ∧ ps ≠ [] := by
  unfold fraction? at read
  split at read
  · next rest =>
    rcases done : digits rest with ⟨ds, after'⟩
    rw [done] at read
    cases ds with
    | nil => exact absurd read (by simp)
    | cons d ds =>
      obtain ⟨rfl, rfl⟩ := Prod.mk.inj (Option.some.inj read)
      obtain ⟨f, rfl, part⟩ := exists_of_digits done
      exact ⟨f, rfl, part, List.cons_ne_nil _ _⟩
  · exact absurd read (by simp)

/-- Digits that are no sign. -/
theorem Digits.ne_sign {s : Symbol} {t : Text} {ds : List Nat} (digits : Digits (s :: t) ds) :
    s ≠ .char '-' ∧ s ≠ .char '+' := by
  constructor
  all_goals
    rintro rfl
    cases ds with
    | nil => exact absurd digits (by simp [Digits])
    | cons d ds => exact absurd (List.cons.inj digits).1 (by simp [digit?])

/-- An exponent is read to its end. -/
theorem Exponent.exponent?_append {u : Text} {e : Int} (exponent : Exponent u e)
    (stops : NoDigit after) : Json.exponent? (u ++ after) = some (e, after) := by
  have isLetter {c : Char} (letter : c = 'e' ∨ c = 'E') : (c == 'e' || c == 'E') = true := by
    rcases letter with rfl | rfl <;> rfl
  cases exponent with
  | @plain c t ds letter digits some =>
    obtain ⟨d, ds, rfl⟩ := List.exists_cons_of_ne_nil some
    cases t with
    | nil => exact absurd digits (by simp [Digits])
    | cons s t =>
      obtain ⟨minus, plus⟩ := digits.ne_sign
      have read := digits.digits_append stops
      rw [List.cons_append] at read
      rw [List.cons_append, List.cons_append, Json.exponent?]
      · simp only [isLetter letter, if_true, read]
        rfl
      · exact fun _ same => minus (List.cons.inj same).1
      · exact fun _ same => plus (List.cons.inj same).1
  | @plus c t ds letter digits some =>
    obtain ⟨d, ds, rfl⟩ := List.exists_cons_of_ne_nil some
    unfold Json.exponent?
    simp only [List.cons_append, isLetter letter, if_true, digits.digits_append stops]
    rfl
  | @minus c t ds letter digits some =>
    obtain ⟨d, ds, rfl⟩ := List.exists_cons_of_ne_nil some
    unfold Json.exponent?
    simp only [List.cons_append, isLetter letter, if_true, digits.digits_append stops]

theorem exists_of_exponent? {e : Int} (read : exponent? s = some (e, after)) :
    ∃ u, s = u ++ after ∧ Exponent u e := by
  unfold exponent? at read
  split at read
  · next c rest =>
    split at read
    · next isLetter =>
      have letter : c = 'e' ∨ c = 'E' := by simpa using isLetter
      split at read
      next negative rest' sign =>
      rcases done : digits rest' with ⟨ds, after'⟩
      rw [done] at read
      cases ds with
      | nil => exact absurd read (by simp)
      | cons d ds =>
        obtain ⟨rfl, rfl⟩ := Prod.mk.inj (Option.some.inj read)
        obtain ⟨t, rfl, digits⟩ := exists_of_digits done
        have some : d :: ds ≠ [] := List.cons_ne_nil _ _
        split at sign
        · obtain ⟨rfl, rfl⟩ := Prod.mk.inj sign
          exact ⟨_, rfl, .minus letter digits some⟩
        · obtain ⟨rfl, rfl⟩ := Prod.mk.inj sign
          exact ⟨_, rfl, .plus letter digits some⟩
        · obtain ⟨rfl, rfl⟩ := Prod.mk.inj sign
          exact ⟨_, rfl, .plain letter digits some⟩
    · exact absurd read (by simp)
  · exact absurd read (by simp)

/-- A number behind its sign is what its digits and what follows them spell. -/
theorem number_of_digits {negative : Bool} {ds : List Nat} (read : digits s = (ds, after))
    (some : ds ≠ []) (zero : ds.head? = Option.some 0 → ds.length = 1) :
    number negative s = numberFrom negative ds after := by
  unfold number
  rw [read]
  match ds with
  | [] => exact absurd rfl some
  | [d] => rfl
  | 0 :: d :: ds => exact absurd (zero rfl) (by simp)
  | (n + 1) :: d :: ds => rfl

/-- A number is read to its end. -/
theorem Number.number_append {negative : Bool} {d : Datum} (spelled : Number negative t d)
    (trails : Trails after) : Json.number negative (t ++ after) = .ok (d, after) := by
  have read {u : Text} {ds : List Nat} {rest : Text} (whole : Whole u ds) (stops : NoDigit rest) :
      Json.number negative (u ++ rest) = numberFrom negative ds rest :=
    number_of_digits (whole.digits.digits_append stops) whole.some whole.zero
  have point (rest : Text) : NoDigit (.char '.' :: rest) := by
    rintro s first
    obtain rfl := Option.some.inj first
    rfl
  cases spelled with
  | @integer t ds whole short =>
    rw [read whole trails.noDigit, numberFrom, trails.fraction?, trails.exponent?]
    simp only [if_neg (Nat.not_lt.2 short)]
  | @fraction t f ds ps whole part some =>
    rw [List.append_assoc, List.cons_append, read whole (point _), numberFrom,
      fraction?_append part some trails.noDigit]
    simp only [trails.exponent?]
    rfl
  | @exponent t u ds e whole exponent =>
    rw [List.append_assoc, read whole (exponent.noDigit after), numberFrom, exponent.fraction? after,
      exponent.exponent?_append trails.noDigit]
  | @both t f u ds ps e whole part some exponent =>
    rw [List.append_assoc, List.append_assoc, List.cons_append, read whole (point _), numberFrom,
      fraction?_append part some (exponent.noDigit after)]
    simp only [exponent.exponent?_append trails.noDigit]
    rfl

/-- What is read as a number is spelled by a number. -/
theorem exists_of_numberFrom {negative : Bool} {ds : List Nat} {u : Text} {d : Datum}
    (whole : Whole u ds) (read : numberFrom negative ds s = .ok (d, rest)) :
    ∃ t, u ++ s = t ++ rest ∧ Number negative t d := by
  unfold numberFrom at read
  split at read
  · split at read
    · exact absurd read (by simp)
    · next short =>
      obtain ⟨rfl, rfl⟩ := Prod.mk.inj (Except.ok.inj read)
      exact ⟨u, rfl, .integer whole (Nat.not_lt.1 short)⟩
  · next ps after fraction =>
    obtain ⟨f, rfl, part, some⟩ := exists_of_fraction? fraction
    cases expo : exponent? after with
    | none =>
      rw [expo] at read
      obtain ⟨rfl, rfl⟩ := Prod.mk.inj (Except.ok.inj read)
      exact ⟨_, by simp, .fraction whole part some⟩
    | some found =>
      obtain ⟨e, after'⟩ := found
      rw [expo] at read
      obtain ⟨rfl, rfl⟩ := Prod.mk.inj (Except.ok.inj read)
      obtain ⟨v, rfl, exponent⟩ := exists_of_exponent? expo
      exact ⟨_, by simp, .both whole part some exponent⟩
  · next e after fraction expo =>
    obtain ⟨rfl, rfl⟩ := Prod.mk.inj (Except.ok.inj read)
    obtain ⟨v, rfl, exponent⟩ := exists_of_exponent? expo
    exact ⟨_, by simp, .exponent whole exponent⟩

theorem exists_of_number {negative : Bool} {d : Datum} (read : number negative s = .ok (d, rest)) :
    ∃ t, s = t ++ rest ∧ Number negative t d := by
  rcases done : digits s with ⟨ds, after⟩
  obtain ⟨t, rfl, digits⟩ := exists_of_digits done
  unfold number at read
  rw [done] at read
  split at read
  · exact absurd read (by simp)
  · next n after' same =>
    obtain ⟨rfl, rfl⟩ := Prod.mk.inj same
    exact exists_of_numberFrom ⟨digits, by simp, fun _ => rfl⟩ read
  · exact absurd read (by simp)
  · next none _ zero same =>
    obtain ⟨rfl, rfl⟩ := Prod.mk.inj same
    refine exists_of_numberFrom ⟨digits, none, fun first => ?_⟩ read
    obtain ⟨tail, same⟩ := List.head?_eq_some_iff.1 first
    exact (zero tail same).elim

end FormatHost.Json
