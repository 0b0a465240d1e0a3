import FormatHost.Proofs.Json.Reading
/-!
# Nested containers and the room for them

How deep the containers of a text stand inside each other, counted bracket by bracket. A reader with room
for that many reads the text like one whose nesting is free; one that reads less breaks off, and says so.
-/
namespace FormatHost.Json

variable {s t u rest : Text} {d : Datum} {n : Nat}

/-- How many containers are open at the deepest place of a text, where `n` are open in front of it. Within
quotes brackets do not count, nor does a symbol behind a backslash. -/
def deepest : Bool → Nat → Text → Nat
  | _, n, [] => n
  | true, n, .char '\\' :: _ :: t => deepest true n t
  | true, n, s :: t => deepest (s != .char '"') n t
  | false, n, s :: t =>
    if s = .char '[' ∨ s = .char '{' then deepest false (n + 1) t
    else if s = .char ']' ∨ s = .char '}' then max n (deepest false (n - 1) t)
    else deepest (s == .char '"') n t

/-- How deep the containers of a text stand inside each other. -/
def nesting (t : Text) : Nat := deepest false 0 t

example : nesting (Text.ofString "[\x7b\"a]\": []\x7d, 1]") = 3 := by decide

theorem le_deepest (quoted : Bool) (n : Nat) (t : Text) : n ≤ deepest quoted n t := by
  fun_induction deepest quoted n t with
  | case1 => exact Nat.le_refl _
  | case2 n s t ih => exact ih
  | case3 n s t other ih => exact ih
  | case4 n s t opens ih => omega
  | case5 n s t opens closes ih => omega
  | case6 n s t opens closes ih => exact ih

theorem deepest_le_add_length (quoted : Bool) (n : Nat) (t : Text) : deepest quoted n t ≤ n + t.length := by
  fun_induction deepest quoted n t with
  | case1 => exact Nat.le_refl _
  | case2 | case3 | case4 | case5 | case6 => simp only [List.length_cons] at *; omega

/-! ### Symbols that do not count -/

/-- The symbols that change how many containers are open, or whether brackets count. -/
def marks : Text := [.char '"', .char '[', .char '{', .char ']', .char '}']

/-- A text without such symbols. -/
def Unmarked (t : Text) : Prop := ∀ s ∈ t, s ∉ marks

theorem deepest_cons {s : Symbol} (unmarked : s ∉ marks) (n : Nat) (t : Text) :
    deepest false n (s :: t) = deepest false n t := by
  simp only [marks, List.mem_cons, List.not_mem_nil, or_false, not_or] at unmarked
  obtain ⟨quote, bracket, brace, bracket', brace'⟩ := unmarked
  rw [deepest, if_neg (by simp [bracket, brace]), if_neg (by simp [bracket', brace']),
    beq_eq_false_iff_ne.2 quote]

theorem Unmarked.deepest_append (unmarked : Unmarked t) (n : Nat) (rest : Text) :
    deepest false n (t ++ rest) = deepest false n rest := by
  induction t with
  | nil => rfl
  | cons s t ih =>
    rw [List.cons_append, deepest_cons (unmarked s List.mem_cons_self),
      ih fun x mem => unmarked x (List.mem_cons_of_mem _ mem)]

theorem Blanks.unmarked (blanks : Blanks t) : Unmarked t := by
  intro s mem mark
  have space := blanks s mem
  simp only [marks, List.mem_cons, List.not_mem_nil, or_false] at mark
  rcases mark with rfl | rfl | rfl | rfl | rfl <;> exact absurd space (by decide)

theorem deepest_skip (n : Nat) (s : Text) : deepest false n (skip s) = deepest false n s := by
  obtain ⟨a, blanks, front⟩ := exists_skip s
  rw [front, blanks.unmarked.deepest_append, ← front]

/-- The symbols of numbers. -/
def isNumeric (s : Symbol) : Bool :=
  (digit? s).isSome || [.char '.', .char 'e', .char 'E', .char '+', .char '-'].contains s

theorem Digits.isNumeric {ds : List Nat} (digits : Digits t ds) : t.all Json.isNumeric := by
  refine List.all_eq_true.2 fun s mem => ?_
  have value : digit? s ∈ ds.map some := digits ▸ List.mem_map_of_mem mem
  obtain ⟨n, -, known⟩ := List.mem_map.1 value
  simp [Json.isNumeric, ← known]

theorem Exponent.isNumeric {e : Int} (exponent : Exponent t e) : t.all Json.isNumeric := by
  cases exponent with
  | plain letter digits | plus letter digits | minus letter digits =>
    rcases letter with rfl | rfl <;> simp [digits.isNumeric] <;> decide

theorem Number.isNumeric {negative : Bool} (number : Number negative t d) : t.all Json.isNumeric := by
  have point : Json.isNumeric (.char '.') = true := by decide
  cases number with
  | integer whole => exact whole.digits.isNumeric
  | fraction whole part => simp [whole.digits.isNumeric, part.isNumeric, point]
  | exponent whole exponent => simp [whole.digits.isNumeric, exponent.isNumeric]
  | both whole part some exponent =>
    simp [whole.digits.isNumeric, part.isNumeric, exponent.isNumeric, point]

/-- What is no symbol of a number stands in none. -/
theorem Number.not_mem {negative : Bool} (number : Number negative t d) {s : Symbol}
    (other : Json.isNumeric s = false) : s ∉ sign negative ++ t := by
  intro mem
  have numeric : Json.isNumeric s = true := by
    rcases List.mem_append.1 mem with mem | mem
    · cases negative with
      | true => exact List.mem_singleton.1 mem ▸ rfl
      | false => exact absurd mem List.not_mem_nil
    · exact List.all_eq_true.1 number.isNumeric s mem
  rw [other] at numeric
  exact absurd numeric (by decide)

theorem Number.unmarked {negative : Bool} (number : Number negative t d) :
    Unmarked (sign negative ++ t) := by
  intro s mem mark
  refine number.not_mem ?_ mem
  simp only [marks, List.mem_cons, List.not_mem_nil, or_false] at mark
  rcases mark with rfl | rfl | rfl | rfl | rfl <;> decide

theorem unmarked_of_mem_words {w : String} (known : (w, d) ∈ words) : Unmarked (Text.ofString w) := by
  simp only [words, List.mem_cons, Prod.mk.injEq, List.not_mem_nil, or_false] at known
  unfold Unmarked
  rcases known with ⟨rfl, -⟩ | ⟨rfl, -⟩ | ⟨rfl, -⟩ | ⟨rfl, -⟩ | ⟨rfl, -⟩ | ⟨rfl, -⟩ <;> decide

/-! ### Quotes -/

/-- A symbol inside quotes that neither closes them nor is a backslash. -/
theorem deepest_quoted {s : Symbol} (quote : s ≠ .char '"') (slash : s ≠ .char '\\') (n : Nat) (t : Text) :
    deepest true n (s :: t) = deepest true n t := by
  rw [deepest]
  · rw [bne_iff_ne.2 quote]
  · rintro x u rfl
    exact absurd rfl slash

theorem hexValue?_ne {a : Symbol} {k : Nat} (known : hexValue? a = some k) :
    a ≠ .char '"' ∧ a ≠ .char '\\' := by
  have quote : hexValue? (.char '"') = none := by decide
  have slash : hexValue? (.char '\\') = none := by decide
  constructor <;> rintro rfl <;> simp_all only [reduceCtorEq]

/-- Brackets within quotes do not count. -/
theorem Pieced.deepest_append {ps : List Piece} (pieced : Pieced t ps) (n : Nat) (rest : Text) :
    deepest true n (t ++ .char '"' :: rest) = deepest false n rest := by
  induction pieced with
  | none => rfl
  | plain _ quote slash _ ih => rw [List.cons_append, deepest_quoted quote slash, ih]
  | short _ _ ih => exact ih
  | @unit a b c d _ t ps digits _ ih =>
    obtain ⟨_, first, digits⟩ := Option.bind_eq_some_iff.1 digits
    obtain ⟨_, second, digits⟩ := Option.bind_eq_some_iff.1 digits
    obtain ⟨_, third, digits⟩ := Option.bind_eq_some_iff.1 digits
    obtain ⟨_, fourth, -⟩ := Option.bind_eq_some_iff.1 digits
    have plain {x : Symbol} {k : Nat} (known : hexValue? x = some k) (u : Text) :
        deepest true n (x :: u) = deepest true n u :=
      deepest_quoted (hexValue?_ne known).1 (hexValue?_ne known).2 n u
    simp only [List.cons_append]
    rw [deepest, plain first, plain second, plain third, plain fourth, ih]

theorem Quotes.deepest_append {text : Text} (quotes : Quotes t text) (n : Nat) (rest : Text) :
    deepest false n (.char '"' :: (t ++ .char '"' :: rest)) = deepest false n rest := by
  obtain ⟨ps, pieced, -⟩ := quotes
  exact pieced.deepest_append n rest

/-! ### Parts close what they open -/

theorem deepest_bracket (n : Nat) (t : Text) :
    deepest false n (.char '[' :: t) = deepest false (n + 1) t := rfl

theorem deepest_brace (n : Nat) (t : Text) :
    deepest false n (.char '{' :: t) = deepest false (n + 1) t := rfl

theorem le_deepest_bracket (n : Nat) (t : Text) :
    deepest false n t ≤ deepest false (n + 1) (.char ']' :: t) := Nat.le_max_right _ _

theorem le_deepest_brace (n : Nat) (t : Text) :
    deepest false n t ≤ deepest false (n + 1) (.char '}' :: t) := Nat.le_max_right _ _

/-- Behind a part as many containers are open as in front of it. -/
theorem Derives.deepest_le {p : Part} (spelled : Derives p t) (n : Nat) (rest : Text) :
    deepest false n rest ≤ deepest false n (t ++ rest) := by
  induction spelled generalizing n rest with
  | word known => rw [(unmarked_of_mem_words known).deepest_append]
  | number number => rw [number.unmarked.deepest_append]
  | string quotes =>
    have same := quotes.deepest_append n rest
    simpa using same.ge
  | list array ih => exact ih n rest
  | map object ih => exact ih n rest
  | lastItem before value behind ih =>
    rw [List.append_assoc, List.append_assoc, before.unmarked.deepest_append]
    exact behind.unmarked.deepest_append n rest ▸ ih n _
  | nextItem before value behind others ih ihs =>
    simp only [List.append_assoc, before.unmarked.deepest_append]
    refine le_trans ?_ (ih n _)
    rw [behind.unmarked.deepest_append, List.cons_append, deepest_cons (by decide)]
    exact ihs n rest
  | noItems blanks =>
    rw [List.cons_append, deepest_bracket, List.append_assoc, blanks.unmarked.deepest_append]
    exact le_deepest_bracket n rest
  | brackets items ih =>
    rw [List.cons_append, deepest_bracket, List.append_assoc]
    exact (le_deepest_bracket n rest).trans (ih (n + 1) _)
  | lastMember before quotes left right value behind ih =>
    simp only [List.append_assoc, List.cons_append, before.unmarked.deepest_append,
      quotes.deepest_append, left.unmarked.deepest_append]
    rw [deepest_cons (by decide), right.unmarked.deepest_append]
    exact behind.unmarked.deepest_append n rest ▸ ih n _
  | nextMember before quotes left right value behind others ih ihs =>
    simp only [List.append_assoc, List.cons_append, before.unmarked.deepest_append,
      quotes.deepest_append, left.unmarked.deepest_append]
    rw [deepest_cons (by decide), right.unmarked.deepest_append]
    refine le_trans ?_ (ih n _)
    rw [behind.unmarked.deepest_append, deepest_cons (by decide)]
    exact ihs n rest
  | noMembers blanks =>
    rw [List.cons_append, deepest_brace, List.append_assoc, blanks.unmarked.deepest_append]
    exact le_deepest_brace n rest
  | braces members ih =>
    rw [List.cons_append, deepest_brace, List.append_assoc]
    exact (le_deepest_brace n rest).trans (ih (n + 1) _)

/-! ### Less room -/

/-- A result other than that there was no room for a container. -/
def Shallow {α : Type} (result : Except Failure α) : Prop := ∀ c, result ≠ .error (.tooDeep c)

/-- A result beside the one with more room: it is the same, unless there was no room for a container; and
then the text is as deep as told. -/
def Agrees {α : Type} (deep : Prop) (here there : Except Failure α) : Prop :=
  deep ∧ ¬Shallow here ∨ Shallow here ∧ there = here

section

variable {α β : Type} {deep deep' : Prop} {here there : Except Failure α}

theorem shallow_ok (a : α) : Shallow (.ok a) := fun _ => by simp

theorem shallow_malformed : Shallow (α := α) (.error .malformed) := fun _ => by simp

theorem Shallow.bind {f : α → Except Failure β} (shallow : Shallow here)
    (next : ∀ a, here = .ok a → Shallow (f a)) : Shallow (here >>= f) := by
  cases here with
  | ok a => exact next a rfl
  | error e => exact fun c same => shallow c (by rw [Except.error.inj same])

theorem Shallow.map (f : α → β) (shallow : Shallow here) : Shallow (here.map f) :=
  shallow.bind fun a _ => shallow_ok (f a)

theorem Agrees.imp (agrees : Agrees deep here there) (further : deep → deep') :
    Agrees deep' here there := by
  rcases agrees with ⟨far, broken⟩ | same
  · exact .inl ⟨further far, broken⟩
  · exact .inr same

theorem Shallow.agrees (shallow : Shallow here) : Agrees deep here here := .inr ⟨shallow, rfl⟩

theorem Agrees.bind {f g : α → Except Failure β} (agrees : Agrees deep here there)
    (next : ∀ a, here = .ok a → Agrees deep (f a) (g a)) : Agrees deep (here >>= f) (there >>= g) := by
  rcases agrees with ⟨far, broken⟩ | ⟨shallow, rfl⟩
  · refine .inl ⟨far, fun shallow => broken fun c same => shallow c ?_⟩
    rw [same]
    rfl
  · cases there with
    | ok a => exact next a rfl
    | error e => exact .inr ⟨shallow.bind fun a same => absurd same (by simp), rfl⟩

theorem Agrees.map (f : α → β) (agrees : Agrees deep here there) :
    Agrees deep (here.map f) (there.map f) :=
  agrees.bind fun a _ => (shallow_ok (f a)).agrees

end

/-! ### Strings, words and numbers hold no containers -/

theorem shallow_pieces (s : Text) : Shallow (pieces s) := by
  intro c
  fun_induction pieces s <;> simp_all

theorem shallow_single (n : Nat) : Shallow (single true n) := by
  unfold single
  split
  · exact shallow_ok _
  · exact shallow_ok _
  · exact shallow_malformed

theorem shallow_joined (ps : List Piece) : Shallow (joined true ps) := by
  fun_induction joined true ps with
  | case1 => exact shallow_ok _
  | case2 s rest ih => exact ih.map _
  | case3 n => exact (shallow_single n).map _
  | case4 n s rest ih => exact (shallow_single n).bind fun _ _ => ih.bind fun _ _ => shallow_ok _
  | case5 high low rest pair ih => exact (shallow_single _).bind fun _ _ => ih.bind fun _ _ => shallow_ok _
  | case6 high low rest apart ih => exact (shallow_single _).bind fun _ _ => ih.bind fun _ _ => shallow_ok _

theorem shallow_string (s : Text) : Shallow (string true s) := by
  unfold string
  split
  · next e failed => exact fun c same => shallow_pieces s c (failed.trans (by rw [Except.error.inj same]))
  · exact (shallow_joined _).map _

theorem shallow_numberFrom (negative : Bool) (whole : List Nat) (rest : Text) :
    Shallow (numberFrom negative whole rest) := by
  unfold numberFrom
  split
  · split
    · exact fun c => by simp
    · exact shallow_ok _
  · exact shallow_ok _
  · exact shallow_ok _

theorem shallow_number (negative : Bool) (s : Text) : Shallow (number negative s) := by
  unfold number
  split
  · exact shallow_malformed
  · exact shallow_numberFrom _ _ _
  · exact shallow_malformed
  · exact shallow_numberFrom _ _ _

theorem shallow_atom (s : Text) : Shallow (atom s) := by
  unfold atom
  split
  · exact shallow_ok _
  · split <;> exact shallow_number _ _

/-! ### Containers -/

/-- What is read with some fuel is the same with more room, unless the text is deeper than the room. -/
structure Roomy (fuel : Nat) : Prop where
  value : ∀ {depth depth' : Nat} (s : Text), depth ≤ depth' →
    Agrees (∀ n, n + depth < deepest false n s) (Json.value true fuel depth s)
      (Json.value true fuel depth' s)
  items : ∀ {depth depth' : Nat} (s : Text), depth ≤ depth' →
    Agrees (∀ n, n + depth < deepest false n s) (Json.items true fuel depth s)
      (Json.items true fuel depth' s)
  members : ∀ {depth depth' : Nat} (s : Text), depth ≤ depth' →
    Agrees (∀ n, n + depth < deepest false n s) (Json.members true fuel depth s)
      (Json.members true fuel depth' s)

section

variable {fuel depth depth' : Nat} (roomy : Roomy fuel) (less : depth ≤ depth')
include roomy less

theorem Roomy.value_next (s : Text) :
    Agrees (∀ n, n + depth < deepest false n s) (Json.value true (fuel + 1) depth s)
      (Json.value true (fuel + 1) depth' s) := by
  unfold Json.value
  split
  · exact ((shallow_string _).map _).agrees
  · next inner =>
    cases depth with
    | zero => exact .inl ⟨fun n => le_deepest false (n + 1) inner, fun shallow => shallow .array rfl⟩
    | succ depth =>
      obtain ⟨depth', rfl⟩ : ∃ k, depth' = k + 1 := ⟨depth' - 1, by omega⟩
      dsimp only
      split
      · exact (shallow_ok _).agrees
      · refine ((roomy.items (skip inner) (Nat.le_of_succ_le_succ less)).map _).imp fun far n => ?_
        rw [deepest_bracket, ← deepest_skip]
        have := far (n + 1)
        omega
  · next inner =>
    cases depth with
    | zero => exact .inl ⟨fun n => le_deepest false (n + 1) inner, fun shallow => shallow .object rfl⟩
    | succ depth =>
      obtain ⟨depth', rfl⟩ : ∃ k, depth' = k + 1 := ⟨depth' - 1, by omega⟩
      dsimp only
      split
      · exact (shallow_ok _).agrees
      · refine ((roomy.members (skip inner) (Nat.le_of_succ_le_succ less)).map _).imp fun far n => ?_
        rw [deepest_brace, ← deepest_skip]
        have := far (n + 1)
        omega
  · exact (shallow_atom _).agrees

theorem Roomy.items_next (s : Text) :
    Agrees (∀ n, n + depth < deepest false n s) (Json.items true (fuel + 1) depth s)
      (Json.items true (fuel + 1) depth' s) := by
  unfold Json.items
  refine (roomy.value s less).bind fun found read => ?_
  obtain ⟨d, after⟩ := found
  obtain ⟨t, rfl, spelled⟩ := (faithful fuel).value read
  dsimp only
  split
  · exact (shallow_ok _).agrees
  · next inner comma =>
    refine ((roomy.items (skip inner) less).bind fun _ _ => (shallow_ok _).agrees).imp fun far n => ?_
    refine (far n).trans_le (le_trans ?_ (spelled.deepest_le n after))
    rw [← deepest_skip n after, comma, deepest_cons (by decide), deepest_skip]
  · exact shallow_malformed.agrees

theorem Roomy.members_next (s : Text) :
    Agrees (∀ n, n + depth < deepest false n s) (Json.members true (fuel + 1) depth s)
      (Json.members true (fuel + 1) depth' s) := by
  unfold Json.members
  split
  · next inside =>
    refine (shallow_string inside).agrees.bind fun key quoted => ?_
    obtain ⟨key, behindKey⟩ := key
    obtain ⟨k, rfl, quotes⟩ := string_eq_ok_iff.1 quoted
    dsimp only
    split
    · next behindColon colon =>
      -- in front of the value as many containers are open as in front of its key
      have outside (n : Nat) : deepest false n (.char '"' :: (k ++ .char '"' :: behindKey)) =
          deepest false n (skip behindColon) := by
        rw [quotes.deepest_append, ← deepest_skip n behindKey, colon, deepest_cons (by decide),
          deepest_skip]
      simp only [outside]
      refine (roomy.value (skip behindColon) less).bind fun found read => ?_
      obtain ⟨d, after⟩ := found
      obtain ⟨t, taken, spelled⟩ := (faithful fuel).value read
      dsimp only
      split
      · exact (shallow_ok _).agrees
      · next inner comma =>
        refine ((roomy.members (skip inner) less).bind fun _ _ =>
          (shallow_ok _).agrees).imp fun far n => ?_
        rw [taken]
        refine (far n).trans_le (le_trans ?_ (spelled.deepest_le n after))
        rw [← deepest_skip n after, comma, deepest_cons (by decide), deepest_skip]
      · exact shallow_malformed.agrees
    · exact shallow_malformed.agrees
  · exact shallow_malformed.agrees

end

theorem roomy (fuel : Nat) : Roomy fuel := by
  induction fuel with
  | zero =>
    refine ⟨fun s _ => ?_, fun s _ => ?_, fun s _ => ?_⟩
    · rw [value]
      exact shallow_malformed.agrees
    · rw [items]
      exact shallow_malformed.agrees
    · rw [members]
      exact shallow_malformed.agrees
  | succ fuel ih =>
    exact ⟨fun s less => ih.value_next less s, fun s less => ih.items_next less s,
      fun s less => ih.members_next less s⟩

/-! ### Whole texts -/

/-- Reads a whole text with room for so many containers inside each other. -/
def parseWithin (depth : Nat) (s : Text) : Except Failure Datum := do
  let (d, rest) ← value true (2 * s.length + 2) depth (skip s)
  match skip rest with
  | [] => return d
  | _ :: _ => .error .malformed

theorem agrees_parseWithin {depth depth' : Nat} (less : depth ≤ depth') (s : Text) :
    Agrees (depth < nesting s) (parseWithin depth s) (parseWithin depth' s) := by
  refine (((roomy _).value (skip s) less).imp fun far => ?_).bind fun found _ => ?_
  · have := far 0
    rwa [deepest_skip, Nat.zero_add] at this
  · dsimp only
    split
    · exact (shallow_ok _).agrees
    · exact shallow_malformed.agrees

theorem Agrees.eq_of_shallow {α : Type} {deep : Prop} {here there : Except Failure α}
    (agrees : Agrees deep here there) (shallow : Shallow here) : there = here :=
  agrees.elim (fun broken => absurd shallow broken.2) And.right

theorem Agrees.eq_of_not {α : Type} {deep : Prop} {here there : Except Failure α}
    (agrees : Agrees deep here there) (within : ¬deep) : Shallow here ∧ there = here :=
  agrees.resolve_left fun far => within far.1

/-- With no less room than the text is long, no text is too deep. -/
theorem parse_lenient (s : Text) {depth : Nat} (enough : s.length ≤ depth) :
    Shallow (parse .lenient s) ∧ parseWithin depth s = parse .lenient s :=
  (agrees_parseWithin enough s).eq_of_not (by
    have := deepest_le_add_length false 0 s
    unfold nesting
    omega)

/-- A text that is not too deep for the room is read like one whose nesting is free. -/
theorem parse_roomy_of_shallow {room : Nat} {s : Text} (shallow : Shallow (parse (.roomy room) s)) :
    parse (.roomy room) s = parse .lenient s :=
  ((agrees_parseWithin (Nat.le_max_left (room + 1) s.length) s).eq_of_shallow shallow).symm.trans
    (parse_lenient s (Nat.le_max_right _ _)).2

/-- There is room for what is nested no deeper than the room tells. -/
theorem parse_roomy_of_nesting {room : Nat} {s : Text} (within : nesting s ≤ room + 1) :
    parse (.roomy room) s = parse .lenient s :=
  parse_roomy_of_shallow ((agrees_parseWithin (Nat.le_refl (room + 1)) s).eq_of_not (by omega)).1

/-- One bracket more than there is room for, whatever stands behind them. -/
theorem value_brackets (fuel depth : Nat) (t : Text) :
    value true (2 * depth + fuel + 1) depth (List.replicate (depth + 1) (.char '[') ++ t) =
      .error (.tooDeep .array) := by
  induction depth generalizing fuel with
  | zero => rfl
  | succ depth ih =>
    have shape : 2 * (depth + 1) + fuel + 1 = 2 * depth + fuel + 1 + 1 + 1 := by omega
    have inner := ih fuel
    rw [List.replicate_succ, List.cons_append] at inner
    rw [shape, List.replicate_succ, List.replicate_succ, List.cons_append, List.cons_append, value]
    simp only [skip_char (c := '[') rfl]
    split
    · next same => exact absurd (Symbol.char.inj (List.cons.inj same).1) (by decide)
    · rw [items, inner]
      rfl

/-- For every room there are texts that are too deep. -/
theorem parse_brackets (room : Nat) (t : Text) :
    parse (.roomy room) (List.replicate (room + 2) (.char '[') ++ t) = .error (.tooDeep .array) := by
  have shape : 2 * (List.replicate (room + 2) (Symbol.char '[') ++ t).length + 2 =
      2 * (room + 1) + (2 * t.length + 3) + 1 := by
    rw [List.length_append, List.length_replicate]
    omega
  have front : skip (List.replicate (room + 2) (.char '[') ++ t) =
      List.replicate (room + 2) (.char '[') ++ t := by
    rw [List.replicate_succ, List.cons_append, skip_char rfl]
  unfold parse
  rw [front, shape]
  simp only [Dialect.roomy, Option.getD_some, value_brackets]
  rfl

end FormatHost.Json
