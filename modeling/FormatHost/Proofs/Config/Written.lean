import FormatHost.Config.Text
/-!
# Which configuration maps can be written

A map of booleans, integers and texts has a written form unless one of its integers has too many
digits. Of other values those have none that are of a kind without one.
-/
namespace FormatHost

/-- The longest integer that is written has 4300 digits. -/
def Scalar.Writable : Scalar → Prop
  | .int n => (toString n.natAbs).length ≤ 4300
  | _ => True

namespace ConfigMap

/-- All values of a map can be written. -/
def Writable (m : ConfigMap) : Prop := ∀ e ∈ m, e.2.Writable

end ConfigMap

namespace Json

theorem printValue_scalar (v : Scalar) :
    (v.Writable ∧ ∃ cs, printValue v.toDatum = .ok cs) ∨
      (¬v.Writable ∧ printValue v.toDatum = .error .integerTooLong) := by
  cases v with
  | bool b => exact .inl ⟨trivial, _, by rw [Scalar.toDatum, printValue]⟩
  | text t => exact .inl ⟨trivial, _, by rw [Scalar.toDatum, printValue]⟩
  | int n =>
    rw [Scalar.toDatum, printValue, intText]
    by_cases long : 4300 < (toString n.natAbs).length
    · exact .inr ⟨Nat.not_le.2 long, if_pos long⟩
    · exact .inl ⟨Nat.not_lt.1 long, _, if_neg long⟩

theorem keyText_text (t : Text) : keyText (.text t) = .ok (quoted t) := rfl

theorem printEntries_singleton (k : Text) (v : Datum) :
    printEntries [(.text k, v)] = (printValue v).map fun cs => quoted k ++ ':' :: cs := by
  rw [printEntries, keyText_text]
  cases printValue v <;> rfl

theorem printEntries_cons (k : Text) (v : Datum) (e : Datum × Datum) (rest : List (Datum × Datum)) :
    printEntries ((.text k, v) :: e :: rest) = do
      let cs ← printValue v
      let others ← printEntries (e :: rest)
      return quoted k ++ ':' :: cs ++ ',' :: others := by
  rw [printEntries, keyText_text]
  · rfl
  · simp

/-- The entries of a map of scalars are written, or one of its integers is too long. -/
theorem printEntries_toEntries (m : ConfigMap) :
    (m.Writable ∧ ∃ cs, printEntries m.toEntries = .ok cs) ∨
      (¬m.Writable ∧ printEntries m.toEntries = .error .integerTooLong) := by
  induction m with
  | nil => exact .inl ⟨by simp [ConfigMap.Writable], [], by simp [ConfigMap.toEntries, printEntries]⟩
  | cons e rest ih =>
    obtain ⟨k, v⟩ := e
    have all : ConfigMap.Writable ((k, v) :: rest) ↔ v.Writable ∧ ConfigMap.Writable rest := by
      simp [ConfigMap.Writable]
    cases rest with
    | nil =>
      have entries : ConfigMap.toEntries [(k, v)] = [(.text k, v.toDatum)] := rfl
      rw [all, entries, printEntries_singleton]
      rcases printValue_scalar v with ⟨short, cs, written⟩ | ⟨long, failed⟩
      · exact .inl ⟨⟨short, by simp [ConfigMap.Writable]⟩, _, by rw [written]; rfl⟩
      · exact .inr ⟨fun both => long both.1, by rw [failed]; rfl⟩
    | cons e rest =>
      have entries : ConfigMap.toEntries ((k, v) :: e :: rest) =
        (.text k, v.toDatum) :: ConfigMap.toEntries (e :: rest) := rfl
      rw [all, entries]
      change (_ ∧ ∃ cs, printEntries (_ :: _ :: ConfigMap.toEntries rest) = _) ∨
        (_ ∧ printEntries (_ :: _ :: ConfigMap.toEntries rest) = _)
      rw [printEntries_cons]
      rcases printValue_scalar v with ⟨short, cs, written⟩ | ⟨long, failed⟩
      · rcases ih with ⟨shorts, others, writtens⟩ | ⟨longs, failed⟩
        · exact .inl ⟨⟨short, shorts⟩, quoted k ++ ':' :: cs ++ ',' :: others, by
            rw [written]; exact congrArg (Except.map _) writtens⟩
        · exact .inr ⟨fun both => longs both.2, by rw [written]; exact congrArg (Except.map _) failed⟩
      · exact .inr ⟨fun both => long both.1, by rw [failed]; rfl⟩

end Json

namespace ConfigMap

theorem orElse_toDatum (m : ConfigMap) : m.toDatum.orElse (.map []) = m.toDatum := by
  cases m with
  | nil => rfl
  | cons e rest => rfl

theorem isBlank_toDatum (m : ConfigMap) : m.toDatum.isBlank = m.isEmpty := by
  cases m <;> rfl

/-- A map of scalars has a written form, or one of its integers is too long for it. -/
theorem serialize_toDatum (m : ConfigMap) :
    (m.Writable ∧ ∃ data, serialize m.toDatum = .ok data) ∨
      (¬m.Writable ∧ serialize m.toDatum = .error .integerTooLong) := by
  have whole : serialize m.toDatum = (Json.printEntries m.toEntries).map fun body =>
      Utf8.encodeChars ('{' :: body ++ ['}']) := by
    rw [serialize, Json.configText, orElse_toDatum, toDatum, Json.printValue]
    cases Json.printEntries m.toEntries <;> rfl
  rw [whole]
  rcases Json.printEntries_toEntries m with ⟨short, body, written⟩ | ⟨long, failed⟩
  · exact .inl ⟨short, _, by rw [written]; rfl⟩
  · exact .inr ⟨long, by rw [failed]; rfl⟩

theorem writable_of_serialize {m : ConfigMap} {data : Bytes} (written : serialize m.toDatum = .ok data) :
    m.Writable := by
  rcases serialize_toDatum m with ⟨writable, -⟩ | ⟨-, failed⟩
  · exact writable
  · exact absurd (written.symm.trans failed) (by simp)

/-- What is written is a text. -/
theorem exists_text_of_serialize {config : Datum} {data : Bytes}
    (written : serialize config = .ok data) : ∃ text, data = Utf8.encode text := by
  rw [serialize] at written
  cases printed : Json.configText config with
  | error f => simp [printed, Except.map] at written
  | ok chars =>
    simp only [printed, Except.map, Except.ok.injEq] at written
    exact ⟨String.ofList chars, by rw [Utf8.encode, String.toList_ofList, written]⟩

end ConfigMap

/-! ### Values without a written form -/

namespace Json

/-- If this fails, then because a value is of a kind that has no written form, or an integer is too long. -/
def Unwritten {α : Type} (c : Except Fault α) : Prop :=
  ∀ f, c = .error f → f.kind = .type ∨ f.kind = .value

namespace Unwritten

variable {α β : Type}

theorem ok (a : α) : Unwritten (.ok a) := fun _ failed => by cases failed

theorem error {f : Fault} (kind : f.kind = .type ∨ f.kind = .value) :
    Unwritten (.error f : Except Fault α) := fun _ failed => Except.error.inj failed ▸ kind

theorem bind {c : Except Fault α} {k : α → Except Fault β} (first : Unwritten c)
    (next : ∀ a, Unwritten (k a)) : Unwritten (c >>= k) := by
  cases c with
  | error f => exact .error (first f rfl)
  | ok a => exact next a

theorem map {c : Except Fault α} (first : Unwritten c) (g : α → β) : Unwritten (c.map g) := by
  cases c with
  | error f => exact .error (first f rfl)
  | ok a => exact .ok (g a)

end Unwritten

theorem unwritten_intText (n : Int) : Unwritten (intText n) := by
  unfold intText
  split
  · exact .error (.inr rfl)
  · exact .ok _

theorem unwritten_keyText (key : Datum) : Unwritten (keyText key) := by
  unfold keyText
  split
  case h_4 n => exact (unwritten_intText n).map _
  case h_6 => exact .error (.inl rfl)
  all_goals exact .ok _

mutual

theorem unwritten_printValue (d : Datum) : Unwritten (printValue d) := by
  cases d with
  | null | bool | float | text => rw [printValue]; exact .ok _
  | int n => rw [printValue]; exact unwritten_intText n
  | list items => rw [printValue]; exact (unwritten_printItems items).bind fun _ => .ok _
  | map entries => rw [printValue]; exact (unwritten_printEntries entries).bind fun _ => .ok _
  | pair key value =>
    rw [printValue]
    exact (unwritten_printValue key).bind fun _ => (unwritten_printValue value).bind fun _ => .ok _
  | binary | moment | set => rw [printValue]; exact .error (.inl rfl)

theorem unwritten_printItems (items : List Datum) : Unwritten (printItems items) := by
  match items with
  | [] => rw [printItems]; exact .ok _
  | [d] => rw [printItems]; exact unwritten_printValue d
  | d :: e :: rest =>
    rw [printItems]
    · exact (unwritten_printValue d).bind fun _ => (unwritten_printItems (e :: rest)).bind fun _ => .ok _
    · simp

theorem unwritten_printEntries (entries : List (Datum × Datum)) : Unwritten (printEntries entries) := by
  match entries with
  | [] => rw [printEntries]; exact .ok _
  | [(key, value)] =>
    rw [printEntries]
    exact (unwritten_keyText key).bind fun _ => (unwritten_printValue value).bind fun _ => .ok _
  | (key, value) :: e :: rest =>
    rw [printEntries]
    · exact (unwritten_keyText key).bind fun _ => (unwritten_printValue value).bind fun _ =>
        (unwritten_printEntries (e :: rest)).bind fun _ => .ok _
    · simp

end

end Json

/-- A configuration that cannot be handed over has a part without a written form. -/
theorem ConfigMap.unwritten_serialize (config : Datum) : Json.Unwritten (ConfigMap.serialize config) :=
  (Json.unwritten_printValue _).map _

end FormatHost
