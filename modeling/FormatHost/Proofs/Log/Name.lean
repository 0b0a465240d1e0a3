import FormatHost.Log.Daily
import FormatHost.Proofs.Calendar
/-!
# The names of log files

The name of the file of a day is the stem of the log, a hyphen, the written form of the day and an ending.
Names are read leniently: a line feed behind a name is overlooked, and so is the script of some of the
digits. So a day is read of the name of its file, and of a few names that are mistaken for it.
-/
namespace FormatHost.DailyLog

variable {stem name : String} {day : Day}

theorem without?_eq_some_iff {xs cs rest : List Char} :
    without? xs cs = some rest ↔ cs = xs ++ rest := by
  fun_induction without? xs cs with
  | case1 cs => simp [eq_comm]
  | case2 x xs cs ih => simpa using ih
  | case3 x xs c cs apart => simp [Ne.symm apart]
  | case4 x xs => simp

/-- The name of the file of a day. -/
def fileName (stem : String) (day : Day) : String := stem ++ "-" ++ String.ofList day.written ++ ".log"

/-- A name that is taken for that of a day's file, and is none: there is a line feed behind it, or some
of its digits are of another script. -/
def Mistaken (stem : String) (day : Day) (name : String) : Prop :=
  name ≠ fileName stem day ∧ ∃ cs tail, day.SpelledBy cs ∧ (tail = ".log" ∨ tail = ".log\n") ∧
    name = stem ++ "-" ++ String.ofList cs ++ tail

theorem isTail_iff {cs : List Char} : isTail cs = true ↔ cs = ".log".toList ∨ cs = ".log\n".toList := by
  simp [isTail]

/-- The names of which a day is read. -/
theorem dayOf?_eq_some_iff_spelled :
    dayOf? stem name = some day ↔ day.IsValid ∧ ∃ cs tail, day.SpelledBy cs ∧
      (tail = ".log" ∨ tail = ".log\n") ∧ name = stem ++ "-" ++ String.ofList cs ++ tail := by
  constructor
  · intro dated
    unfold dayOf? at dated
    obtain ⟨rest, found, dated⟩ := Option.bind_eq_some_iff.1 dated
    have whole := without?_eq_some_iff.1 found
    split at dated
    · next rest =>
      obtain ⟨tail, dated⟩ := Option.ite_none_right_eq_some.1 dated
      obtain ⟨valid, spelled⟩ := Day.parse?_eq_some_iff.1 dated
      refine ⟨valid, rest.take 10, String.ofList (rest.drop 10), spelled, ?_, ?_⟩
      · rcases isTail_iff.1 tail with tail | tail
        · exact .inl (by rw [tail, String.ofList_toList])
        · exact .inr (by rw [tail, String.ofList_toList])
      · apply String.toList_inj.1
        simp [whole]
    · simp at dated
  · rintro ⟨valid, cs, tail, spelled, ends, rfl⟩
    have length := spelled.length
    have found : without? stem.toList (stem ++ "-" ++ String.ofList cs ++ tail).toList =
        some ('-' :: (cs ++ tail.toList)) := without?_eq_some_iff.2 (by simp)
    have tail' : isTail tail.toList = true :=
      isTail_iff.2 (ends.imp (congrArg String.toList) (congrArg String.toList))
    rw [dayOf?, found]
    change (if isTail ((cs ++ tail.toList).drop 10) then Day.parse? ((cs ++ tail.toList).take 10)
      else none) = some day
    rw [List.drop_left' length, List.take_left' length, if_pos tail']
    exact Day.parse?_eq_some_iff.2 ⟨valid, spelled⟩

/-- A day is read of the name of its file, and of names that are mistaken for it. -/
theorem dayOf?_eq_some_iff :
    dayOf? stem name = some day ↔ day.IsValid ∧ (name = fileName stem day ∨ Mistaken stem day name) := by
  rw [dayOf?_eq_some_iff_spelled]
  refine and_congr_right fun _ => ?_
  constructor
  · intro spelled
    by_cases own : name = fileName stem day
    · exact .inl own
    · exact .inr ⟨own, spelled⟩
  · rintro (rfl | ⟨-, spelled⟩)
    · exact ⟨day.written, ".log", day.spelledBy_written, .inl rfl, rfl⟩
    · exact spelled

end FormatHost.DailyLog
