import FormatHost.Config.Datum
import FormatHost.Fault
import FormatHost.Number.Numeral
/-!
# Numbers in configurations

A limit may be written as a number of another kind or as a numeral. What cannot be read that way is
refused: values of a wrong kind, numerals that are none, and numbers that do not fit.
-/
namespace FormatHost.Datum

/-- The characters of a numeral kept in bytes. -/
def latin (data : Bytes) : List Char := data.map fun b => Char.ofNat b.toNat

/-- Reads an integer; a fraction is cut off. -/
def toInt : Datum → Except Fault Int
  | bool b => .ok (if b then 1 else 0)
  | int n => .ok n
  | float x =>
    match x.truncate? with
    | some n => .ok n
    | none => .error (.unfit (if x.isNaN then .value else .overflow))
  | text t =>
    match t.chars?.bind Numeral.int? with
    | some n => .ok n
    | none => .error (.unfit .value)
  | binary data =>
    match Numeral.int? (latin data) with
    | some n => .ok n
    | none => .error (.unfit .value)
  | _ => .error (.unfit .type)

/-- Reads a number. -/
def toDouble : Datum → Except Fault Double
  | bool b => .ok (.ofInt (if b then 1 else 0))
  | int n =>
    let x := Double.ofInt n
    if x.isFinite then .ok x else .error (.unfit .overflow)
  | float x => .ok x
  | text t =>
    match t.chars?.bind Numeral.double? with
    | some x => .ok x
    | none => .error (.unfit .value)
  | binary data =>
    match Numeral.double? (latin data) with
    | some x => .ok x
    | none => .error (.unfit .value)
  | _ => .error (.unfit .type)

end FormatHost.Datum
