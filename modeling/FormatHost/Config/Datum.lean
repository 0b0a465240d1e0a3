import FormatHost.Calendar
import FormatHost.Number.Double
import FormatHost.Text.Bytes
import FormatHost.Text.Symbol
/-!
# Configuration data

The values that configuration files and configuration texts hold. A map keeps its entries in the
order in which the keys were first met.
-/
namespace FormatHost

/-- A day, or a time of a day in microseconds, with the minutes east of Greenwich if they are given. -/
inductive Moment where
  | date (day : Day)
  | time (day : Day) (microseconds : Nat) (offset : Option Int)
  deriving DecidableEq, Repr

namespace Moment

/-- The microseconds of a minute. -/
def minute : Int := 60000000

/-- A time on the clock of Greenwich, counted from the first day. -/
def instant (day : Day) (microseconds : Nat) (offset : Int) : Int :=
  day.ordinal * 1440 * minute + microseconds - offset * minute

/-- Two moments are the same. Times with known distances from Greenwich are compared there. -/
def same : Moment → Moment → Bool
  | date a, date b => a == b
  | time a m none, time b n none => a == b && m == n
  | time a m (some x), time b n (some y) => instant a m x == instant b n y
  | _, _ => false

end Moment

/-- A value of a configuration. -/
inductive Datum where
  | null
  | bool (b : Bool)
  | int (n : Int)
  | float (x : Double)
  | text (t : Text)
  | list (items : List Datum)
  | map (entries : List (Datum × Datum))
  /-- Bytes of a file. -/
  | binary (data : Bytes)
  /-- A day or a time. -/
  | moment (m : Moment)
  /-- Keys without values. -/
  | set (members : List Datum)
  /-- A pair inside an ordered list of pairs. -/
  | pair (key value : Datum)
  deriving Inhabited, Repr

namespace Datum

/-- The text of a string. -/
def string (s : String) : Datum := .text (Text.ofString s)

/-- The name of the kind of a value, as error texts use it. -/
def kind : Datum → String
  | null => "NoneType"
  | bool _ => "bool"
  | int _ => "int"
  | float _ => "float"
  | text _ => "str"
  | list _ => "list"
  | map _ => "dict"
  | binary _ => "bytes"
  | moment (.date ..) => "date"
  | moment (.time ..) => "datetime"
  | set _ => "set"
  | pair .. => "tuple"

/-- Empty and zero values count as absent. -/
def isBlank : Datum → Bool
  | null => true
  | bool b => !b
  | int n => n == 0
  | float x => x.isFinite && x.significand == 0
  | text t => t.isEmpty
  | list items => items.isEmpty
  | map entries => entries.isEmpty
  | binary data => data.isEmpty
  | moment _ => false
  | set members => members.isEmpty
  | pair .. => false

/-- The number that a key stands for, if it is one: `true` is one and `false` is zero. -/
def number? : Datum → Option (Int ⊕ Double)
  | bool b => some (.inl (if b then 1 else 0))
  | int n => some (.inl n)
  | float x => some (.inr x)
  | _ => none

/-- Two keys are the same key. Numbers are compared by value, whatever their kind; what is not a number
is one key. -/
def sameKey (a b : Datum) : Bool :=
  match a.number?, b.number? with
  | some (.inl m), some (.inl n) => m == n
  | some (.inl m), some (.inr y) => y.isInt m
  | some (.inr x), some (.inl n) => x.isInt n
  | some (.inr x), some (.inr y) => x.sameValue y || x.isNaN && y.isNaN
  | _, _ =>
    match a, b with
    | null, null => true
    | text s, text t => s == t
    | binary s, binary t => s == t
    | moment s, moment t => s.same t
    | _, _ => false

/-- Sets the value of a key: in place if the key is there, else at the end. -/
def insert (entries : List (Datum × Datum)) (key value : Datum) : List (Datum × Datum) :=
  match entries with
  | [] => [(key, value)]
  | (k, v) :: rest => if k.sameKey key then (k, value) :: rest else (k, v) :: insert rest key value

/-- The value of a key. -/
def find? (entries : List (Datum × Datum)) (key : Datum) : Option Datum :=
  (entries.find? fun e => e.1.sameKey key).map Prod.snd

/-- The value of a key that is a string. -/
def field? (entries : List (Datum × Datum)) (name : String) : Option Datum :=
  find? entries (string name)

/-- The value, or another one in place of a blank one. -/
def orElse (d fallback : Datum) : Datum := if d.isBlank then fallback else d

end Datum

end FormatHost
