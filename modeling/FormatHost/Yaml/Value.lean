import FormatHost.Yaml.Node
import FormatHost.Yaml.Token.Stream
import FormatHost.Yaml.Value.Scalar
/-!
# Values of documents

The value that a tree of nodes stands for. Containers are filled after the containers around them,
level by level; so of several faults the one on the outermost level counts, and on one level the
first.
-/
namespace FormatHost.Yaml

/-- A value and the faults in it, each with its level. After a fault the value means nothing. -/
structure Built where
  value : Datum
  faults : List (Nat × Fault)

namespace Built

/-- A value without faults. -/
def pure (d : Datum) : Built := ⟨d, []⟩

/-- No value. -/
def fault (level : Nat) (f : Fault) : Built := ⟨.null, [(level, f)]⟩

/-- The result of reading a text. -/
def ofExcept (level : Nat) : Except Fault Datum → Built
  | .ok d => pure d
  | .error f => fault level f

end Built

/-- An entry of a mapping and the faults in it. -/
structure BuiltEntry where
  key : Datum
  value : Datum
  faults : List (Nat × Fault)

/-- The entries of a mapping: those that are merged into it, its own, and the faults of merging. -/
structure BuiltEntries where
  merged : List BuiltEntry
  own : List BuiltEntry
  faults : List (Nat × Fault)

namespace BuiltEntries

/-- No entries. -/
def empty : BuiltEntries := ⟨[], [], []⟩

/-- The merged entries, and its own behind them. -/
def all (b : BuiltEntries) : List BuiltEntry := b.merged ++ b.own

/-- Adds an own entry in front. -/
def consOwn (e : BuiltEntry) (b : BuiltEntries) : BuiltEntries := { b with own := e :: b.own }

/-- Adds merged entries in front. -/
def merge (m b : BuiltEntries) : BuiltEntries :=
  { b with merged := m.all ++ b.merged, faults := m.faults ++ b.faults }

/-- A fault of merging in front. -/
def addFault (level : Nat) (f : Fault) (b : BuiltEntries) : BuiltEntries :=
  { b with faults := (level, f) :: b.faults }

/-- The faults of all entries behind those of merging. -/
def allFaults (b : BuiltEntries) : List (Nat × Fault) := b.faults ++ b.all.flatMap (·.faults)

/-- The map of the entries: of one key the last value counts, at the place of the first. -/
def toMap (b : BuiltEntries) : List (Datum × Datum) :=
  b.all.foldl (fun entries e => Datum.insert entries e.key e.value) []

end BuiltEntries

namespace Node

/-- The tag of a node; an alias inside its node stands for a container. -/
def tag : Node → Tag
  | scalar tag _ => tag
  | sequence tag _ => tag
  | mapping tag _ => tag
  | loop _ => .list

mutual

/-- The text that a node stands for. A mapping may have an entry that stands in for it. -/
def text? : Node → Option Text
  | scalar _ t => some t
  | mapping _ entries => standIn? entries
  | _ => none

/-- The text of the first entry that stands in for its mapping. -/
def standIn? : List (Node × Node) → Option Text
  | [] => none
  | (k, v) :: rest => if k.tag = .standIn then text? v else standIn? rest

end

/-- The fault of a key that is a container, if it is one. -/
def keyFaults (level : Nat) (k : Node) : List (Nat × Fault) :=
  if k.tag.isContainer then [(level, .containerKey)] else []

mutual

/-- The value of a node that is met on a level. -/
def build (level : Nat) : Node → Built
  | loop _ => .pure .null
  | scalar tag t =>
    if tag.isContainer then .fault (level + 1) .wrongShape
    else .ofExcept level (scalarDatum tag t)
  | sequence tag items =>
    match tag with
    | .list =>
      let (ds, faults) := buildItems (level + 1) items
      ⟨.list ds, faults⟩
    | .orderedMap | .pairs =>
      let (ds, faults) := buildPairs (level + 1) items
      ⟨.list ds, faults⟩
    | .map | .set => .fault (level + 1) .wrongShape
    | .merge | .standIn | .other _ => .fault level .unknownTag
    | _ => .fault level .wrongShape
  | mapping tag entries =>
    match tag with
    | .map =>
      let b := buildEntries (level + 1) entries
      ⟨.map b.toMap, b.allFaults⟩
    | .set =>
      let b := buildEntries (level + 1) entries
      ⟨.set (b.toMap.map Prod.fst), b.allFaults⟩
    | .list | .orderedMap | .pairs => .fault (level + 1) .wrongShape
    | .merge | .standIn | .other _ => .fault level .unknownTag
    | tag =>
      match standIn? entries with
      | some t =>
        if tag = .moment then .fault level .momentOfMapping
        else .ofExcept level (scalarDatum tag t)
      | none => .fault level .wrongShape

/-- The values of the items of a sequence. -/
def buildItems (level : Nat) : List Node → List Datum × List (Nat × Fault)
  | [] => ([], [])
  | n :: rest =>
    let b := build level n
    let (ds, faults) := buildItems level rest
    (b.value :: ds, b.faults ++ faults)

/-- The pairs of a sequence of mappings of one entry each. -/
def buildPairs (level : Nat) : List Node → List Datum × List (Nat × Fault)
  | [] => ([], [])
  | mapping _ [(k, v)] :: rest =>
    let key := build level k
    let value := build level v
    let (ds, faults) := buildPairs level rest
    (.pair key.value value.value :: ds, key.faults ++ value.faults ++ faults)
  | _ :: _ => ([], [(level, .wrongShape)])

/-- The entries of a mapping. -/
def buildEntries (level : Nat) : List (Node × Node) → BuiltEntries
  | [] => .empty
  | (k, v) :: rest =>
    match k.tag with
    | .merge =>
      let b := buildEntries level rest
      match v with
      | mapping _ entries => (buildEntries level entries).merge b
      | sequence _ items =>
        let m := buildMerged level items
        { b with merged := m.merged ++ b.merged, faults := m.faults ++ b.faults }
      | loop true => b
      | _ => b.addFault level .badMerge
    | .standIn =>
      let key := match text? k with
        | some t => Built.pure (.text t)
        | none => .fault level .wrongShape
      let value := build level v
      (buildEntries level rest).consOwn ⟨key.value, value.value, key.faults ++ value.faults⟩
    | _ =>
      let key := build level k
      let value := build level v
      (buildEntries level rest).consOwn
        ⟨key.value, value.value, key.faults ++ keyFaults level k ++ value.faults⟩

/-- The entries of a list of mappings that are merged; earlier mappings count more, so they come
last. -/
def buildMerged (level : Nat) : List Node → BuiltEntries
  | [] => .empty
  | n :: rest =>
    let b := buildMerged level rest
    match n with
    | mapping _ entries =>
      let m := buildEntries level entries
      { b with merged := b.merged ++ m.all, faults := m.faults ++ b.faults }
    | loop true => b
    | _ => b.addFault level .badMerge

end

end Node

/-- The fault on the outermost level, and the first one there. -/
def outermost? : List (Nat × Fault) → Option (Nat × Fault)
  | [] => none
  | f :: rest =>
    match outermost? rest with
    | some g => if g.1 < f.1 then some g else some f
    | none => some f

/-- The value of a document, or the fault that counts. -/
def Node.toDatum (n : Node) : Except Fault Datum :=
  let b := n.build 0
  match outermost? b.faults with
  | some (_, f) => .error f
  | none => .ok b.value

/-- Reads a YAML text. A text without a document has the value null. -/
def load (cs : List Char) : Except Fault Datum := do
  match cs.find? fun c => !isPrintable c with
  | some c => throw (.unprintable c)
  | none =>
    match ← Node.ofTokens (tokens cs) with
    | some n => n.toDatum
    | none => return .null

end FormatHost.Yaml
