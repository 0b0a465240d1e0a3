import FormatHost.Files.TextFile
import FormatHost.Pool.Discovery
import FormatHost.Proofs.Text.Lines
import FormatHost.Proofs.Text.Utf8
/-!
# What changes in a file tree

To write or remove a file changes a tree at one place. A path leads to the same place as before as long as
no directory goes away; so what two trees have at a path, and which plugins they have in a directory, is
the same if they have the same directories and differ at other places only.
-/
namespace FormatHost

/-! ### Computations that succeed -/

section

variable {α β δ : Type}

theorem exists_of_bind_eq_ok {x : Except δ α} {f : α → Except δ β} {b : β} (done : x >>= f = .ok b) :
    ∃ a, x = .ok a ∧ f a = .ok b := by
  cases x with
  | error e => exact absurd done (by simp [bind, Except.bind])
  | ok a => exact ⟨a, rfl, done⟩

theorem exists_of_map_eq_ok {x : Except δ α} {f : α → β} {b : β} (done : x.map f = .ok b) :
    ∃ a, x = .ok a ∧ f a = b := by
  cases x with
  | error e => exact absurd done (by simp [Except.map])
  | ok a => exact ⟨a, rfl, Except.ok.inj done⟩

theorem mapError_ok (a : α) (g : δ → β) : (Except.ok a).mapError g = .ok a := rfl

theorem eq_ok_of_mapError {x : Except δ α} {g : δ → β} {a : α} (done : x.mapError g = .ok a) :
    x = .ok a := by
  cases x with
  | error e => cases done
  | ok b => exact congrArg Except.ok (Except.ok.inj done)

end

namespace FileTree

variable {t u v : FileTree} {place other : List String} {node : FileNode} {p : Path}

/-- No place is listed twice. -/
def Proper (t : FileTree) : Prop := t.nodes.Pairwise fun a b => a.1 ≠ b.1

/-! ### Nodes -/

theorem ne_nil_of_node? (file : t.node? place ≠ some .directory) : place ≠ [] := by
  rintro rfl
  exact file rfl

theorem node?_of_ne_nil (t : FileTree) (below : place ≠ []) :
    t.node? place = (t.nodes.find? fun n => n.1 == place).map Prod.snd := by
  rw [node?, if_neg (by simpa using below)]

/-- Where no place is listed twice, the nodes that are listed are those that are found. -/
theorem Proper.mem_nodes_iff (proper : t.Proper) (below : place ≠ []) :
    (place, node) ∈ t.nodes ↔ t.node? place = some node := by
  rw [node?_of_ne_nil t below, Option.map_eq_some_iff]
  obtain ⟨home, nodes⟩ := t
  constructor
  · intro mem
    refine ⟨(place, node), ?_, rfl⟩
    induction nodes with
    | nil => exact absurd mem List.not_mem_nil
    | cons n rest ih =>
      obtain ⟨first, later⟩ := List.pairwise_cons.1 proper
      rcases List.mem_cons.1 mem with rfl | mem
      · exact List.find?_cons_of_pos (by simp)
      · have apart : n.1 ≠ place := first _ mem
        rw [List.find?_cons_of_neg (by simpa using apart)]
        exact ih later mem
  · rintro ⟨⟨found, _⟩, there, rfl⟩
    have same : found = place := by simpa using List.find?_some there
    exact same ▸ List.mem_of_find?_eq_some there

/-- To put a node does not move the working directory. -/
theorem home_set (t : FileTree) (place : List String) (node : FileNode) :
    (t.set place node).home = t.home := by
  unfold set
  split <;> rfl

/-- The places of a tree in which a node was put. -/
theorem nodes_set (t : FileTree) (place : List String) (node : FileNode) :
    ((∃ n ∈ t.nodes, n.1 = place) ∧
        (t.set place node).nodes = t.nodes.map fun n => if n.1 == place then (place, node) else n) ∨
      (∀ n ∈ t.nodes, n.1 ≠ place) ∧ (t.set place node).nodes = t.nodes ++ [(place, node)] := by
  rw [set]
  split
  next there => exact .inl ⟨by simpa using there, rfl⟩
  next missing =>
    refine .inr ⟨fun n mem here => missing ?_, rfl⟩
    exact List.any_eq_true.2 ⟨n, mem, beq_iff_eq.2 here⟩

theorem node?_set_self (t : FileTree) (below : place ≠ []) (node : FileNode) :
    (t.set place node).node? place = some node := by
  rw [node?_of_ne_nil _ below]
  rcases nodes_set t place node with ⟨⟨n, mem, here⟩, same⟩ | ⟨missing, same⟩
  · have put : ((fun n => n.1 == place) ∘ fun n : List String × FileNode =>
        if n.1 == place then (place, node) else n) = fun n => n.1 == place := by
      funext n
      by_cases same : n.1 = place <;> simp [same]
    rw [same, List.find?_map, put]
    cases found : t.nodes.find? fun n => n.1 == place with
    | none => exact absurd here (by simpa using List.find?_eq_none.1 found n mem)
    | some m =>
      have here : m.1 = place := by simpa using List.find?_some found
      simp [here]
  · have none : t.nodes.find? (fun n => n.1 == place) = none :=
      List.find?_eq_none.2 fun n mem => by simpa using missing n mem
    simp [same, List.find?_append, none]

theorem node?_set_ne (t : FileTree) (apart : other ≠ place) (node : FileNode) :
    (t.set place node).node? other = t.node? other := by
  by_cases below : other = []
  · rw [below]
    rfl
  rw [node?_of_ne_nil _ below, node?_of_ne_nil _ below]
  have differ : (place == other) = false := by simpa using apart.symm
  rcases nodes_set t place node with ⟨-, same⟩ | ⟨-, same⟩
  · have kept : ((fun n => n.1 == other) ∘ fun n : List String × FileNode =>
        if n.1 == place then (place, node) else n) = fun n => n.1 == other := by
      funext n
      by_cases same : n.1 = place <;> simp [same, differ]
    rw [same, List.find?_map, kept]
    cases found : t.nodes.find? fun n => n.1 == other with
    | none => rfl
    | some m =>
      have here : m.1 = other := by simpa using List.find?_some found
      simp [here, apart]
  · rw [same, List.find?_append]
    simp [differ]

theorem node?_remove_self (t : FileTree) (below : place ≠ []) :
    (t.remove place).node? place = none := by
  rw [node?_of_ne_nil _ below, remove]
  simp

theorem node?_remove_ne (t : FileTree) (apart : other ≠ place) :
    (t.remove place).node? other = t.node? other := by
  by_cases below : other = []
  · rw [below]
    rfl
  rw [node?_of_ne_nil _ below, node?_of_ne_nil _ below, remove, List.find?_filter]
  congr 2
  funext n
  by_cases same : n.1 = other <;> simp [same, apart]

theorem Proper.set (proper : t.Proper) (place : List String) (node : FileNode) :
    (t.set place node).Proper := by
  unfold Proper
  rcases nodes_set t place node with ⟨-, same⟩ | ⟨missing, same⟩
  · rw [same, List.pairwise_map]
    refine proper.imp fun {a b} apart => ?_
    split <;> split <;> simp_all
  · rw [same, List.pairwise_append]
    refine ⟨proper, List.pairwise_singleton _ _, fun n mem m last => ?_⟩
    rw [List.mem_singleton.1 last]
    exact missing n mem

theorem Proper.remove (proper : t.Proper) (place : List String) : (t.remove place).Proper :=
  proper.filter _

/-! ### Places -/

/-- All directories of a tree are directories of another one, with the same working directory. -/
structure Within (t u : FileTree) : Prop where
  home : u.home = t.home
  directories : ∀ place, t.node? place = some .directory → u.node? place = some .directory

theorem Within.trans (first : t.Within u) (second : u.Within v) : t.Within v :=
  ⟨second.home.trans first.home,
    fun place there => second.directories place (first.directories place there)⟩

/-- A path goes on from directories only. -/
theorem node?_of_follow {part : String} (followed : t.follow place part = .ok other) :
    t.node? place = some .directory := by
  unfold follow at followed
  split at followed
  · exact absurd followed (by simp)
  · exact absurd followed (by simp)
  · next there => exact there

theorem follow_of_within (within : t.Within u) {part : String}
    (followed : t.follow place part = .ok other) : u.follow place part = .ok other := by
  have there := node?_of_follow followed
  unfold follow at followed ⊢
  simpa only [there, within.directories place there] using followed

/-- A path that leads somewhere leads there in a tree with more directories too. -/
theorem place_of_within (within : t.Within u) (found : t.place p = .ok place) :
    u.place p = .ok place := by
  unfold FileTree.place at found ⊢
  rw [within.home]
  generalize (if p.root.isEmpty then t.home else []) = start at found ⊢
  generalize p.parts = parts at found ⊢
  induction parts generalizing start with
  | nil => exact found
  | cons part rest ih =>
    rw [List.foldlM_cons] at found ⊢
    obtain ⟨next, followed, found⟩ := exists_of_bind_eq_ok found
    rw [follow_of_within within followed]
    exact ih next found

theorem place_join (t : FileTree) (directory : Path) (name : String) :
    t.place (directory.join ⟨"", [name]⟩) = t.place directory >>= fun q => t.follow q name := by
  have joined : directory.join ⟨"", [name]⟩ = ⟨directory.root, directory.parts ++ [name]⟩ := rfl
  simp only [joined, FileTree.place, List.foldlM_append, List.foldlM_cons, List.foldlM_nil, bind_pure]

/-- A path with one more part leads one part further. -/
theorem exists_of_join {directory : Path} {name : String} (plain : name ≠ "..")
    (leads : t.place (directory.join ⟨"", [name]⟩) = .ok place) :
    ∃ q, t.place directory = .ok q ∧ place = q ++ [name] := by
  rw [place_join] at leads
  obtain ⟨q, found, followed⟩ := exists_of_bind_eq_ok leads
  refine ⟨q, found, ?_⟩
  have there := node?_of_follow followed
  simp only [follow, there] at followed
  split at followed
  · exact absurd followed (by simp)
  · simpa [plain, eq_comm] using followed

theorem find_eq_ok_iff :
    t.find p = .ok node ↔ ∃ q, t.place p = .ok q ∧ t.node? q = some node := by
  unfold find
  cases t.place p with
  | error e => simp [bind, Except.bind]
  | ok q =>
    simp only [bind, Except.bind, Except.ok.injEq, exists_eq_left']
    cases t.node? q with
    | none => simp
    | some found => simp [pure, Except.pure]

theorem read_eq_ok_iff {data : Bytes} :
    t.read p = .ok data ↔ ∃ q, t.place p = .ok q ∧ t.node? q = some (.file data) := by
  have read : t.read p = .ok data ↔ t.find p = .ok (.file data) := by
    unfold FileTree.read
    rcases t.find p with e | _ | found <;> simp [bind, Except.bind, pure, Except.pure]
  rw [read, find_eq_ok_iff]

theorem isDirectory_iff :
    t.isDirectory p = true ↔ ∃ q, t.place p = .ok q ∧ t.node? q = some .directory := by
  have found : t.isDirectory p = true ↔ t.find p = .ok .directory := by
    unfold isDirectory
    rcases t.find p with e | _ | found <;> simp
  rw [found, find_eq_ok_iff]

/-- Who changes a file puts a file where none or another one was. -/
theorem exists_of_modify {f : Bytes → Bytes} (changed : t.modify p f = .ok u) :
    ∃ q old, t.place p = .ok q ∧ t.node? q ≠ some .directory ∧ u = t.set q (.file (f old)) := by
  obtain ⟨q, leads, changed⟩ := exists_of_bind_eq_ok changed
  cases there : t.node? q with
  | none =>
    simp only [there] at changed
    split at changed
    · exact ⟨q, [], leads, by simp [there], (Except.ok.inj changed).symm⟩
    · exact absurd changed (by simp)
    · exact absurd changed (by simp)
  | some node =>
    simp only [there] at changed
    cases node with
    | directory => exact absurd changed (by simp)
    | file old => exact ⟨q, old, leads, by simp [there], (Except.ok.inj changed).symm⟩

/-! ### Agreement -/

/-- Two trees have the same directories, the working directory among them, and differ at places of a zone at
most. -/
structure Agree (zone : List String → Prop) (t u : FileTree) : Prop where
  home : u.home = t.home
  directories : ∀ place, u.node? place = some .directory ↔ t.node? place = some .directory
  outside : ∀ place, ¬zone place → u.node? place = t.node? place

namespace Agree

variable {zone zone' : List String → Prop}

theorem refl (zone : List String → Prop) (t : FileTree) : Agree zone t t :=
  ⟨rfl, fun _ => .rfl, fun _ _ => rfl⟩

theorem symm (agree : Agree zone t u) : Agree zone u t :=
  ⟨agree.home.symm, fun place => (agree.directories place).symm,
    fun place out => (agree.outside place out).symm⟩

theorem trans (first : Agree zone t u) (second : Agree zone u v) : Agree zone t v :=
  ⟨second.home.trans first.home,
    fun place => (second.directories place).trans (first.directories place),
    fun place out => (second.outside place out).trans (first.outside place out)⟩

theorem mono (agree : Agree zone t u) (more : ∀ place, zone place → zone' place) : Agree zone' t u :=
  ⟨agree.home, agree.directories,
    fun place out => agree.outside place fun within => out (more place within)⟩

theorem within (agree : Agree zone t u) : t.Within u :=
  ⟨agree.home, fun place => (agree.directories place).2⟩

/-- A path leads to the same place in both. -/
theorem leads (agree : Agree zone t u) (found : t.place p = .ok place) : u.place p = .ok place :=
  place_of_within agree.within found

theorem leads_iff (agree : Agree zone t u) : u.place p = .ok place ↔ t.place p = .ok place :=
  ⟨agree.symm.leads, agree.leads⟩

theorem isDirectory (agree : Agree zone t u) : u.isDirectory p = t.isDirectory p := by
  rw [Bool.eq_iff_iff, isDirectory_iff, isDirectory_iff]
  simp only [agree.leads_iff, agree.directories]

/-- Files outside the zone have the same bytes. -/
theorem read (agree : Agree zone t u) {q : List String} {data : Bytes}
    (found : t.place p = .ok q) (out : ¬zone q) (read : t.read p = .ok data) :
    u.read p = .ok data := by
  obtain ⟨q', found', there⟩ := read_eq_ok_iff.1 read
  obtain rfl : q = q' := by simpa [found] using found'
  exact read_eq_ok_iff.2 ⟨q, agree.leads found, (agree.outside q out).trans there⟩

/-- A file that is put into the zone. -/
theorem set (t : FileTree) {q : List String} (file : t.node? q ≠ some .directory) (data : Bytes)
    (inside : zone q) : Agree zone t (t.set q (.file data)) where
  home := home_set t q _
  directories place := by
    by_cases here : place = q
    · subst here
      rw [node?_set_self t (ne_nil_of_node? file)]
      simp [file]
    · rw [node?_set_ne t here]
  outside place out := by
    have apart : place ≠ q := fun same => out (same ▸ inside)
    exact node?_set_ne t apart _

/-- A file that is removed from the zone. -/
theorem remove (t : FileTree) {q : List String} (file : t.node? q ≠ some .directory) (inside : zone q) :
    Agree zone t (t.remove q) where
  home := rfl
  directories place := by
    by_cases here : place = q
    · subst here
      rw [node?_remove_self t (ne_nil_of_node? file)]
      simp [file]
    · rw [node?_remove_ne t here]
  outside place out := by
    have apart : place ≠ q := fun same => out (same ▸ inside)
    exact node?_remove_ne t apart

end Agree

/-! ### Entries of directories -/

/-- The entries of a directory are what is one part below it. -/
theorem Proper.mem_children_iff (proper : t.Proper) {name : String} :
    (name, node) ∈ t.children p ↔
      ∃ q, t.place p = .ok q ∧ t.node? (q ++ [name]) = some node := by
  unfold children
  cases t.place p with
  | error e => simp
  | ok q =>
    simp only [List.mem_filterMap, Prod.exists, Option.ite_none_right_eq_some, Bool.and_eq_true,
      beq_iff_eq, Bool.not_eq_eq_eq_not, Bool.not_true, List.isEmpty_eq_false_iff, Option.some.injEq,
      Prod.mk.injEq, Except.ok.injEq, exists_eq_left']
    rw [← proper.mem_nodes_iff (by simp)]
    constructor
    · rintro ⟨place, _, mem, ⟨rfl, below⟩, rfl, rfl⟩
      have whole : place.dropLast ++ [place.getLastD ""] = place := by
        rw [List.getLastD_eq_getLast?, List.getLast?_eq_some_getLast below, Option.getD_some,
          List.dropLast_concat_getLast]
      rwa [whole]
    · intro mem
      exact ⟨q ++ [name], node, mem, by simp⟩

/-- No name is listed twice in a directory. -/
theorem Proper.children_names (proper : t.Proper) (p : Path) :
    (t.children p).Pairwise fun a b => a.1 ≠ b.1 := by
  unfold children
  split
  · next q _ =>
    refine List.Pairwise.filterMap _ ?_ proper
    rintro ⟨place, node⟩ ⟨place', node'⟩ apart ⟨name, found⟩ here ⟨name', found'⟩ here' same
    simp only [Option.ite_none_right_eq_some, Bool.and_eq_true, beq_iff_eq, Bool.not_eq_eq_eq_not,
      Bool.not_true, List.isEmpty_eq_false_iff, Option.some.injEq, Prod.mk.injEq] at here here'
    obtain ⟨⟨above, below⟩, rfl, -⟩ := here
    obtain ⟨⟨above', below'⟩, rfl, -⟩ := here'
    refine apart ?_
    simp only [List.getLastD_eq_getLast?, List.getLast?_eq_some_getLast below,
      List.getLast?_eq_some_getLast below', Option.getD_some] at same
    rw [← List.dropLast_concat_getLast below, ← List.dropLast_concat_getLast below', above, above', same]
  · exact .nil

/-! ### Making directories -/

/-- A tree that has more directories than another one, and is the same otherwise. -/
structure Grown (t u : FileTree) : Prop where
  home : u.home = t.home
  kept : ∀ place node, t.node? place = some node → u.node? place = some node
  made : ∀ place, t.node? place = none → u.node? place = none ∨ u.node? place = some .directory
  proper : t.Proper → u.Proper

namespace Grown

theorem refl (t : FileTree) : Grown t t :=
  ⟨rfl, fun _ _ there => there, fun _ missing => .inl missing, id⟩

theorem trans (first : Grown t u) (second : Grown u v) : Grown t v where
  home := second.home.trans first.home
  kept place node there := second.kept place node (first.kept place node there)
  made place missing := by
    rcases first.made place missing with missing | there
    · exact second.made place missing
    · exact .inr (second.kept place _ there)
  proper := second.proper ∘ first.proper

theorem within (grown : Grown t u) : t.Within u :=
  ⟨grown.home, fun place there => grown.kept place _ there⟩

/-- A directory that is made where nothing is. -/
theorem set {q : List String} (missing : t.node? q = none) : Grown t (t.set q .directory) where
  home := home_set t q _
  kept place node there := by
    rwa [node?_set_ne t fun here => by simp [here, missing] at there]
  made place none := by
    by_cases here : place = q
    · subst here
      have below : place ≠ [] := ne_nil_of_node? (by rw [missing]; simp : t.node? place ≠ some .directory)
      exact .inr (node?_set_self t below _)
    · exact .inl ((node?_set_ne t here _).trans none)
  proper proper := proper.set q .directory

end Grown

/-- A step makes a directory if there is nothing, and does not make it again. -/
theorem exists_of_makeStep {part : String} (made : t.makeStep place part = .ok (u, other)) :
    t.follow place part = .ok other ∧ Grown t u ∧
      ∀ v, t.Within v → v.node? other = some .directory → v.makeStep place part = .ok (v, other) := by
  obtain ⟨next, followed, made⟩ := exists_of_bind_eq_ok made
  have again (v : FileTree) (within : t.Within v) (there : v.node? next = some .directory) :
      v.makeStep place part = .ok (v, next) := by
    simp [makeStep, follow_of_within within followed, there, bind, Except.bind, pure, Except.pure]
  cases there : t.node? next with
  | some node =>
    simp only [there] at made
    obtain ⟨rfl, rfl⟩ := Prod.mk.inj (Except.ok.inj made)
    exact ⟨followed, .refl t, again⟩
  | none =>
    simp only [there] at made
    obtain ⟨rfl, rfl⟩ := Prod.mk.inj (Except.ok.inj made)
    exact ⟨followed, .set there, again⟩

/-- Steps that make directories follow the path of their parts, and make none a second time. -/
theorem exists_of_makeSteps {parts : List String} {from_ to_ : List String}
    (made : parts.foldlM (fun (x : FileTree × List String) part => x.1.makeStep x.2 part) (t, from_) =
      .ok (u, to_)) :
    Grown t u ∧ parts.foldlM u.follow from_ = .ok to_ ∧
      (u.node? to_ = some .directory → u.node? from_ = some .directory ∧ ∀ v, u.Within v →
        parts.foldlM (fun (x : FileTree × List String) part => x.1.makeStep x.2 part) (v, from_) =
          .ok (v, to_)) := by
  induction parts generalizing t from_ with
  | nil =>
    obtain ⟨rfl, rfl⟩ := Prod.mk.inj (Except.ok.inj made)
    exact ⟨.refl t, rfl, fun there => ⟨there, fun _ _ => rfl⟩⟩
  | cons part rest ih =>
    rw [List.foldlM_cons] at made
    obtain ⟨⟨t', next⟩, stepped, made⟩ := exists_of_bind_eq_ok made
    obtain ⟨followed, first, again⟩ := exists_of_makeStep stepped
    obtain ⟨later, further, others⟩ := ih made
    have grown := first.trans later
    have followed' := follow_of_within grown.within followed
    refine ⟨grown, ?_, fun arrived => ⟨node?_of_follow followed', fun v within => ?_⟩⟩
    · rw [List.foldlM_cons, followed']
      exact further
    · obtain ⟨between, others⟩ := others arrived
      rw [List.foldlM_cons, again v (grown.within.trans within) (within.directories next between)]
      exact others v within

/-- A directory that was made is where its path leads. Nothing but directories was added, and where it is
there already nothing changes. -/
theorem exists_of_makeDirectories (made : t.makeDirectories p = .ok u) :
    Grown t u ∧ (∃ q, u.place p = .ok q ∧ u.node? q = some .directory) ∧
      ∀ v, u.Within v → v.makeDirectories p = .ok v := by
  obtain ⟨⟨u', last⟩, steps, arrived⟩ := exists_of_bind_eq_ok made
  obtain ⟨grown, followed, again⟩ := exists_of_makeSteps steps
  simp only at arrived
  split at arrived
  · next there =>
    obtain rfl := Except.ok.inj arrived
    have leads : u'.place p = .ok last := by
      rw [FileTree.place, grown.home]
      exact followed
    refine ⟨grown, ⟨last, leads, there⟩, fun v within => ?_⟩
    have repeated := (again there).2 v within
    rw [← within.home.trans grown.home] at repeated
    unfold makeDirectories
    refine (congrArg (· >>= _) repeated).trans ?_
    simp [within.directories last there, bind, Except.bind, pure, Except.pure]
  · exact absurd arrived (by simp)

/-! ### Texts -/

theorem readText_eq_ok_iff {text : List Char} :
    t.readText p = .ok text ↔
      ∃ data s, t.read p = .ok data ∧ Utf8.decode data = .ok s ∧ text = Text.unifyBreaks s.toList := by
  constructor
  · intro done
    obtain ⟨data, read, done⟩ := exists_of_bind_eq_ok done
    obtain ⟨s, decoded, done⟩ := exists_of_bind_eq_ok done
    exact ⟨data, s, eq_ok_of_mapError read, eq_ok_of_mapError decoded, (Except.ok.inj done).symm⟩
  · rintro ⟨data, s, read, decoded, rfl⟩
    unfold readText
    simp only [read, decoded, mapError_ok, bind, Except.bind]
    rfl

end FileTree

/-! ### Plugins of a directory -/

namespace Discovery

variable {t u : FileTree} {zone : List String → Prop} {directory : Path} {name : String}

/-- The names of the files that could be plugins. -/
def candidates (t : FileTree) (directory : Path) : List String :=
  ((entries t directory).filter isCandidate).map Prod.fst

theorem mem_candidates_iff (proper : t.Proper) :
    name ∈ candidates t directory ↔ (Path.splitName name).2 = suffix ∧
      ∃ q data, t.place directory = .ok q ∧ t.node? (q ++ [name]) = some (.file data) := by
  unfold candidates entries
  simp only [List.mem_map, List.mem_filter, List.mem_mergeSort, Prod.exists,
    proper.mem_children_iff, isCandidate, Bool.and_eq_true, beq_iff_eq]
  constructor
  · rintro ⟨_, node, ⟨⟨q, leads, there⟩, file, suffixed⟩, rfl⟩
    cases node with
    | directory => simp at file
    | file data => exact ⟨suffixed, q, data, leads, there⟩
  · rintro ⟨suffixed, q, data, leads, there⟩
    exact ⟨name, .file data, ⟨⟨q, leads, there⟩, rfl, suffixed⟩, rfl⟩

/-- They stand in the order of their characters, none of them twice. -/
theorem candidates_ordered (proper : t.Proper) (directory : Path) :
    (candidates t directory).Pairwise (· ≤ ·) ∧ (candidates t directory).Nodup := by
  have names := proper.children_names directory
  have arranged : (entries t directory).Perm (t.children directory) := List.mergeSort_perm _ _
  have ordered : (entries t directory).Pairwise fun a b => a.1 ≤ b.1 := by
    refine (List.pairwise_mergeSort (fun a b c => ?_) (fun a b => ?_) _).imp of_decide_eq_true
    · simpa using String.le_trans
    · simpa using String.le_total a.1 b.1
  unfold candidates
  refine ⟨List.pairwise_map.2 (ordered.filter _), List.pairwise_map.2 (List.Pairwise.filter _ ?_)⟩
  exact arranged.symm.pairwise names fun apart => apart.symm

/-- Files that are no plugins make no difference. -/
theorem candidates_eq (proper : t.Proper) (proper' : u.Proper) (agree : FileTree.Agree zone t u)
    (foreign : ∀ q name, t.place directory = .ok q → zone (q ++ [name]) →
      (Path.splitName name).2 ≠ suffix) : candidates u directory = candidates t directory := by
  have same (name : String) : name ∈ candidates u directory ↔ name ∈ candidates t directory := by
    rw [mem_candidates_iff proper', mem_candidates_iff proper]
    refine and_congr_right fun suffixed => exists_congr fun q => exists_congr fun data => ?_
    rw [agree.leads_iff]
    refine and_congr_right fun leads => ?_
    rw [agree.outside _ fun within => foreign q name leads within suffixed]
  obtain ⟨sorted, once⟩ := candidates_ordered proper directory
  obtain ⟨sorted', once'⟩ := candidates_ordered proper' directory
  exact ((List.perm_ext_iff_of_nodup once' once).2 same).eq_of_pairwise
    (fun a b _ _ => String.le_antisymm) sorted' sorted

theorem discover_fst (t : FileTree) (directory : Path) :
    (discover t directory).1 = if t.isDirectory directory then
      ((candidates t directory).filter fun name => isPluginName (Path.splitName name).1).map
        fun name => directory.join ⟨"", [name]⟩ else [] := by
  unfold discover
  cases t.isDirectory directory <;> rfl

end Discovery
end FormatHost
