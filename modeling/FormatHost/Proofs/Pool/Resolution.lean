import FormatHost.Proofs.Pool.Aside
import FormatHost.Pool.Listing
import Mathlib.Data.List.Sort
import Mathlib.Data.String.Basic
/-!
# Resolution

Registered records stand in the order of their names. Where no two of them share a name, the order in
which they were entered leaves no trace: the plugin that handles a path is the one with the least name
among those that serve the path, and a record that serves nothing can be left out.
-/
namespace FormatHost

/-! ### Lists in the order of a key -/

section

variable {α β : Type} {key : α → String} {xs ys : List α}

/-- The elements in the order of their keys. -/
abbrev inOrder (key : α → String) (xs : List α) : List α :=
  xs.insertionSort fun a b => key a ≤ key b

theorem Pool.foldr_insertBy (key : α → String) (xs : List α) :
    xs.foldr (insertBy fun a b => decide (key a ≤ key b)) [] = inOrder key xs := by
  have one (x : α) (ys : List α) : insertBy (fun a b => decide (key a ≤ key b)) x ys =
      ys.orderedInsert (fun a b => key a ≤ key b) x := by
    induction ys with
    | nil => rfl
    | cons y rest ih => simp only [insertBy, decide_eq_true_eq, List.orderedInsert_cons, ih]
  induction xs with
  | nil => rfl
  | cons x rest ih =>
    rw [List.foldr_cons, ih, one]
    rfl

theorem pairwise_inOrder (key : α → String) (xs : List α) :
    (inOrder key xs).Pairwise fun a b => key a ≤ key b := by
  have : Std.Total fun a b => key a ≤ key b := ⟨fun a b => le_total (key a) (key b)⟩
  have : IsTrans α fun a b => key a ≤ key b := ⟨fun _ _ _ => le_trans⟩
  exact List.pairwise_insertionSort _ xs

theorem perm_inOrder (key : α → String) (xs : List α) : (inOrder key xs).Perm xs :=
  List.perm_insertionSort _ xs

theorem nodup_inOrder (distinct : (xs.map key).Nodup) : ((inOrder key xs).map key).Nodup :=
  ((perm_inOrder key xs).map key).nodup_iff.2 distinct

/-- Elements with distinct keys have one order only. -/
theorem eq_of_inOrder (distinct : (xs.map key).Nodup)
    (ordered : xs.Pairwise fun a b => key a ≤ key b)
    (ordered' : ys.Pairwise fun a b => key a ≤ key b) (perm : ys.Perm xs) : ys = xs := by
  refine List.Perm.eq_of_pairwise (fun a b here there below above => ?_) ordered' ordered perm
  exact List.inj_on_of_nodup_map distinct (perm.mem_iff.1 here) there (le_antisymm below above)

theorem inOrder_of_perm (distinct : (xs.map key).Nodup) (perm : ys.Perm xs) :
    inOrder key ys = inOrder key xs :=
  eq_of_inOrder (nodup_inOrder distinct) (pairwise_inOrder key xs) (pairwise_inOrder key ys)
    (((perm_inOrder key ys).trans perm).trans (perm_inOrder key xs).symm)

theorem inOrder_filter (distinct : (xs.map key).Nodup) (q : α → Bool) :
    inOrder key (xs.filter q) = (inOrder key xs).filter q := by
  have thinned : (((inOrder key xs).filter q).map key).Nodup :=
    (nodup_inOrder distinct).sublist (List.filter_sublist.map key)
  exact eq_of_inOrder thinned ((pairwise_inOrder key xs).filter q) (pairwise_inOrder key _)
    ((perm_inOrder key _).trans ((perm_inOrder key xs).filter q).symm)

/-- The first element in order that passes a test is the one with the least key of all that pass it. -/
theorem find?_eq_some_iff_least (distinct : (xs.map key).Nodup)
    (ordered : xs.Pairwise fun a b => key a ≤ key b) {q : α → Bool} {x : α} :
    xs.find? q = some x ↔ x ∈ xs ∧ q x ∧ ∀ y ∈ xs, q y → key x ≤ key y := by
  have least {x : α} (found : xs.find? q = some x) : ∀ y ∈ xs, q y → key x ≤ key y := by
    obtain ⟨-, before, after, rfl, fail⟩ := List.find?_eq_some_iff_append.1 found
    intro y here passes
    rcases List.mem_append.1 here with early | late
    · exact absurd (fail y early) (by simp [passes])
    · rcases List.mem_cons.1 late with rfl | late
      · exact le_rfl
      · exact List.rel_of_pairwise_cons (List.pairwise_append.1 ordered).2.1 late
  constructor
  · intro found
    exact ⟨List.mem_of_find?_eq_some found, List.find?_some found, least found⟩
  · rintro ⟨here, passes, below⟩
    obtain ⟨z, found⟩ := Option.isSome_iff_exists.1 (List.find?_isSome.2 ⟨x, here, passes⟩)
    have there := List.mem_of_find?_eq_some found
    have same : key z = key x :=
      le_antisymm (least found x here passes) (below z there (List.find?_some found))
    rw [found, List.inj_on_of_nodup_map distinct there here same]

/-- What fails a test anyway can be left out. -/
theorem find?_filter_of_imp {p q : α → Bool} (implies : ∀ x ∈ xs, q x → p x) :
    (xs.filter p).find? q = xs.find? q := by
  induction xs with
  | nil => rfl
  | cons x rest ih =>
    have ih := ih fun y here => implies y (List.mem_cons_of_mem x here)
    cases passes : q x with
    | true =>
      have kept := implies x List.mem_cons_self passes
      rw [List.filter_cons_of_pos kept, List.find?_cons_of_pos passes, List.find?_cons_of_pos passes]
    | false =>
      rw [List.find?_cons_of_neg (by simp [passes]), List.filter_cons]
      split
      · rw [List.find?_cons_of_neg (by simp [passes]), ih]
      · exact ih

end

/-! ### Records -/

/-- A plugin serves a path: it was not degraded, and it has named the file or, where the path has one,
the extension. -/
def PluginRecord.Serves (r : PluginRecord) (path : String) : Prop :=
  r.status ≠ .degraded ∧ ∃ info, r.info = some info ∧
    let bare := PluginInfo.bareExtension (Path.ofString path).suffix
    ((Path.ofString path).name ∈ info.fileNames ∨
      bare ≠ [] ∧ ∃ extension ∈ info.fileExtensions, PluginInfo.bareExtension extension = bare)

theorem PluginRecord.handles_iff_serves {r : PluginRecord} {path : String} :
    r.handles (Path.ofString path).name (Path.ofString path).suffix = true ↔ r.Serves path := by
  unfold PluginRecord.handles PluginRecord.Serves
  cases r.info with
  | none => simp
  | some info => simp [PluginInfo.handles]

/-- All of a record but the numbers of its idle instances: only how many there are. -/
def PluginRecord.outline (r : PluginRecord) : PluginRecord × Nat :=
  ({ r with idle := [] }, r.idle.length)

theorem PluginRecord.toDatum_of_outline {r r' : PluginRecord} (same : r'.outline = r.outline)
    (updated : Datum) : r'.toDatum updated = r.toDatum updated := by
  have told (r : PluginRecord) : r.toDatum updated =
      ({ r.outline.1 with idle := List.replicate r.outline.2 0 } : PluginRecord).toDatum updated := by
    simp [toDatum, outline]
  rw [told r', told r, same]

/-- What is told about a plugin tells its status. -/
theorem PluginRecord.status_of_toDatum {r r' : PluginRecord} {updated : Datum}
    (same : r'.toDatum updated = r.toDatum updated) : r'.status = r.status := by
  have told : Text.ofString r'.status.text = Text.ofString r.status.text := by
    simp only [toDatum, Datum.map.injEq, List.cons.injEq, Prod.mk.injEq] at same
    obtain ⟨-, -, -, -, -, -, status, -⟩ := same
    exact Datum.text.inj status.2
  revert told
  cases r'.status <;> cases r.status <;> decide

namespace Pool

variable {σ ε : Type} {p q : Pool σ ε}

/-- The outlines of the registered records in the order of their names. -/
def outlines (p : Pool σ ε) : List (PluginRecord × Nat) := p.sorted.map fun x => x.2.outline

/-- The listing tells no more than the outlines. -/
theorem listing_of_outlines (same : q.outlines = p.outlines) (updated : Datum) :
    q.listing updated = p.listing updated := by
  have told (p : Pool σ ε) : p.sorted.map (fun x => x.2.toDatum updated) =
      p.outlines.map fun o =>
        ({ o.1 with idle := List.replicate o.2 0 } : PluginRecord).toDatum updated := by
    rw [outlines, List.map_map]
    refine List.map_congr_left fun x _ => PluginRecord.toDatum_of_outline ?_ updated
    simp [PluginRecord.outline]
  rw [listing, listing, told q, told p, same]

/-- The listing tells the status of every plugin. -/
theorem statuses_of_listing {updated : Datum}
    (same : q.listing updated = p.listing updated) :
    q.sorted.map (fun x => x.2.status) = p.sorted.map fun x => x.2.status := by
  have listed := Datum.list.inj same
  rw [← List.forall₂_eq_eq_eq, List.forall₂_map_left_iff, List.forall₂_map_right_iff] at listed ⊢
  exact listed.imp fun _ _ => PluginRecord.status_of_toDatum

/-- The outline of the record that a path goes to. -/
def server? (p : Pool σ ε) (path : String) : Option (PluginRecord × Nat) :=
  (p.resolve path).map fun x => x.2.outline

theorem server?_eq (p : Pool σ ε) (path : String) :
    p.server? path = p.outlines.find? fun o =>
      o.1.handles (Path.ofString path).name (Path.ofString path).suffix := by
  rw [server?, resolve, outlines, List.find?_map]
  rfl

theorem pairwise_sorted (p : Pool σ ε) : p.sorted.Pairwise fun a b => a.2.name ≤ b.2.name := by
  rw [sorted, foldr_insertBy fun x : RecordId × PluginRecord => x.2.name]
  exact pairwise_inOrder _ _

/-- A path goes to the plugin with the least name among those that serve it. -/
theorem resolve_eq_some_iff (distinct : (p.sorted.map fun x => x.2.name).Nodup) {path : String}
    {x : RecordId × PluginRecord} :
    p.resolve path = some x ↔
      x ∈ p.sorted ∧ x.2.Serves path ∧ ∀ y ∈ p.sorted, y.2.Serves path → x.2.name ≤ y.2.name := by
  simp only [← PluginRecord.handles_iff_serves]
  exact find?_eq_some_iff_least distinct p.pairwise_sorted

theorem resolve_eq_none_iff {path : String} :
    p.resolve path = none ↔ ∀ y ∈ p.sorted, ¬y.2.Serves path := by
  simp only [← PluginRecord.handles_iff_serves, resolve, List.find?_eq_none]

end Pool

end FormatHost
