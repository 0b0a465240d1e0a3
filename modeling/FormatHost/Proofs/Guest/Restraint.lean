import FormatHost.Proofs.Guest.Voice
import FormatHost.Proofs.Guest.Relay
/-!
# Host functions that a guest leaves alone

What the host keeps for a guest changes only through the host functions that the guest calls. If its
behaviour can be seen to leave some of them alone, then what only these change stays as it is. A guest's
memory never shrinks.
-/
namespace FormatHost

variable {σ ε ω : Type}

/-- What holds of a boundary and stays so through the allowed host functions. -/
structure Boundary.Constant (allowed : HostCall → Prop) (P : Boundary → Prop) : Prop where
  call : ∀ (room : Nat) (c : HostCall) (b : Boundary) (m : Memory), allowed c → P b →
    P (b.call room c m).2.1
  conclude : ∀ (outcome : Outcome) (b : Boundary), P b → P (b.conclude outcome)

/-- Host functions write a guest's memory in place. -/
theorem Boundary.size_call (room : Nat) (c : HostCall) (b : Boundary) (m : Memory) :
    (b.call room c m).2.2.size = m.size := by
  unfold call
  split
  · rfl
  cases c with
  | writeBuffer pointer offset length =>
    simp only [writeBuffer]
    split
    · rfl
    split
    · rfl
    · next m' written => exact Memory.size_of_write written
  | _ => rfl

theorem HostTable.size_call (out : Outside ε ω) (c : HostCall) (t : HostTable) (m : Memory)
    (x : ε × ω) : ((HostTable.call out.room out.ask c t m).run x).1.2.2.size = m.size := by
  cases t with
  | none => rfl
  | some b =>
    have same := b.size_call out.room c m
    simp only [HostTable.call]
    revert same
    rcases b.call out.room c m with ⟨result | request, b', m'⟩
    · exact id
    · exact id

namespace Act

variable {out : Outside ε ω}

theorem stable_boundary {allowed : HostCall → Prop} {P : Boundary → Prop}
    (constant : Boundary.Constant allowed P) (far : out.selfCalls = false) (again : Again σ ε ω) :
    Stable allowed out again fun s => ∃ b, s.guest.table = some b ∧ P b where
  keep _ _ table := table
  memory _ table := table
  host {s} call may table := by
    obtain ⟨b, there, holds⟩ := table
    have called := constant.call out.room call b s.guest.memory may holds
    simp only [Scene.called, there, HostTable.call]
    revert called
    rcases b.call out.room call s.guest.memory with ⟨result | request, b', m⟩ <;> intro called
    · exact ⟨b', rfl, called⟩
    · exact ⟨_, rfl, constant.conclude _ b' called⟩
  pause := id
  reenter _ _ reach := absurd reach (by simp [far])

/-- Behaviour that keeps to the allowed host functions keeps what these keep. -/
theorem run_table {allowed : HostCall → Prop} {P : Boundary → Prop}
    (constant : Boundary.Constant allowed P) (far : out.selfCalls = false) (again : Again σ ε ω)
    (act : Act σ ε) (calls : act.Calls allowed) (s : Scene σ ε ω)
    (table : ∃ b, s.guest.table = some b ∧ P b) :
    ∃ b, (act.run out again s).2.guest.table = some b ∧ P b :=
  act.run_stable_of_calls (stable_boundary constant far again) calls table

/-- Memory is written in place, and grows. The instance stays as it is held, so that a format call never
gets through. -/
theorem stable_size {again : Again σ ε ω} {held : Bool} (undisturbed : Undisturbed out again held)
    (least : Nat) :
    Stable (fun _ => True) out again fun s => s.guest.busy = held ∧ least ≤ s.guest.memory.size where
  keep _ _ after := after
  memory larger after := ⟨after.1, Nat.le_trans after.2 larger⟩
  host {s} call _ after := by
    have same := HostTable.size_call out call s.guest.table s.guest.memory (s.engine, s.world)
    exact ⟨after.1, Nat.le_trans after.2 (Nat.le_of_eq same.symm)⟩
  pause := id
  reenter path text reach after := by
    rw [undisturbed.unmoved path text reach after.1]
    exact after

theorem size_le_run_of_undisturbed {again : Again σ ε ω} {held : Bool}
    (undisturbed : Undisturbed out again held) (act : Act σ ε) (s : Scene σ ε ω)
    (busy : s.guest.busy = held) :
    s.guest.memory.size ≤ (act.run out again s).2.guest.memory.size :=
  (act.run_stable (stable_size undisturbed s.guest.memory.size) ⟨busy, Nat.le_refl _⟩).2

theorem size_le_run (far : out.selfCalls = false) (again : Again σ ε ω) (act : Act σ ε)
    (s : Scene σ ε ω) : s.guest.memory.size ≤ (act.run out again s).2.guest.memory.size :=
  size_le_run_of_undisturbed (.inl far) act s rfl

/-! ### Staging -/

section

variable {allowed : HostCall → Prop} {place : Nat} {size : Int}
  (most : ∀ c, c ≠ .takeOverrideConfig → allowed c)
include most

theorem calls_stagePieces (parts : List Bytes) {next : Act σ ε} (calls : next.Calls allowed) :
    (stagePieces place parts next).Calls allowed := by
  induction parts with
  | nil => exact calls
  | cons part rest ih => exact ⟨most _ (by simp), fun _ => ih⟩

theorem calls_stage (data : Bytes) {next : Act σ ε} (calls : next.Calls allowed) :
    (stage place size data next).Calls allowed :=
  ⟨most _ (by simp), fun _ => calls_stagePieces most _ calls⟩

theorem calls_fetchParts (parts : List Bytes) (offset : Nat) (got : Bytes)
    {next : Bytes → Act σ ε} (calls : ∀ data, (next data).Calls allowed) :
    (fetchParts place parts offset got next).Calls allowed := by
  induction parts generalizing offset got with
  | nil => exact calls got
  | cons part rest ih => exact ⟨most _ (by simp), fun _ data => ih _ _⟩

theorem calls_fetch {getter : HostCall} (other : getter ≠ .takeOverrideConfig)
    {next : String → Act σ ε} (calls : ∀ text, (next text).Calls allowed) :
    (fetch place size getter next).Calls allowed := by
  refine ⟨most _ other, fun n => calls_fetchParts most _ 0 [] fun data => ?_⟩
  split
  · exact calls _
  · trivial

/-- A request calls every host function but the one that takes an override, and that one only if there
is an override to take. -/
theorem calls_askHost (path text : String) {override : Option String}
    (taker : override ≠ none → allowed .takeOverrideConfig) {next : Outcome → Act σ ε}
    (calls : ∀ outcome, (next outcome).Calls allowed) :
    (askHost place size path text override next).Calls allowed := by
  have learns (status : Option Nat) : (onStatus place size next status).Calls allowed := by
    unfold onStatus
    split
    · exact calls_fetch most (by simp) fun t => calls _
    · exact calls_fetch most (by simp) fun t => calls _
    · exact calls _
  have asks : (askHost place size path text none next).Calls allowed := by
    rw [askHost_none]
    refine calls_stage most _ ⟨most _ (by simp), fun _ => ?_⟩
    exact calls_stage most _ ⟨most _ (by simp), learns⟩
  cases override with
  | none => exact asks
  | some o => exact calls_stage most _ ⟨taker (by simp), fun _ => asks⟩

end

end Act

end FormatHost
