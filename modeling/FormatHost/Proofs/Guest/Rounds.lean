import FormatHost.Proofs.Guest.Operations
import Mathlib.Algebra.Order.Floor.Div
/-!
# Rounds of transfers

Bytes travel through the window in rounds, as long as some are left. A transfer with a window that has room
for a byte comes to an end, and takes no more rounds than pieces of the window's size cover its bytes. An
instance that was not poisoned has such a window, or the host was not told its size. Without a size there
are no rounds.
-/
namespace FormatHost

variable {σ ε ω S α : Type}

/-- A loop that goes round while there is more to do. -/
structure Loop (σ ε ω S : Type) where
  more : S → Prop
  round : S → GuestM σ ε ω S

/-- How often a loop goes round and how it ends. A loop that never ends has no such number. -/
inductive Rounds (loop : Loop σ ε ω S) :
    Nat → S → Scene σ ε ω → Except Fault S × Scene σ ε ω → Prop
  | ended {x : S} {s : Scene σ ε ω} (spent : ¬loop.more x) : Rounds loop 0 x s (.ok x, s)
  | failed {x : S} {s t : Scene σ ε ω} {f : Fault} (going : loop.more x)
    (ran : ending (loop.round x) s = (.error f, t)) : Rounds loop 1 x s (.error f, t)
  | next {count : Nat} {x y : S} {s t : Scene σ ε ω} {r : Except Fault S × Scene σ ε ω}
    (going : loop.more x) (ran : ending (loop.round x) s = (.ok y, t))
    (rest : Rounds loop count y t r) : Rounds loop (count + 1) x s r

namespace Rounds

variable {loop : Loop σ ε ω S} {count : Nat} {x : S} {s : Scene σ ε ω}
  {r : Except Fault S × Scene σ ε ω}

/-- A loop with so much left to do, of which each round does a part of size `n` or all the rest, goes round
no more often than such parts cover it. -/
theorem count_le (rounds : Rounds loop count x s r) (left : S → Nat) {n : Nat} (positive : 0 < n)
    (some : ∀ x, loop.more x → 0 < left x)
    (less : ∀ x s y t, ending (loop.round x) s = (.ok y, t) → left y = left x - n) :
    count ≤ left x ⌈/⌉ n := by
  have covered : count * n < left x + n := by
    induction rounds with
    | ended spent => omega
    | failed going ran =>
      have := some _ going
      omega
    | next going ran rest ih =>
      have := some _ going
      rw [less _ _ _ _ ran] at ih
      rw [Nat.add_one_mul]
      -- A round that does less than `n` is the last one.
      rcases Nat.lt_or_ge (left _) n with last | more
      · rw [Nat.sub_eq_zero_of_le last.le, Nat.zero_add] at ih
        obtain rfl : _ = 0 := Nat.lt_one_iff.1 (Nat.lt_of_mul_lt_mul_right
          (ih.trans_eq (Nat.one_mul n).symm))
        omega
      · omega
  rw [Nat.ceilDiv_eq_add_pred_div, Nat.le_div_iff_mul_le positive]
  omega

/-- A loop whose rounds succeed and leave as much to do as before never ends. -/
theorem not_of_stalled {I : S → Scene σ ε ω → Prop} (more : ∀ x s, I x s → loop.more x)
    (stalled : ∀ x s, I x s → ∃ y t, ending (loop.round x) s = (.ok y, t) ∧ I y t)
    (holds : I x s) : ¬Rounds loop count x s r := by
  intro rounds
  induction rounds with
  | ended spent => exact spent (more _ _ holds)
  | failed going ran =>
    obtain ⟨y, t, succeeded, -⟩ := stalled _ _ holds
    cases ran.symm.trans succeeded
  | next going ran rest ih =>
    obtain ⟨y, t, succeeded, still⟩ := stalled _ _ holds
    cases ran.symm.trans succeeded
    exact ih still

end Rounds

/-! ### The loops of transfers -/

/-- Hands over data from an offset on, as long as some is left. -/
def sendLoop (out : Outside ε ω) (again : Again σ ε ω) (data : Bytes) (start size : Int) :
    Loop σ ε ω Nat where
  more offset := offset < data.length
  round offset := do
    let piece := (data.drop offset).take size.toNat
    GuestM.putPiece start piece
    let _ ← GuestM.callExport out again "add_to_shared_bytes_from_buffer" [piece.length]
    return offset + size.toNat

/-- Fetches bytes and puts them behind those that are there, as long as there are fewer than wanted. -/
def receiveLoop (out : Outside ε ω) (again : Again σ ε ω) (length start size : Int) :
    Loop σ ε ω (Int × Bytes) where
  more x := x.1 < length
  round x := do
    let part := min size (length - x.1)
    let data ← GuestM.fetchPiece out again start x.1 part
    return (x.1 + part, x.2 ++ data)

variable (out : Outside ε ω) (again : Again σ ε ω)

/-- Sending the pieces of the data that is left takes rounds of the loop. -/
theorem rounds_sendPieces (data : Bytes) (start : Int) (pred offset : Nat) (s : Scene σ ε ω) :
    ∃ count r, Rounds (sendLoop out again data start (pred + 1 : Nat)) count offset s r ∧
      ending (GuestM.sendPieces out again start (pieces pred (data.drop offset))) s =
        (r.1.map fun _ => (), r.2) := by
  -- The pieces are cut off what is left, the loop counts from the front.
  generalize left : data.drop offset = rest
  induction rest using pieces.induct pred generalizing offset s with
  | case1 =>
    refine ⟨0, _, .ended (Nat.not_lt.2 (List.drop_eq_nil_iff.1 left)), ?_⟩
    rw [pieces]
    rfl
  | case2 b rest ih =>
    have more : offset < data.length := by
      by_contra spent
      rw [List.drop_eq_nil_of_le (Nat.le_of_not_lt spent)] at left
      cases left
    have next : data.drop (offset + (pred + 1)) = rest.drop pred := by
      rw [← List.drop_drop, left, List.drop_succ_cons]
    have round : (sendLoop out again data start (pred + 1 : Nat)).round offset = (do
        GuestM.putPiece start (b :: rest.take pred)
        let _ ← GuestM.callExport out again "add_to_shared_bytes_from_buffer"
          [(b :: rest.take pred).length]
        return offset + (pred + 1) : GuestM σ ε ω Nat) := by
      simp only [sendLoop, Int.toNat_natCast, left, List.take_succ_cons]
    rw [pieces, GuestM.sendPieces, ending_bind]
    rcases put : ending (GuestM.putPiece start (b :: rest.take pred)) s with ⟨f | _, t⟩
    · exact ⟨1, _, .failed more (by rw [round, ending_bind_of_error put]), rfl⟩
    simp only
    rw [ending_bind]
    rcases taken : ending (GuestM.callExport out again "add_to_shared_bytes_from_buffer"
        [(b :: rest.take pred).length]) t with ⟨f | v, u⟩
    · refine ⟨1, _, .failed more ?_, rfl⟩
      rw [round, ending_bind_of_ok put, ending_bind_of_error taken]
    obtain ⟨count, r, rounds, same⟩ := ih (offset + (pred + 1)) u next
    refine ⟨count + 1, r, .next more ?_ rounds, same⟩
    rw [round, ending_bind_of_ok put, ending_bind_of_ok taken]
    rfl

/-- Fetching the bytes that are left takes rounds of the loop. -/
theorem rounds_receiveFrom (start : Int) (pred offset remaining : Nat) (before : Bytes)
    (s : Scene σ ε ω) :
    ∃ count r, Rounds (receiveLoop out again (offset + remaining : Nat) start (pred + 1 : Nat)) count
        (offset, before) s r ∧
      ((ending (GuestM.receiveFrom out again start pred offset remaining) s).1.map (before ++ ·),
        (ending (GuestM.receiveFrom out again start pred offset remaining) s).2) =
        (r.1.map Prod.snd, r.2) := by
  induction offset, remaining using GuestM.receiveFrom.induct pred generalizing before s with
  | case1 offset =>
    refine ⟨0, _, .ended (by simp [receiveLoop]), ?_⟩
    rw [GuestM.receiveFrom, if_pos rfl]
    simp [Except.map]
  | case2 offset remaining some part ih =>
    have more : (receiveLoop out again (offset + remaining : Nat) start (pred + 1 : Nat)).more
        ((offset : Int), before) := by
      simp only [receiveLoop]
      omega
    have length : min ((pred + 1 : Nat) : Int) ((offset + remaining : Nat) - offset) = part := by
      omega
    have shorter : part ≤ remaining := Nat.min_le_right ..
    rw [GuestM.receiveFrom, if_neg some, ending_bind]
    rcases fetched : ending (GuestM.fetchPiece out again start offset part) s with ⟨f | data, t⟩
    · refine ⟨1, _, .failed more ?_, rfl⟩
      simp only [receiveLoop, length]
      rw [ending_bind_of_error fetched]
    obtain ⟨count, r, rounds, same⟩ := ih (before ++ data) t
    rw [show offset + part + (remaining - part) = offset + remaining by omega] at rounds
    refine ⟨count + 1, r, .next more ?_ rounds, ?_⟩
    · simp only [receiveLoop, length]
      rw [ending_bind_of_ok fetched]
      rfl
    · rw [← same]
      simp only
      rw [ending_bind]
      rcases ending (GuestM.receiveFrom out again start pred (offset + part) (remaining - part)) t with
        ⟨f | rest, u⟩
      · rfl
      · simp [Except.map]

variable {out again}

theorem count_le_of_send {data : Bytes} {start : Int} {n count offset : Nat} {s : Scene σ ε ω}
    {r : Except Fault Nat × Scene σ ε ω} (positive : 0 < n)
    (rounds : Rounds (sendLoop out again data start n) count offset s r) :
    count ≤ (data.length - offset) ⌈/⌉ n := by
  refine rounds.count_le (fun x => data.length - x) positive
    (fun x more => Nat.sub_pos_of_lt more) fun x s y t ran => ?_
  obtain ⟨_, u, -, rest⟩ := exists_of_ending_bind_eq ran
  obtain ⟨_, v, -, done⟩ := exists_of_ending_bind_eq rest
  obtain rfl := Except.ok.inj (congrArg Prod.fst done)
  simp only [Int.toNat_natCast]
  omega

theorem count_le_of_receive {length start : Int} {n count : Nat} {x : Int × Bytes} {s : Scene σ ε ω}
    {r : Except Fault (Int × Bytes) × Scene σ ε ω} (positive : 0 < n)
    (rounds : Rounds (receiveLoop out again length start n) count x s r) :
    count ≤ (length - x.1).toNat ⌈/⌉ n := by
  refine rounds.count_le (fun x => (length - x.1).toNat) positive
    (fun x more => by simp only [receiveLoop] at more; omega) fun x s y t ran => ?_
  obtain ⟨data, u, -, done⟩ := exists_of_ending_bind_eq ran
  obtain rfl := Except.ok.inj (congrArg Prod.fst done)
  simp only
  omega

/-! ### Transfers -/

/-- What the host gets when it asks for the window: a place for at least one byte, or a start without a size
from an earlier question that was interrupted, or the guest is blamed and poisoned, or the question is
interrupted for want of room. -/
inductive WindowFound : Except Fault (Int × Option Int) × Scene σ ε ω → Prop
  | found {a n : Int} {t : Scene σ ε ω} (positive : 0 < n) : WindowFound (.ok (a, some n), t)
  | unsized {a : Int} {t : Scene σ ε ω} : WindowFound (.ok (a, none), t)
  | blamed {f : Fault} {t : Scene σ ε ω} (kind : f.kind = .guest)
    (poisoned : t.guest.poisoned = true) : WindowFound (.error f, t)
  | interrupted {f : Fault} {t : Scene σ ε ω} (room : f.OutOfRoom) : WindowFound (.error f, t)

/-- How a transfer of some bytes ends: without a window, or without its size and so without a round, for a
failure of its first call, or after so many rounds as pieces of the window's size cover the bytes, or
fewer. -/
inductive Transferred (out : Outside ε ω) (again : Again σ ε ω) (prepare : GuestM σ ε ω Unit)
    (loop : Int → Int → Loop σ ε ω S) (x : S) (answer : S → α) (length : Nat) (s : Scene σ ε ω) :
    Except Fault α × Scene σ ε ω → Prop
  | windowless {f : Fault} {t : Scene σ ε ω} (asked : ending (GuestM.window out again) s = (.error f, t))
    (kind : f.kind = .guest) (poisoned : t.guest.poisoned = true) :
    Transferred out again prepare loop x answer length s (.error f, t)
  | interrupted {f : Fault} {t : Scene σ ε ω}
    (asked : ending (GuestM.window out again) s = (.error f, t)) (room : f.OutOfRoom) :
    Transferred out again prepare loop x answer length s (.error f, t)
  | unsized {a : Int} {t : Scene σ ε ω} {r : Except Fault α × Scene σ ε ω}
    (asked : ending (GuestM.window out again) s = (.ok (a, none), t))
    (ended : r = ending (do prepare; throw .windowUnknown) t ∨ length = 0 ∧ r = (.ok (answer x), t)) :
    Transferred out again prepare loop x answer length s r
  | unprepared {a n : Int} {f : Fault} {t u : Scene σ ε ω}
    (asked : ending (GuestM.window out again) s = (.ok (a, some n), t)) (positive : 0 < n)
    (failed : ending prepare t = (.error f, u)) :
    Transferred out again prepare loop x answer length s (.error f, u)
  | rounds {a n : Int} {t u : Scene σ ε ω} {count : Nat} {r : Except Fault S × Scene σ ε ω}
    (asked : ending (GuestM.window out again) s = (.ok (a, some n), t)) (positive : 0 < n)
    (prepared : ending prepare t = (.ok (), u)) (rounds : Rounds (loop a n) count x u r)
    (few : count ≤ length ⌈/⌉ n.toNat) :
    Transferred out again prepare loop x answer length s (r.1.map answer, r.2)

/-- How bytes are handed over: the shared bytes are cleared, and then the loop goes round. -/
def Sent (out : Outside ε ω) (again : Again σ ε ω) (data : Bytes) (s : Scene σ ε ω) :
    Except Fault Unit × Scene σ ε ω → Prop :=
  Transferred out again (do let _ ← GuestM.callExport out again "clear_shared_bytes" [data.length])
    (sendLoop out again data) 0 (fun _ => ()) data.length s

/-- How bytes are fetched. -/
def Received (out : Outside ε ω) (again : Again σ ε ω) (length : Int) (s : Scene σ ε ω) :
    Except Fault Bytes × Scene σ ε ω → Prop :=
  Transferred out again (pure ()) (receiveLoop out again length) (0, []) Prod.snd length.toNat s

variable {s : Scene σ ε ω}
  (fit : s.guest.windowSize = none ∨ Fit s.guest.windowStart s.guest.windowSize)
include fit

theorem windowFound (out : Outside ε ω) (again : Again σ ε ω) :
    WindowFound (ending (GuestM.window out again) s) := by
  have asked := windowAsked out again s
  revert asked
  generalize ending (GuestM.window out again) s = r
  intro asked
  cases asked with
  | known start =>
    rcases fit with none | unknown | ⟨a, n, -, size, positive⟩
    · rw [none]
      exact .unsized
    · rw [unknown] at start
      cases start
    · rw [size]
      exact .found positive
  | startless unknown failed =>
    rcases blamed_callExport failed with ⟨kind, poisoned⟩ | room
    · exact .blamed kind poisoned
    · exact .interrupted room
  | sizeless unknown start failed =>
    rcases blamed_callExport failed with ⟨kind, poisoned⟩ | room
    · exact .blamed kind poisoned
    · exact .interrupted room
  | empty unknown start size least => exact .blamed rfl rfl
  | given unknown start size positive => exact .found positive

theorem sent_of_fit (data : Bytes) :
    Sent out again data s (ending (GuestM.sendBytes out again data) s) := by
  have found := windowFound fit out again
  unfold GuestM.sendBytes
  rw [ending_bind]
  revert found
  rcases asked : ending (GuestM.window out again) s with ⟨f | ⟨a, size⟩, t⟩ <;> intro found
  · cases found with
    | blamed kind poisoned => exact .windowless asked kind poisoned
    | interrupted room => exact .interrupted asked room
  obtain rfl | ⟨n, rfl, positive⟩ : size = none ∨ ∃ n, size = some n ∧ 0 < n := by
    cases found with
    | found positive => exact .inr ⟨_, rfl, positive⟩
    | unsized => exact .inl rfl
  · refine .unsized asked (.inl ?_)
    simp only [bind_assoc, pure_bind]
  obtain ⟨pred, rfl⟩ := exists_eq_ofNat_succ positive
  simp only
  rw [ending_bind]
  rcases cleared : ending (GuestM.callExport out again "clear_shared_bytes" [data.length]) t with
    ⟨f | v, u⟩
  · exact .unprepared asked positive (by rw [ending_bind_of_error cleared])
  obtain ⟨count, r, rounds, same⟩ := rounds_sendPieces out again data a pred 0 u
  simp only
  rw [List.drop_zero] at same
  rw [same]
  exact .rounds asked positive (by rw [ending_bind_of_ok cleared]; rfl) rounds
    (count_le_of_send (Nat.succ_pos pred) rounds)

theorem received_of_fit (length : Int) :
    Received out again length s (ending (GuestM.receiveBytes out again length) s) := by
  have found := windowFound fit out again
  unfold GuestM.receiveBytes
  rw [ending_bind]
  revert found
  rcases asked : ending (GuestM.window out again) s with ⟨f | ⟨a, size⟩, t⟩ <;> intro found
  · cases found with
    | blamed kind poisoned => exact .windowless asked kind poisoned
    | interrupted room => exact .interrupted asked room
  obtain rfl | ⟨n, rfl, positive⟩ : size = none ∨ ∃ n, size = some n ∧ 0 < n := by
    cases found with
    | found positive => exact .inr ⟨_, rfl, positive⟩
    | unsized => exact .inl rfl
  · refine .unsized asked ?_
    simp only
    split
    · exact .inr ⟨by omega, rfl⟩
    · exact .inl rfl
  simp only
  split
  · next none =>
    exact .rounds (r := (.ok (0, []), t)) asked positive rfl (.ended (Int.not_lt.2 none)) (Nat.zero_le _)
  · next some =>
    obtain ⟨pred, rfl⟩ := exists_eq_ofNat_succ positive
    obtain ⟨count, r, rounds, same⟩ :=
      rounds_receiveFrom out again a pred 0 length.toNat [] t
    have whole : ((0 + length.toNat : Nat) : Int) = length := by omega
    rw [whole] at rounds
    have same : ending (GuestM.receiveFrom out again a pred 0 length.toNat) t =
        (r.1.map Prod.snd, r.2) := by
      rw [← same]
      rcases ending (GuestM.receiveFrom out again a pred 0 length.toNat) t with ⟨f | data, u⟩ <;> rfl
    simp only
    rw [same]
    have few := count_le_of_receive (Nat.succ_pos pred) rounds
    exact .rounds asked positive rfl rounds (by simpa using few)

omit fit

/-- A guest that keeps the contract, but with an empty window, would be asked for bytes for ever. -/
theorem endless_of_carries {view : TransferView σ} {X : Exports σ ε} {start : Int}
    (carries : Carries view start 0 X) {length : Int} (some : 0 < length) (least : 0 ≤ start)
    {before : Bytes} (exports : s.guest.exports = X) (room : start ≤ s.guest.memory.size) (count : Nat)
    (r : Except Fault (Int × Bytes) × Scene σ ε ω) :
    ¬Rounds (receiveLoop out again length start 0) count (0, before) s r := by
  refine Rounds.not_of_stalled
    (I := fun x s => x.1 = 0 ∧ s.guest.exports = X ∧ start ≤ s.guest.memory.size)
    (fun x s holds => ?_) ?_ ⟨rfl, exports, room⟩
  · simp only [receiveLoop, holds.1]
    exact some
  · rintro ⟨x, got⟩ s ⟨rfl, exports, room⟩
    have range : InRange start (0 : Nat) s.guest.memory.size := ⟨least, by omega, by omega⟩
    obtain ⟨v, t, filled, moves, -, read⟩ := carries.fill s 0 0 range (Nat.zero_le _)
    have fetched : ending (GuestM.fetchPiece out again start (0 : Nat) (0 : Nat)) s = (.ok [], t) := by
      unfold GuestM.fetchPiece
      rw [ending_bind_of_ok (ending_callExport_of_yields out again filled exports),
        GuestM.ending_getPiece, read]
      simp [Memory.slice]
    refine ⟨(0, got), t, ?_, rfl, moves.exports.trans exports,
      room.trans (Int.ofNat_le.2 moves.size)⟩
    have part : min 0 (length - 0) = (0 : Nat) := by omega
    simp only [receiveLoop, part]
    exact (ending_bind_of_ok fetched).trans (by simp)

namespace Occasion

/-- After any operations on an instance, a size that the host was told meanwhile comes with a window that
has room for a byte, or the instance is poisoned. Whenever there is no window without room, transfers of
any length end, after no more rounds than pieces of the window's size cover the bytes. -/
theorem transfers_end (g₀ : Instance σ ε) (earlier : List (Occasion ε ω)) :
    ((afterAll g₀ earlier).poisoned = false →
        (afterAll g₀ earlier).windowSize = g₀.windowSize ∨
          Windowed (afterAll g₀ earlier).windowStart (afterAll g₀ earlier).windowSize) ∧
      ∀ (out : Outside ε ω) (again : Again σ ε ω) (s : Scene σ ε ω),
        s.guest.windowSize = none ∨ Fit s.guest.windowStart s.guest.windowSize →
        WindowFound (ending (GuestM.window out again) s) ∧
          (∀ data, Sent out again data s (ending (GuestM.sendBytes out again data) s)) ∧
          ∀ length, Received out again length s (ending (GuestM.receiveBytes out again length) s) :=
  ⟨(advance_afterAll earlier g₀).asked, fun out again _ fit =>
    ⟨windowFound fit out again, sent_of_fit fit, received_of_fit fit⟩⟩

end Occasion

open Script Occasion

/-- Bytes through a window of two, after the guest was asked for its licence. -/
theorem transfers_end_of_narrow :
    let g := afterAll narrow [calmly .licenseText]
    let s : Scene ScriptState ScriptCounts Unit := ⟨g, .zero, ()⟩
    let out : Outside ScriptCounts Unit := (calmly .licenseText).out
    narrow.windowSize = none ∧ g.poisoned = false ∧ g.windowSize = some 2 ∧
      Sent out (GuestM.freeFormat out) [1, 2, 3] s
        (ending (GuestM.sendBytes out (GuestM.freeFormat out) [1, 2, 3]) s) ∧
      Received out (GuestM.freeFormat out) 5 s
        (ending (GuestM.receiveBytes out (GuestM.freeFormat out) 5) s) := by
  intro g s out
  have healthy : g.poisoned = false := by decide +kernel
  have size : g.windowSize = some 2 := by decide +kernel
  obtain ⟨told, ends⟩ := transfers_end narrow [calmly .licenseText]
  obtain ⟨-, sent, received⟩ := ends out (GuestM.freeFormat out) s
    ((told healthy).imp_right Windowed.fit)
  exact ⟨rfl, healthy, size, sent [1, 2, 3], received 5⟩

/-- An instance with an empty window. -/
def Script.roomless : Instance ScriptState ScriptCounts :=
  ((echoing 100 0 0).toModule []).begin "p" none

/-- The guest is blamed for its empty window once. After that the window is taken as it is: handing over
bytes fails for another reason, and fetching some would never end. -/
theorem roomless_unblamed :
    let g := afterAll roomless [calmly (.sendBytes [0])]
    let s : Scene ScriptState ScriptCounts Unit := ⟨g, .zero, ()⟩
    let out : Outside ScriptCounts Unit := (calmly .licenseText).out
    (∃ f, ((calmly (.sendBytes [0])).ended roomless).1 = .error f ∧ f.kind = .guest) ∧
      (∃ f, ((calmly (.sendBytes [0])).ended g).1 = .error f ∧ f.kind = .value) ∧
      ending (GuestM.window out (GuestM.freeFormat out)) s = (.ok (0, some 0), s) ∧
      ∀ count r, ¬Rounds (receiveLoop out (GuestM.freeFormat out) 1 0 0) count (0, []) s r := by
  intro g s out
  have blamed : failure? ((calmly (.sendBytes [0])).ended roomless).1 = some .guest := by
    decide +kernel
  have unblamed : failure? ((calmly (.sendBytes [0])).ended g).1 = some .value := by decide +kernel
  have start : g.windowStart = some 0 := by decide +kernel
  have size : g.windowSize = some 0 := by decide +kernel
  have exports : g.exports = roomless.exports := rfl
  have carries : Carries view 0 0 roomless.exports := carries_exports (plain_echoing 100 0 0)
  refine ⟨exists_of_failure? blamed, exists_of_failure? unblamed, ?_, fun count r => ?_⟩
  · have told := ending_window_of_told out (GuestM.freeFormat out) (s := s) start
    rwa [show s.guest.windowSize = some 0 from size] at told
  · exact endless_of_carries carries (by decide) (Int.le_refl 0) exports (Int.natCast_nonneg _) count r

end FormatHost
