import Mathlib.Data.Int.Order.Basic
import Lwip.Interface.ArpHandler
import Lwip.Std.Expiring

/-! The ARP table. What `resolve` answers is what the table shows at the time of the call
(`resolve_spec`). Cleaning up takes out what is not shown any more, so it goes unnoticed
(`cleanups_unnoticed`), and what is shown is what was entered last (`resolve_latest`). -/

namespace Lwip

/-- The entry has outlived the timeout. -/
def ARPEntry.expired (entry : ARPEntry) (now : Time) : Bool :=
  !entry.isStatic && decide (now - entry.timestamp > entryTimeout)

theorem ARPEntry.lasting_expired : Lasting ARPEntry.expired := by
  intro entry t t' le old
  simp only [expired, Bool.and_eq_true, decide_eq_true_eq] at old ⊢
  exact ⟨old.1, lt_of_lt_of_le old.2 (Int.sub_le_sub_right le _)⟩

namespace ARPHandler

variable {h h' : ARPHandler} {now : Time}

/-- The two handlers cannot be told apart from `now` on. -/
def Same (now : Time) (h h' : ARPHandler) : Prop :=
  SameFrom ARPEntry.expired now h.arpTable h'.arpTable

/-- `resolve` answers from what the table shows, and does not change that. -/
theorem resolve_spec (h : ARPHandler) (now : Time) (ip : InetAddress) (mac : UInt64) :
    (h.resolve now ip mac).1 = (visible ARPEntry.expired h.arpTable ip.getIp now).isSome ∧
    (h.resolve now ip mac).2.1 =
      ((visible ARPEntry.expired h.arpTable ip.getIp now).map ARPEntry.macAddress).getD mac ∧
    Same now (h.resolve now ip mac).2.2 h := by
  cases held : h.arpTable[ip.getIp]? with
  | none =>
    rw [resolve, held, visible, held]
    exact ⟨rfl, rfl, .refl _⟩
  | some entry =>
    cases old : entry.expired now with
    | false =>
      have shown := visible_eq_some.mpr ⟨held, old⟩
      rw [ARPEntry.expired] at old
      rw [resolve, held, shown]
      dsimp only
      rw [if_neg (by rw [old]; exact Bool.false_ne_true)]
      exact ⟨rfl, rfl, .refl _⟩
    | true =>
      have gone := visible_eq_none.mpr (.inr ⟨entry, held, old⟩)
      rw [ARPEntry.expired] at old
      rw [resolve, held, gone]
      dsimp only
      rw [if_pos old]
      exact ⟨rfl, rfl, .erase ARPEntry.lasting_expired gone⟩

/-! ## Schedules -/

inductive Op where
  | addEntry (ip : InetAddress) (mac : UInt64) (isStatic : Bool)
  | resolve (ip : InetAddress) (mac : UInt64)
  | cleanupExpiredEntries

def Op.isCleanup : Op → Bool
  | .cleanupExpiredEntries => true
  | _ => false

/-- A call at a time: the object afterwards, and the answer of a `resolve`. -/
def exec (h : ARPHandler) (now : Time) : Op → Option (Bool × UInt64) × ARPHandler
  | .addEntry ip mac isStatic => (none, (h.addEntry now ip mac isStatic).2)
  | .resolve ip mac =>
    let r := h.resolve now ip mac
    (some (r.1, r.2.1), r.2.2)
  | .cleanupExpiredEntries => (none, h.cleanupExpiredEntries now)

/-- The answers of the `resolve` calls of a schedule: what each returns, and the address it leaves
in its argument. -/
def answers (h : ARPHandler) : List (Time × Op) → List (Bool × UInt64)
  | [] => []
  | (now, op) :: calls => (h.exec now op).1.toList ++ answers (h.exec now op).2 calls

theorem Same.cleanup (same : Same now h h') : Same now (h.cleanupExpiredEntries now) h' :=
  SameFrom.trans (.sweep ARPEntry.lasting_expired h.arpTable now) same

/-- Two handlers that show the same answer a call alike and go on showing the same. -/
theorem Same.exec (same : Same now h h') (op : Op) :
    (h.exec now op).1 = (h'.exec now op).1 ∧ Same now (h.exec now op).2 (h'.exec now op).2 := by
  cases op with
  | addEntry ip mac isStatic => exact ⟨rfl, SameFrom.insert same _ _⟩
  | resolve ip mac =>
    obtain ⟨found, address, after⟩ := h.resolve_spec now ip mac
    obtain ⟨found', address', after'⟩ := h'.resolve_spec now ip mac
    have shown := same ip.getIp now le_rfl
    refine ⟨congrArg some (Prod.ext ?_ ?_), SameFrom.trans (SameFrom.trans after same)
      (SameFrom.symm after')⟩
    · exact found.trans ((congrArg Option.isSome shown).trans found'.symm)
    · rw [shown] at address
      exact address.trans address'.symm
  | cleanupExpiredEntries => exact ⟨rfl, SameFrom.symm (Same.cleanup (SameFrom.symm same.cleanup))⟩

theorem Same.answers {calls : List (Time × Op)} (same : Same now h h')
    (later : ∀ call ∈ calls, now ≤ call.1)
    (times : calls.Pairwise fun call call' => call.1 ≤ call'.1) :
    h.answers calls = h'.answers (calls.filter fun call => !call.2.isCleanup) := by
  induction calls generalizing h h' now with
  | nil => rfl
  | cons call calls ih =>
    obtain ⟨t, op⟩ := call
    obtain ⟨after, rest⟩ := List.pairwise_cons.mp times
    have same : Same t h h' := SameFrom.later same (later _ List.mem_cons_self)
    cases cleanup : op.isCleanup with
    | true =>
      cases op with
      | cleanupExpiredEntries =>
        rw [List.filter_cons_of_neg (by simp [cleanup])]
        exact ih same.cleanup after rest
      | addEntry | resolve => cases cleanup
    | false =>
      obtain ⟨answer, next⟩ := same.exec op
      rw [List.filter_cons_of_pos (by simp [cleanup]), ARPHandler.answers, ARPHandler.answers,
        answer, ih next after rest]

/-- A schedule is answered as it is without its cleanups. -/
theorem cleanups_unnoticed (h : ARPHandler) {calls : List (Time × Op)}
    (times : calls.Pairwise fun call call' => call.1 ≤ call'.1) :
    h.answers calls = h.answers (calls.filter fun call => !call.2.isCleanup) := by
  cases calls with
  | nil => rfl
  | cons call calls =>
    refine @Same.answers h h call.1 _ (SameFrom.refl _) (fun call' mem => ?_) times
    rcases List.mem_cons.mp mem with rfl | mem
    · exact le_rfl
    · exact (List.pairwise_cons.mp times).1 call' mem

/-- Cleanups on either side of the moment at which an entry expires. -/
theorem cleanups_unnoticed_boundary :
    ARPHandler.answers {} [(0, .addEntry { ip := 1 } 7 false),
      (entryTimeout, .cleanupExpiredEntries), (entryTimeout, .resolve { ip := 1 } 0),
      (entryTimeout + 1, .cleanupExpiredEntries), (entryTimeout + 1, .resolve { ip := 1 } 0)] =
    ARPHandler.answers {} [(0, .addEntry { ip := 1 } 7 false),
      (entryTimeout, .resolve { ip := 1 } 0), (entryTimeout + 1, .resolve { ip := 1 } 0)] :=
  cleanups_unnoticed {} (by decide)

/-! ## What a lookup finds -/

/-- What a call enters. -/
def added : Time × Op → Option (UInt32 × ARPEntry)
  | (now, .addEntry ip mac isStatic) => some (ip.getIp, ⟨mac, now, isStatic⟩)
  | _ => none

/-- The handler after some calls. -/
def after (h : ARPHandler) (calls : List (Time × Op)) : ARPHandler :=
  calls.foldl (fun h call => (h.exec call.1 call.2).2) h

theorem exec_enters (h : ARPHandler) (call : Time × Op) :
    SameFrom ARPEntry.expired call.1 (h.exec call.1 call.2).2.arpTable
      ((added call).elim h.arpTable fun e => h.arpTable.insert e.1 e.2) := by
  obtain ⟨now, op⟩ := call
  cases op with
  | addEntry ip mac isStatic => exact .refl _
  | resolve ip mac => exact (h.resolve_spec now ip mac).2.2
  | cleanupExpiredEntries => exact .sweep ARPEntry.lasting_expired h.arpTable now

/-- Whatever was called before, `resolve` answers with the address entered last for `ip`, unless
that entry has outlived the timeout. -/
theorem resolve_latest {calls : List (Time × Op)}
    (times : calls.Pairwise fun call call' => call.1 ≤ call'.1)
    (last : ∀ call ∈ calls, call.1 ≤ now) (ip : InetAddress) (mac : UInt64) :
    ((after {} calls).exec now (.resolve ip mac)).1 =
      match (latest (calls.filterMap added) ip.getIp).filter fun entry => !entry.expired now with
      | some entry => some (true, entry.macAddress)
      | none => some (false, mac) := by
  have shows : SameFrom ARPEntry.expired now (after {} calls).arpTable
      (filled compare (calls.filterMap added)) := SameFrom.of_calls exec_enters rfl times last
  obtain ⟨found, address, -⟩ := (after {} calls).resolve_spec now ip mac
  have answer := SameFrom.visible_filled shows ip.getIp le_rfl
  rw [answer] at found address
  rw [ARPHandler.exec]
  dsimp only
  rw [found, address]
  cases (latest (calls.filterMap added) ip.getIp).filter fun entry => !entry.expired now <;> rfl

/-- The second entry stands, and it is static. -/
theorem resolve_latest_static :
    ((after {} [(0, .addEntry { ip := 1 } 7 false), (1, .addEntry { ip := 1 } 8 true),
      (2 * entryTimeout, .cleanupExpiredEntries)]).exec (3 * entryTimeout)
        (.resolve { ip := 1 } 0)).1 = some (true, 8) :=
  resolve_latest (by decide) (by decide) { ip := 1 } 0

end ARPHandler

end Lwip
