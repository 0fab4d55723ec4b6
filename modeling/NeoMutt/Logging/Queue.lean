import NeoMutt.Logging.Basic

/-! # The record queue

`log_queue_add` appends at the tail and, when a positive limit `LogQueueMax` is reached,
drops the head. `LogQueueCount` is a C `int` kept beside the list: the model wraps it as the
machine does and records the signed overflow as undefined behaviour.
-/
namespace NeoMutt.Logging

/-- `log_queue_add`: append a record; when a positive limit is reached, drop the oldest. -/
def logQueueAdd (ll : LogLine) (s : State) : ℤ × State :=
  if 0 < s.queue.logQueueMax ∧ s.queue.logQueueMax ≤ s.queue.logQueueCount then
    (s.queue.logQueueCount, { s with queue.logQueue := (s.queue.logQueue ++ [ll]).tail })
  else
    (cInt (s.queue.logQueueCount + 1),
      { s with queue := ⟨s.queue.logQueue ++ [ll], cInt (s.queue.logQueueCount + 1),
                         s.queue.logQueueMax⟩ }.ub (INT_MAX < s.queue.logQueueCount + 1))

def logQueueSetMaxSize (size : ℤ) (s : State) : State :=
  { s with queue.logQueueMax := if size < 0 then 0 else size }

def logQueueEmpty (s : State) : State :=
  { s with queue := { s.queue with logQueue := [], logQueueCount := 0 } }

section Frame
variable {ll : LogLine} {s : State}

@[simp] theorem logQueueAdd_fst : (logQueueAdd ll s).1 = (logQueueAdd ll s).2.queue.logQueueCount := by
  unfold logQueueAdd; split <;> rfl

theorem logQueueAdd_frame : ∃ q f, (logQueueAdd ll s).2 = { s with queue := q, fault := f } := by
  unfold logQueueAdd; split <;> exact ⟨_, _, rfl⟩

@[simp] theorem logQueueAdd_logQueueMax :
    (logQueueAdd ll s).2.queue.logQueueMax = s.queue.logQueueMax := by
  unfold logQueueAdd; split <;> rfl

theorem logQueueAdd_fault_of (h : s.fault = true) : (logQueueAdd ll s).2.fault = true := by
  unfold logQueueAdd; split <;> simp [h]

theorem logQueueAdd_fault_of_lt (h : s.queue.logQueueCount < INT_MAX) :
    (logQueueAdd ll s).2.fault = s.fault := by
  unfold logQueueAdd
  split
  · rfl
  · simp [show ¬INT_MAX < s.queue.logQueueCount + 1 by omega]

/-- Under no limit, an insertion at `LogQueueCount = INT_MAX` overflows the count to `INT_MIN`. -/
theorem logQueueAdd_overflow (h0 : s.queue.logQueueMax = 0) (h : s.queue.logQueueCount = INT_MAX) :
    (logQueueAdd ll s).2.fault = true ∧ (logQueueAdd ll s).1 = -2 ^ 31 ∧
    (logQueueAdd ll s).2.queue.logQueue = s.queue.logQueue ++ [ll] := by
  unfold logQueueAdd
  rw [if_neg (by rw [h0]; exact fun h => Int.lt_irrefl 0 h.1), h]
  exact ⟨by simp [Int.lt_succ], (by decide : cInt (INT_MAX + 1) = -2 ^ 31), rfl⟩

theorem logQueueAdd_queue_congr {t : State} (h : s.queue = t.queue) :
    (logQueueAdd ll s).2.queue = (logQueueAdd ll t).2.queue := by
  unfold logQueueAdd; rw [h]; split <;> rfl

end Frame

/-- `LogQueueCount` is the length of the queue, wrapped to an `int`. -/
def CountOk (q : QueueState) : Prop := q.logQueueCount = cInt q.logQueue.length

theorem CountOk.logQueueAdd {s : State} (h : CountOk s.queue) (ll : LogLine) :
    CountOk (logQueueAdd ll s).2.queue := by
  unfold CountOk at *
  unfold Logging.logQueueAdd
  split
  · next hmax =>
    cases hq : s.queue.logQueue with
    | nil => simp only [hq, h, List.length_nil] at hmax; unfold cInt at hmax; omega
    | cons a q => simpa [hq] using h
  · simp [h, cInt_succ_cInt]

theorem CountOk.logQueueEmpty {s : State} : CountOk (logQueueEmpty s).queue := by
  simp only [CountOk, Logging.logQueueEmpty, List.length_nil, cInt]; omega

/-- The last `n` elements, or all of them when `n` is 0 (no limit). -/
def keepLast {α : Type} (n : ℕ) (xs : List α) : List α :=
  if 0 < n ∧ n < xs.length then xs.drop (xs.length - n) else xs

@[simp] theorem keepLast_nil {α : Type} (n : ℕ) : keepLast n ([] : List α) = [] := by
  simp [keepLast]

theorem keepLast_of_length_le {α : Type} (n : ℕ) {xs : List α} (h : xs.length ≤ n) :
    keepLast n xs = xs :=
  if_neg (by omega)

theorem keepLast_length_le {α : Type} {n : ℕ} (hn : 0 < n) (xs : List α) :
    (keepLast n xs).length ≤ n := by
  unfold keepLast; split
  · simp; omega
  · omega

theorem keepLast_snoc {α : Type} {n : ℕ} (hn : 0 < n) (xs : List α) (x : α) :
    keepLast n (xs ++ [x]) =
      if (keepLast n xs).length < n then keepLast n xs ++ [x] else (keepLast n xs ++ [x]).tail := by
  rcases Nat.lt_or_ge n xs.length with hlt | hge
  · have hk : keepLast n xs = xs.drop (xs.length - n) := if_pos ⟨hn, hlt⟩
    rw [hk, if_neg (by simp; omega), keepLast, if_pos ⟨hn, by simp; omega⟩, ← List.drop_one,
      ← List.drop_append_of_le_length (by omega), List.drop_drop]
    simp only [List.length_append, List.length_singleton]
    congr 1; omega
  · rw [keepLast_of_length_le _ hge]
    rcases Nat.lt_or_ge xs.length n with hlt | hle
    · rw [if_pos hlt, keepLast_of_length_le _ (by simp; omega)]
    · rw [if_neg (by omega), keepLast, if_pos ⟨hn, by simp; omega⟩]
      simp only [List.length_append, List.length_singleton, ← List.drop_one]
      congr 1; omega

/-- One step of the eviction law: a queue holding the last `N` records added keeps doing so. -/
theorem logQueueAdd_keepLast {s : State} {rs : List LogLine} (hc : CountOk s.queue)
    (h0 : 0 ≤ s.queue.logQueueMax) (hN : s.queue.logQueueMax ≤ INT_MAX)
    (hq : s.queue.logQueue = keepLast s.queue.logQueueMax.toNat rs) (ll : LogLine) :
    (logQueueAdd ll s).2.queue.logQueue = keepLast s.queue.logQueueMax.toNat (rs ++ [ll]) := by
  unfold logQueueAdd
  rcases (show s.queue.logQueueMax = 0 ∨ 0 < s.queue.logQueueMax by omega) with hz | hpos
  · rw [if_neg (by omega)]
    simp only [State.ub, hq, hz, keepLast, Int.toNat_zero, lt_self_iff_false, false_and, if_false]
  · have hn : 0 < s.queue.logQueueMax.toNat := by omega
    have hlen := keepLast_length_le hn rs
    have hcount : s.queue.logQueueCount = s.queue.logQueue.length := by
      rw [hc, cInt_of_le (by omega) (by rw [hq]; omega)]
    rw [keepLast_snoc hn, ← hq]
    by_cases hfull : s.queue.logQueueMax ≤ s.queue.logQueueCount
    · rw [if_pos ⟨hpos, hfull⟩, if_neg (by rw [← hq] at hlen; omega)]
    · rw [if_neg (by omega), if_pos (by rw [← hq] at hlen; omega)]
      rfl

end NeoMutt.Logging
