import TestQueue.Proofs.JobQueue.Moves
import TestQueue.Proofs.JobQueue.Record

/-!
How many results a job can still get: one for each bucket that is waiting or out, and one more for
each of its retries.
-/

namespace TestQueue

namespace Bucket

def attempts (p : Bucket) : ℕ := p.remainingRetries.toNat + 1

variable {p p' : Bucket} {id : BucketId} {tests : List TestEntry}

lemma remaining_residual? (h : p.residual? id tests = some p') :
    p'.remainingRetries.toNat + 1 = p.remainingRetries.toNat := by
  unfold residual? at h
  split at h
  · cases h
  · rename_i hne
    obtain rfl := Option.some.inj h
    have hpos : 1 ≤ p.remainingRetries.toNat := by
      rw [Nat.one_le_iff_ne_zero]
      exact fun h0 => hne (UInt32.toNat_inj.1 h0)
    change (p.remainingRetries - 1).toNat + 1 = p.remainingRetries.toNat
    rw [UInt32.toNat_sub_of_le _ _ (UInt32.le_iff_toNat_le.2 (by simpa using hpos))]
    exact Nat.sub_add_cancel hpos

lemma attempts_residual? (h : p.residual? id tests = some p') : p'.attempts + 1 = p.attempts := by
  rw [attempts, attempts, remaining_residual? h]

lemma behavior_residual? (h : p.residual? id tests = some p') : p'.behavior = p.behavior := by
  unfold residual? at h
  split at h
  · cases h
  · obtain rfl := Option.some.inj h
    rfl

end Bucket

namespace JobQueue

variable {q q' : JobQueue}

def budget (q : JobQueue) : ℕ := (q.openBuckets.map Bucket.attempts).sum

lemma budget_of_perm (h : q'.openBuckets.Perm q.openBuckets) : q'.budget = q.budget :=
  (h.map Bucket.attempts).sum_eq

lemma budget_le_of_subperm (h : q'.openBuckets.Subperm q.openBuckets) : q'.budget ≤ q.budget := by
  obtain ⟨l, hp, hs⟩ := h
  rw [budget, ← (hp.map Bucket.attempts).sum_eq]
  exact (hs.map Bucket.attempts).sum_le_sum fun _ _ => Nat.zero_le _

lemma budget_afterRecord {h : HandOut} {result : BucketResult} (hs : q.Sound)
    (residual : Option Bucket) (hh : h ∈ q.handOuts) (hid : result.bucketId = h.bucket.bucketId) :
    (q.afterRecord h result residual).budget + h.bucket.attempts =
      q.budget + (residual.toList.map Bucket.attempts).sum := by
  have hp := (openBuckets_afterRecord hs residual hh hid).map Bucket.attempts
  rw [List.map_append, List.map_append] at hp
  have hsum := hp.sum_eq
  rwa [List.sum_append, List.sum_append, List.map_singleton, List.sum_singleton] at hsum

/-- A result takes the attempts of its bucket, and its retry brings all of them but one. -/
lemma budget_afterRecord_lt {h : HandOut} {result : BucketResult} (hs : q.Sound) (ids : IdSource)
    (hh : h ∈ q.handOuts) (hid : result.bucketId = h.bucket.bucketId) :
    (q.afterRecord h result (q.residual? h result ids)).budget + 1 ≤ q.budget := by
  have hsum := budget_afterRecord hs (q.residual? h result ids) hh hid
  have hle : ((q.residual? h result ids).toList.map Bucket.attempts).sum + 1 ≤
      h.bucket.attempts := by
    cases hr : q.residual? h result ids with
    | none => exact Nat.succ_le_succ (Nat.zero_le _)
    | some p => exact (Bucket.attempts_residual? (residual?_eq_some hr).2).le
  omega

def granted (buckets : List Bucket) : ℕ :=
  (buckets.map fun p => p.behavior.numberOfRetries.toNat + 1).sum

lemma granted_append (l l' : List Bucket) : granted (l ++ l') = granted l + granted l' := by
  rw [granted, List.map_append, List.sum_append]
  rfl

structure Thrifty (q : JobQueue) (n : ℕ) : Prop where
  within : q.finished.length + q.budget ≤ n
  retries : ∀ p ∈ q.openBuckets, p.remainingRetries ≤ p.behavior.numberOfRetries

lemma thrifty_new (job : PrioritizedJob) : (new job).Thrifty 0 where
  within := Nat.le_refl 0
  retries p hp := by cases hp

section

variable {n : ℕ} (h : q.Thrifty n)

include h

lemma Thrifty.enqueue {buckets : List Bucket}
    (hb : ∀ p ∈ buckets, p.remainingRetries = p.behavior.numberOfRetries) :
    (q.enqueue buckets).Thrifty (n + granted buckets) where
  within := by
    have hp := (q.openBuckets_enqueue buckets).map Bucket.attempts
    have hnew : (buckets.map Bucket.attempts).sum = granted buckets := by
      congr 1
      refine List.map_congr_left fun p hp => ?_
      rw [Bucket.attempts, hb p hp]
    have hw := h.within
    change q.finished.length + (q.enqueue buckets).budget ≤ n + granted buckets
    rw [budget, hp.sum_eq, List.map_append, List.sum_append, hnew, ← budget]
    omega
  retries p hp := by
    rcases List.mem_append.1 ((q.openBuckets_enqueue buckets).subset hp) with hp | hp
    · exact h.retries p hp
    · exact hb p hp ▸ UInt32.le_refl _

lemma Thrifty.move (hf : q'.finished = q.finished) (ho : q'.openBuckets.Subperm q.openBuckets) :
    q'.Thrifty n where
  within := by
    rw [hf]
    exact (Nat.add_le_add_left (budget_le_of_subperm ho) _).trans h.within
  retries p hp := h.retries p (ho.subset hp)

lemma Thrifty.afterRecord {k : HandOut} {result : BucketResult} (hs : q.Sound) (ids : IdSource)
    (hk : k ∈ q.handOuts) (hid : result.bucketId = k.bucket.bucketId) :
    (q.afterRecord k result (q.residual? k result ids)).Thrifty n where
  within := by
    have hlt := budget_afterRecord_lt hs ids hk hid
    have hw := h.within
    have hlen : (q.afterRecord k result (q.residual? k result ids)).finished.length =
        q.finished.length + 1 := List.length_append
    omega
  retries p hp := by
    have hmoved := openBuckets_afterRecord hs (q.residual? k result ids) hk hid
    rcases List.mem_append.1 (hmoved.subset (List.mem_append_left _ hp)) with hp | hp
    · exact h.retries p hp
    · have hr := (residual?_eq_some (Option.mem_toList.1 hp)).2
      have hle := h.retries k.bucket (mem_openBuckets_of_handOut hk)
      have hlt := Bucket.remaining_residual? hr
      rw [Bucket.behavior_residual? hr, UInt32.le_iff_toNat_le]
      rw [UInt32.le_iff_toNat_le] at hle
      omega

end

end JobQueue

end TestQueue
