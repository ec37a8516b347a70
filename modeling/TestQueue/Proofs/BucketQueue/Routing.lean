import TestQueue.Proofs.JobQueue.Moves
import TestQueue.Proofs.JobQueue.Record
import TestQueue.Queue.BucketQueue

namespace TestQueue

def JobQueue.isClosed (q : JobQueue) : Bool := q.deleted && q.isDrained

lemma JobQueue.isClosed_iff {q : JobQueue} :
    q.isClosed = true ↔ q.deleted = true ∧ q.pending = [] ∧ q.handOuts = [] := by
  rw [isClosed, Bool.and_eq_true, isDrained_iff]

namespace BucketQueue

def handOuts (q : BucketQueue) : List HandOut := q.jobs.values.flatMap JobQueue.handOuts

lemma mem_handOuts_iff {q : BucketQueue} {h : HandOut} :
    h ∈ q.handOuts ↔ ∃ j jq, q.jobs.find? j = some jq ∧ h ∈ jq.handOuts := by
  simp only [handOuts, List.mem_flatMap, Table.mem_values_iff]
  constructor
  · rintro ⟨jq, ⟨j, hj⟩, hh⟩
    exact ⟨j, jq, hj, hh⟩
  · rintro ⟨j, jq, hj, hh⟩
    exact ⟨jq, ⟨j, hj⟩, hh⟩

structure Routed (q : BucketQueue) (ids : IdSource) : Prop where
  named : ∀ j jq, q.jobs.find? j = some jq → jq.job.jobId = j
  jobs : ∀ j jq, q.jobs.find? j = some jq → jq.Sound
  routed : ∀ j jq b, q.jobs.find? j = some jq → b ∈ jq.bucketIds → q.owners.find? b = some j
  present : ∀ b j, q.owners.find? b = some j → ∃ jq, q.jobs.find? j = some jq
  drawn : ∀ b j, q.owners.find? b = some j → ids.Drawn b.text

structure Sound (q : BucketQueue) (ids : IdSource) : Prop extends Routed q ids where
  settled : ∀ j jq, q.jobs.find? j = some jq → jq.isClosed = false

lemma sound_empty (ids : IdSource) : empty.Sound ids where
  named j jq h := by simp [empty] at h
  jobs j jq h := by simp [empty] at h
  routed j jq b h := by simp [empty] at h
  present b j h := by simp [empty] at h
  drawn b j h := by simp [empty] at h
  settled j jq h := by simp [empty] at h

lemma Routed.job_unique {q : BucketQueue} {ids : IdSource} (hs : q.Routed ids) {j k : JobId}
    {jq kq : JobQueue} {b : BucketId} (hj : q.jobs.find? j = some jq)
    (hk : q.jobs.find? k = some kq) (hb : b ∈ jq.bucketIds) (hb' : b ∈ kq.bucketIds) : j = k :=
  Option.some.inj ((hs.routed j jq b hj hb).symm.trans (hs.routed k kq b hk hb'))

lemma Routed.advance {q : BucketQueue} {ids : IdSource} (hs : q.Routed ids) (n : ℕ) :
    q.Routed (ids.advance n) :=
  { hs with drawn := fun b j h => (hs.drawn b j h).advance n }

lemma Sound.advance {q : BucketQueue} {ids : IdSource} (hs : q.Sound ids) (n : ℕ) :
    q.Sound (ids.advance n) :=
  { hs.toRouted.advance n with settled := hs.settled }

lemma Sound.out_of_deleted {q : BucketQueue} {ids : IdSource} (hs : q.Sound ids) {j : JobId}
    {jq : JobQueue} (hj : q.jobs.find? j = some jq) (hd : jq.deleted = true) :
    jq.handOuts ≠ [] := by
  intro hn
  have hopen := hs.settled j jq hj
  rw [← Bool.not_eq_true, JobQueue.isClosed_iff] at hopen
  exact hopen ⟨hd, (hs.jobs j jq hj).dropped hd, hn⟩

lemma Routed.replace {q q' : BucketQueue} {ids ids' : IdSource} {j : JobId} {jq : JobQueue}
    (hs : q.Routed ids)
    (hjobs : ∀ k, q'.jobs.find? k = if k = j then some jq else q.jobs.find? k)
    (hn : jq.job.jobId = j) (hq : jq.Sound)
    (hr : ∀ b ∈ jq.bucketIds, q'.owners.find? b = some j)
    (ho : ∀ b, q'.owners.find? b = q.owners.find? b ∨
      q'.owners.find? b = some j ∧ ¬ ids.Drawn b.text ∧ ids'.Drawn b.text)
    (hd : ∀ t, ids.Drawn t → ids'.Drawn t) : q'.Routed ids' where
  named k kq hk := by
    rw [hjobs] at hk
    split at hk
    · rename_i he
      obtain rfl := Option.some.inj hk
      exact hn.trans he.symm
    · exact hs.named k kq hk
  jobs k kq hk := by
    rw [hjobs] at hk
    split at hk
    · obtain rfl := Option.some.inj hk
      exact hq
    · exact hs.jobs k kq hk
  routed k kq b hk hb := by
    rw [hjobs] at hk
    split at hk
    · rename_i he
      obtain rfl := Option.some.inj hk
      exact he ▸ hr b hb
    · have hb' := hs.routed k kq b hk hb
      rcases ho b with he | he
      · rw [he, hb']
      · exact absurd (hs.drawn b k hb') he.2.1
  present b k hk := by
    rw [hjobs]
    split
    · exact ⟨jq, rfl⟩
    · rename_i hne
      rcases ho b with he | he
      · exact hs.present b k (he ▸ hk)
      · exact absurd (Option.some.inj (hk.symm.trans he.1)) hne
  drawn b k hk := by
    rcases ho b with he | he
    · exact hd _ (hs.drawn b k (he ▸ hk))
    · exact he.2.2

lemma find?_finalize (q : BucketQueue) (j k : JobId) : (q.finalize j).jobs.find? k =
    if k = j then (q.jobs.find? k).filter (fun jq => !jq.isClosed) else q.jobs.find? k := by
  unfold finalize
  split
  · rename_i jq hj
    split
    · rename_i hc
      simp only [Table.find?_erase]
      split
      · rename_i he
        rw [he, hj, Option.filter_some, JobQueue.isClosed, hc]
        rfl
      · rfl
    · rename_i hc
      split
      · rename_i he
        rw [he, hj, Option.filter_some, JobQueue.isClosed, Bool.not_eq_true] at *
        rw [hc]
        rfl
      · rfl
  · rename_i hj
    split
    · rename_i he
      rw [he, hj]
      rfl
    · rfl

lemma finalize_eq_self {q : BucketQueue} {j : JobId}
    (hc : ∀ jq, q.jobs.find? j = some jq → jq.isClosed = false) : q.finalize j = q := by
  unfold finalize
  split
  · rename_i jq hj
    have hf := hc jq hj
    rw [JobQueue.isClosed] at hf
    rw [hf]
    rfl
  · rfl

lemma of_find?_finalize {q : BucketQueue} {j k : JobId} {jq : JobQueue}
    (h : (q.finalize j).jobs.find? k = some jq) :
    q.jobs.find? k = some jq ∧ (k = j → jq.isClosed = false) := by
  rw [find?_finalize] at h
  split at h
  · obtain ⟨hf, hc⟩ := Option.filter_eq_some_iff.1 h
    exact ⟨hf, fun _ => by simpa using hc⟩
  · rename_i hne
    exact ⟨h, fun he => absurd he hne⟩

lemma of_owners_finalize {q : BucketQueue} {j k : JobId} {b : BucketId}
    (h : (q.finalize j).owners.find? b = some k) : q.owners.find? b = some k := by
  revert h
  unfold BucketQueue.finalize
  split
  · split
    · intro h
      simp only [Table.find?_filter, Option.filter_eq_some_iff] at h
      exact h.1
    · exact id
  · exact id

lemma Routed.finalize {q : BucketQueue} {ids : IdSource} (hs : q.Routed ids) (j : JobId) :
    (q.finalize j).Routed ids where
  named k kq hk := hs.named k kq (of_find?_finalize hk).1
  jobs k kq hk := hs.jobs k kq (of_find?_finalize hk).1
  routed k kq b hk hb := by
    have ho := hs.routed k kq b (of_find?_finalize hk).1 hb
    revert hk
    unfold BucketQueue.finalize
    split
    · split
      · intro hk
        have hne : k ≠ j := by
          rintro rfl
          simp at hk
        simp [ho, hne]
      · exact fun _ => ho
    · exact fun _ => ho
  present b k hk := by
    revert hk
    unfold BucketQueue.finalize
    split
    · split
      · intro hk
        simp only [Table.find?_filter, Option.filter_eq_some_iff, decide_eq_true_eq] at hk
        obtain ⟨kq, hkq⟩ := hs.present b k hk.1
        exact ⟨kq, by simp [hk.2, hkq]⟩
      · exact hs.present b k
    · exact hs.present b k
  drawn b k hk := hs.drawn b k (of_owners_finalize hk)

lemma mem_handOuts_finalize {q : BucketQueue} {j : JobId} {h : HandOut} :
    h ∈ (q.finalize j).handOuts ↔ h ∈ q.handOuts := by
  simp only [mem_handOuts_iff]
  constructor
  · rintro ⟨k, kq, hk, hh⟩
    exact ⟨k, kq, (of_find?_finalize hk).1, hh⟩
  · rintro ⟨k, kq, hk, hh⟩
    refine ⟨k, kq, ?_, hh⟩
    have hc : kq.isClosed = false := by
      rw [← Bool.not_eq_true, JobQueue.isClosed_iff]
      rintro ⟨-, -, hn⟩
      simp [hn] at hh
    rw [find?_finalize, hk]
    simp [hc]

lemma Routed.sound_finalize {q : BucketQueue} {ids : IdSource} {j : JobId} (hs : q.Routed ids)
    (hc : ∀ k kq, k ≠ j → q.jobs.find? k = some kq → kq.isClosed = false) :
    (q.finalize j).Sound ids where
  toRouted := hs.finalize j
  settled k kq hk := by
    obtain ⟨hf, he⟩ := of_find?_finalize hk
    by_cases hkj : k = j
    · exact he hkj
    · exact hc k kq hkj hf

end BucketQueue

end TestQueue
