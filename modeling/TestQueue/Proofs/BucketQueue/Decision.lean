import TestQueue.Proofs.BucketQueue.Operations

/-!
What a fetch is answered with, said without any order of the jobs or of what is out: the bucket that
is out under the same request, else the front of the job that comes first, else nothing.
-/

namespace TestQueue

open Time (Instant)

lemma PrioritizedJob.servedBefore_iff {a b : PrioritizedJob} : a.servedBefore b = true ↔
    b.priority.toNat < a.priority.toNat ∨
      b.priority.toNat = a.priority.toNat ∧ a.sequence < b.sequence := by
  simp only [servedBefore, serviceOrder, decide_eq_true_eq, Ordering.then_eq_lt,
    Nat.compare_eq_lt, Nat.compare_eq_eq]

namespace BucketQueue

variable {q : BucketQueue} {j k : JobId} {jq : JobQueue} {w : WorkerId} {r : RequestId}
  {now : Instant}

structure ComesFirst (q : BucketQueue) (j : JobId) (jq : JobQueue) : Prop where
  present : q.jobs.find? j = some jq
  waiting : jq.pending ≠ []
  first : ∀ k kq, k ≠ j → q.jobs.find? k = some kq → kq.pending ≠ [] →
    kq.job.priority < jq.job.priority ∨
      kq.job.priority = jq.job.priority ∧ jq.job.sequence < kq.job.sequence

def NothingWaits (q : BucketQueue) : Prop := ∀ j jq, q.jobs.find? j = some jq → jq.pending = []

inductive Decision (q : BucketQueue) (w : WorkerId) (r : RequestId) (now : Instant) :
    Dequeued × BucketQueue → Prop
  | again {h : HandOut} (out : h ∈ q.handOuts) (isFor : h.isFor w r = true) :
      Decision q w r now (.handedOut h, q)
  | front {j : JobId} {jq : JobQueue} {bucket : Bucket} {rest : List Bucket}
      (new : ∀ h ∈ q.handOuts, h.isFor w r = false) (first : q.ComesFirst j jq)
      (pending : jq.pending = bucket :: rest) :
      Decision q w r now (.handedOut ⟨bucket, w, r, now⟩,
        q.put j (jq.afterHandOut rest ⟨bucket, w, r, now⟩))
  | later (new : ∀ h ∈ q.handOuts, h.isFor w r = false) (idle : q.NothingWaits)
      (out : q.handOuts ≠ []) : Decision q w r now (.checkAgainLater, q)
  | exhausted (idle : q.NothingWaits) (out : q.handOuts = []) : Decision q w r now (.exhausted, q)

def Entry (q : BucketQueue) (j : JobId) (b : BucketId) (h : HandOut) : Prop :=
  ∃ jq n, q.jobs.find? j = some jq ∧ jq.outstanding.find? b = some ⟨n, h⟩

lemma mem_handOuts_iff_entry {h : HandOut} : h ∈ q.handOuts ↔ ∃ j b, q.Entry j b h := by
  simp only [mem_handOuts_iff, JobQueue.mem_handOuts_iff, Entry]
  constructor
  · rintro ⟨j, jq, hj, b, n, hb⟩
    exact ⟨j, b, jq, n, hj, hb⟩
  · rintro ⟨j, b, jq, n, hj, hb⟩
    exact ⟨j, jq, hj, b, n, hb⟩

structure Ranked (q : BucketQueue) : Prop where
  named : ∀ j jq, q.jobs.find? j = some jq → jq.job.jobId = j
  numbered : ∀ j jq, q.jobs.find? j = some jq → jq.job.sequence < q.nextSequence
  distinct : ∀ j k jq kq, q.jobs.find? j = some jq → q.jobs.find? k = some kq →
    jq.job.sequence = kq.job.sequence → j = k
  single : ∀ i j b c h k, q.Entry i b h → q.Entry j c k → h.workerId = k.workerId →
    h.requestId = k.requestId → i = j ∧ b = c

lemma not_servedBefore_of_better {a b c : JobQueue}
    (h : (better a b).job.servedBefore c.job = false) :
    a.job.servedBefore c.job = false ∧ b.job.servedBefore c.job = false := by
  unfold better at h
  simp only [← Bool.not_eq_true, PrioritizedJob.servedBefore_iff] at h ⊢
  split at h <;> omega

lemma not_servedBefore_foldl_better (a : JobQueue) (l : List JobQueue) :
    ∀ b ∈ a :: l, b.job.servedBefore (l.foldl better a).job = false := by
  induction l generalizing a with
  | nil =>
    intro b hb
    obtain rfl := List.mem_singleton.1 hb
    simp [← Bool.not_eq_true, PrioritizedJob.servedBefore_iff]
  | cons c l ih =>
    intro b hb
    have hboth := not_servedBefore_of_better (ih (better a c) _ List.mem_cons_self)
    have hmem : b = a ∨ b = c ∨ b ∈ l := by simpa using hb
    rcases hmem with rfl | rfl | hb
    · exact hboth.1
    · exact hboth.2
    · exact ih (better a c) b (List.mem_cons_of_mem _ hb)

lemma next?_eq_none : q.next? = none ↔ q.NothingWaits := by
  have hnil : q.next? = none ↔ q.jobs.values.filter (·.hasPending) = [] := by
    unfold next? first?
    split
    · rename_i hn
      simp [hn]
    · rename_i hn
      simp [hn]
  simp only [hnil, List.filter_eq_nil_iff, NothingWaits, Table.mem_values_iff]
  constructor
  · intro h j jq hj
    simpa [JobQueue.hasPending] using h jq ⟨j, hj⟩
  · rintro h jq ⟨j, hj⟩
    simpa [JobQueue.hasPending] using h j jq hj

lemma any_hasOutstanding : q.jobs.values.any (·.hasOutstanding) = true ↔ q.handOuts ≠ [] := by
  have hjob (jq : JobQueue) : jq.hasOutstanding = true ↔ jq.handOuts ≠ [] := by
    simp [JobQueue.hasOutstanding, JobQueue.handOuts, Table.values]
  simp only [List.any_eq_true, hjob, handOuts, ne_eq, List.flatMap_eq_nil_iff, not_forall,
    exists_prop]

lemma ComesFirst.unique {kq : JobQueue} (hj : q.ComesFirst j jq) (hk : q.ComesFirst k kq) :
    j = k := by
  by_contra hne
  have h₁ := hj.first k kq (Ne.symm hne) hk.present hk.waiting
  have h₂ := hk.first j jq hne hj.present hj.waiting
  simp only [UInt32.lt_iff_toNat_lt, ← UInt32.toNat_inj] at h₁ h₂
  omega

namespace Ranked

variable (hq : q.Ranked)

include hq

lemma comesFirst_of_next? (h : q.next? = some jq) : q.ComesFirst jq.job.jobId jq := by
  obtain ⟨hm, hp⟩ := next?_eq_some h
  obtain ⟨j, hj⟩ := Table.mem_values_iff.1 hm
  obtain rfl := hq.named j jq hj
  refine ⟨hj, by simpa [JobQueue.hasPending] using hp, fun k kq hne hk hw => ?_⟩
  have hbest : kq.job.servedBefore jq.job = false := by
    unfold next? first? at h
    split at h
    · cases h
    · rename_i a l hl
      obtain rfl := Option.some.inj h
      apply not_servedBefore_foldl_better
      rw [← hl, List.mem_filter]
      exact ⟨Table.mem_values_iff.2 ⟨k, hk⟩, by simpa [JobQueue.hasPending] using hw⟩
  have hseq : kq.job.sequence ≠ jq.job.sequence := fun he => hne (hq.distinct _ _ _ _ hk hj he)
  rw [← Bool.not_eq_true, PrioritizedJob.servedBefore_iff] at hbest
  rw [UInt32.lt_iff_toNat_lt, ← UInt32.toNat_inj]
  omega

lemma decision (w : WorkerId) (r : RequestId) (now : Instant) :
    q.Decision w r now (q.dequeue w r now) := by
  cases hp : q.previous? w r with
  | some h =>
    obtain ⟨hm, hf⟩ := isFor_of_previous? hp
    simp only [dequeue, hp]
    exact .again hm hf
  | none =>
    have hnew := previous?_eq_none_iff.1 hp
    cases hx : q.next? with
    | some jq =>
      obtain ⟨bucket, rest, hb, hd⟩ := dequeue_of_next? hp hx now
      rw [hd]
      exact .front hnew (hq.comesFirst_of_next? hx) hb
    | none =>
      have hidle := next?_eq_none.1 hx
      simp only [dequeue, hp, hx]
      split
      · exact .later hnew hidle (any_hasOutstanding.1 ‹_›)
      · exact .exhausted hidle (not_not.1 (mt any_hasOutstanding.2 ‹_›))

lemma handOut_unique {h k : HandOut} (hh : h ∈ q.handOuts) (hk : k ∈ q.handOuts)
    (hw : h.isFor w r = true) (hw' : k.isFor w r = true) : h = k := by
  obtain ⟨i, b, hi⟩ := mem_handOuts_iff_entry.1 hh
  obtain ⟨j, c, hj⟩ := mem_handOuts_iff_entry.1 hk
  obtain ⟨hw, hr⟩ := HandOut.isFor_iff.1 hw
  obtain ⟨hw', hr'⟩ := HandOut.isFor_iff.1 hw'
  obtain ⟨rfl, rfl⟩ := hq.single i j b c h k hi hj (hw.trans hw'.symm) (hr.trans hr'.symm)
  obtain ⟨iq, m, hi, hb⟩ := hi
  obtain ⟨jq, n, hj, hc⟩ := hj
  obtain rfl := Option.some.inj (hi.symm.trans hj)
  obtain ⟨-, rfl⟩ := Outstanding.mk.inj (Option.some.inj (hb.symm.trans hc))
  rfl

lemma decision_unique {out out' : Dequeued × BucketQueue} (h : q.Decision w r now out)
    (h' : q.Decision w r now out') : out = out' := by
  cases h with
  | again hm hf =>
    cases h' with
    | again hm' hf' => rw [hq.handOut_unique hm hm' hf hf']
    | front hn _ _ => simp [hn _ hm] at hf
    | later hn _ _ => simp [hn _ hm] at hf
    | exhausted _ ho => simp [ho] at hm
  | front hn hj hp =>
    cases h' with
    | again hm' hf' => simp [hn _ hm'] at hf'
    | front _ hk hp' =>
      obtain rfl := hj.unique hk
      obtain rfl := Option.some.inj (hj.present.symm.trans hk.present)
      obtain ⟨rfl, rfl⟩ := List.cons.inj (hp.symm.trans hp')
      rfl
    | later _ hi _ => exact absurd (hi _ _ hj.present) hj.waiting
    | exhausted hi _ => exact absurd (hi _ _ hj.present) hj.waiting
  | later hn hi ho =>
    cases h' with
    | again hm' hf' => simp [hn _ hm'] at hf'
    | front _ hk _ => exact absurd (hi _ _ hk.present) hk.waiting
    | later _ _ _ => rfl
    | exhausted _ ho' => exact absurd ho' ho
  | exhausted hi ho =>
    cases h' with
    | again hm' _ => simp [ho] at hm'
    | front _ hk _ => exact absurd (hi _ _ hk.present) hk.waiting
    | later _ _ ho' => exact absurd ho ho'
    | exhausted _ _ => rfl

lemma dequeue_eq_iff {out : Dequeued × BucketQueue} :
    q.dequeue w r now = out ↔ q.Decision w r now out :=
  ⟨fun h => h ▸ hq.decision w r now, hq.decision_unique (hq.decision w r now)⟩

end Ranked

end BucketQueue

end TestQueue
