import TestQueue.Proofs.BucketQueue.Run

/-!
Tables keep their bindings in an order that carries no meaning. No order changes what a fetch is
answered with.
-/

namespace TestQueue

open Time (Instant)

namespace JobQueue

/-- The same job, with what is out and what is finished listed in another order. -/
structure Rearranged (q q' : JobQueue) : Prop where
  outstanding : q.outstanding.bindings.Perm q'.outstanding.bindings
  finishedIds : q.finishedIds.Perm q'.finishedIds
  rest : q' = { q with outstanding := q'.outstanding, finishedIds := q'.finishedIds }

namespace Rearranged

variable {q q' : JobQueue} (h : q.Rearranged q')

include h

lemma job : q'.job = q.job := by rw [h.rest]

lemma pending : q'.pending = q.pending := by rw [h.rest]

lemma afterHandOut (rest : List Bucket) (new : HandOut) :
    (q.afterHandOut rest new).Rearranged (q'.afterHandOut rest new) where
  outstanding := by
    have hn : q'.nextOrder = q.nextOrder := by rw [h.rest]
    refine Table.perm_iff_find?.2 fun b => ?_
    simp only [JobQueue.afterHandOut, Table.find?_insert, hn, Table.perm_iff_find?.1 h.outstanding]
  finishedIds := h.finishedIds
  rest := by
    rw [JobQueue.afterHandOut, h.rest]
    rfl

end Rearranged

end JobQueue

namespace BucketQueue

variable {q q' : BucketQueue} {w : WorkerId} {r : RequestId} {now : Instant}

structure Rearranged (q q' : BucketQueue) : Prop where
  jobs : ∀ j, Option.Rel JobQueue.Rearranged (q.jobs.find? j) (q'.jobs.find? j)
  owners : q.owners.bindings.Perm q'.owners.bindings
  nextSequence : q'.nextSequence = q.nextSequence

namespace Rearranged

variable (h : q.Rearranged q')

include h

lemma found {j : JobId} {jq : JobQueue} (hj : q.jobs.find? j = some jq) :
    ∃ jq', q'.jobs.find? j = some jq' ∧ jq.Rearranged jq' := by
  have hrel := h.jobs j
  rw [hj] at hrel
  generalize q'.jobs.find? j = o at hrel
  cases hrel with
  | some hr => exact ⟨_, rfl, hr⟩

lemma of_found {j : JobId} {jq' : JobQueue} (hj : q'.jobs.find? j = some jq') :
    ∃ jq, q.jobs.find? j = some jq ∧ jq.Rearranged jq' := by
  have hrel := h.jobs j
  rw [hj] at hrel
  generalize q.jobs.find? j = o at hrel
  cases hrel with
  | some hr => exact ⟨_, rfl, hr⟩

lemma entry_iff {j : JobId} {b : BucketId} {k : HandOut} : q'.Entry j b k ↔ q.Entry j b k := by
  constructor
  · rintro ⟨jq', n, hj, hb⟩
    obtain ⟨jq, hj, hr⟩ := h.of_found hj
    exact ⟨jq, n, hj, by rw [Table.perm_iff_find?.1 hr.outstanding, hb]⟩
  · rintro ⟨jq, n, hj, hb⟩
    obtain ⟨jq', hj, hr⟩ := h.found hj
    exact ⟨jq', n, hj, by rw [← Table.perm_iff_find?.1 hr.outstanding, hb]⟩

lemma mem_handOuts {k : HandOut} : k ∈ q'.handOuts ↔ k ∈ q.handOuts := by
  simp only [mem_handOuts_iff_entry, h.entry_iff]

lemma nothingWaits (hn : q.NothingWaits) : q'.NothingWaits := by
  intro j jq' hj
  obtain ⟨jq, hj, hr⟩ := h.of_found hj
  rw [hr.pending, hn j jq hj]

lemma comesFirst {j : JobId} {jq jq' : JobQueue} (hf : q.ComesFirst j jq)
    (hj : q'.jobs.find? j = some jq') (hr : jq.Rearranged jq') : q'.ComesFirst j jq' where
  present := hj
  waiting := by
    rw [hr.pending]
    exact hf.waiting
  first k kq' hne hk hw := by
    obtain ⟨kq, hk, hr'⟩ := h.of_found hk
    rw [hr'.pending] at hw
    rw [hr.job, hr'.job]
    exact hf.first k kq hne hk hw

lemma ranked (hq : q.Ranked) : q'.Ranked := by
  refine hq.renew h.nextSequence (fun j jq' hj => ?_) fun i j b c k l hi hj =>
    hq.single i j b c k l (h.entry_iff.1 hi) (h.entry_iff.1 hj)
  obtain ⟨jq, hj, hr⟩ := h.of_found hj
  exact ⟨jq, hj, hr.job⟩

lemma put {j : JobId} {jq jq' : JobQueue} (hr : jq.Rearranged jq') :
    (q.put j jq).Rearranged (q'.put j jq') where
  jobs k := by
    rw [find?_put, find?_put]
    split
    · exact .some hr
    · exact h.jobs k
  owners := h.owners
  nextSequence := h.nextSequence

lemma decision {out : Dequeued × BucketQueue} (hd : q.Decision w r now out) :
    ∃ q'', out.2.Rearranged q'' ∧ q'.Decision w r now (out.1, q'') := by
  cases hd with
  | again hm hf => exact ⟨q', h, .again (h.mem_handOuts.2 hm) hf⟩
  | front hn hf hp =>
    obtain ⟨jq', hj, hr⟩ := h.found hf.present
    exact ⟨_, h.put (hr.afterHandOut _ _), .front (fun k hk => hn k (h.mem_handOuts.1 hk))
      (h.comesFirst hf hj hr) (hr.pending.trans hp)⟩
  | later hn hi ho =>
    obtain ⟨k, hk⟩ := List.exists_mem_of_ne_nil _ ho
    exact ⟨q', h, .later (fun k hk => hn k (h.mem_handOuts.1 hk)) (h.nothingWaits hi)
      (List.ne_nil_of_mem (h.mem_handOuts.2 hk))⟩
  | exhausted hi ho =>
    refine ⟨q', h, .exhausted (h.nothingWaits hi) (List.eq_nil_iff_forall_not_mem.2 fun k hk => ?_)⟩
    rw [h.mem_handOuts, ho] at hk
    cases hk

end Rearranged

lemma isDepleted_iff : q.isDepleted = true ↔ q.NothingWaits ∧ q.handOuts = [] := by
  simp only [isDepleted, List.all_eq_true, JobQueue.isDrained_iff, NothingWaits, handOuts,
    List.flatMap_eq_nil_iff, Table.mem_values_iff]
  constructor
  · intro h
    exact ⟨fun j jq hj => (h jq ⟨j, hj⟩).1, fun jq hj => (h jq hj).2⟩
  · rintro ⟨hw, ho⟩ jq ⟨j, hj⟩
    exact ⟨hw j jq hj, ho jq ⟨j, hj⟩⟩

namespace Ranked

variable (hq : q.Ranked)

include hq

lemma nodup_requests : (q.handOuts.map fun h => (h.workerId, h.requestId)).Nodup := by
  have hjob : ∀ b ∈ q.jobs.bindings, q.jobs.find? b.1 = some b.2 :=
    fun b hb => Table.find?_eq_some_iff.2 hb
  have hentry {b : JobId × JobQueue} (hb : b ∈ q.jobs.bindings) {o : BucketId × Outstanding}
      (ho : o ∈ b.2.outstanding.bindings) : q.Entry b.1 o.1 o.2.handOut :=
    ⟨b.2, o.2.order, hjob b hb, Table.find?_eq_some_iff.2 ho⟩
  rw [List.Nodup, List.pairwise_map, handOuts, List.pairwise_flatMap, Table.values,
    List.pairwise_map]
  simp only [List.forall_mem_map, JobQueue.handOuts, Table.values, List.pairwise_map]
  constructor
  · intro b hb
    have hkeys := List.pairwise_map.1 b.2.outstanding.distinct
    refine hkeys.imp_of_mem fun {o p} ho hp hne he => hne ?_
    obtain ⟨hw, hr⟩ := Prod.mk.inj he
    exact (hq.single _ _ _ _ _ _ (hentry hb ho) (hentry hb hp) hw hr).2
  · have hkeys := List.pairwise_map.1 q.jobs.distinct
    refine hkeys.imp_of_mem fun {b c} hb hc hne o ho p hp he => hne ?_
    obtain ⟨hw, hr⟩ := Prod.mk.inj he
    exact (hq.single _ _ _ _ _ _ (hentry hb ho) (hentry hc hp) hw hr).1

lemma exhausted_iff : (q.dequeue w r now).1 = .exhausted ↔ q.isDepleted = true := by
  have hd := hq.decision w r now
  generalize q.dequeue w r now = out at hd
  rw [isDepleted_iff]
  cases hd with
  | again hm _ => simp [List.ne_nil_of_mem hm]
  | front _ hf _ => simpa using fun hn => absurd (hn _ _ hf.present) hf.waiting
  | later _ _ ho => simp [ho]
  | exhausted hi ho => simp [hi, ho]

lemma dequeue_rearranged (h : q.Rearranged q') :
    (q'.dequeue w r now).1 = (q.dequeue w r now).1 ∧
      (q.dequeue w r now).2.Rearranged (q'.dequeue w r now).2 := by
  obtain ⟨q'', hr, hd⟩ := h.decision (hq.decision w r now)
  have he := (h.ranked hq).dequeue_eq_iff.2 hd
  exact ⟨by rw [he], by rw [he]; exact hr⟩

end Ranked

theorem dequeue_decided (h : Reachable q) :
    (∀ j k jq kq, q.jobs.find? j = some jq → q.jobs.find? k = some kq →
      jq.job.sequence = kq.job.sequence → j = k) ∧
    (q.handOuts.map fun h => (h.workerId, h.requestId)).Nodup ∧
    ∀ w r now, (∀ out, q.dequeue w r now = out ↔ q.Decision w r now out) ∧
      ((q.dequeue w r now).1 = .exhausted ↔ q.isDepleted = true) ∧
      ∀ q', q.Rearranged q' → (q'.dequeue w r now).1 = (q.dequeue w r now).1 ∧
        (q.dequeue w r now).2.Rearranged (q'.dequeue w r now).2 :=
  ⟨h.ranked.distinct, h.ranked.nodup_requests, fun _ _ _ => ⟨fun _ => h.ranked.dequeue_eq_iff,
    h.ranked.exhausted_iff, fun _ => h.ranked.dequeue_rearranged⟩⟩

theorem dequeue_decided_urgent :
    let urgent : Bucket := ⟨⟨"b"⟩, ⟨"urgent"⟩, 2, [⟨"C", "y", none⟩], .empty, ⟨1, .empty⟩, .standard,
      .empty, 1⟩
    ∃ q q', Reachable q ∧ q.nextSequence = 2 ∧
      q.dequeue ⟨"w"⟩ ⟨"r"⟩ .epoch = (.handedOut ⟨urgent, ⟨"w"⟩, ⟨"r"⟩, .epoch⟩, q') ∧
      q.Decision ⟨"w"⟩ ⟨"r"⟩ .epoch (.handedOut ⟨urgent, ⟨"w"⟩, ⟨"r"⟩, .epoch⟩, q') := by
  intro urgent
  obtain ⟨q₁, hcalm⟩ : ∃ q, empty.enqueue ⟨"calm"⟩ 1 [⟨⟨"a"⟩, ⟨"calm"⟩, 1, [⟨"C", "x", none⟩],
      .empty, ⟨1, .empty⟩, .standard, .empty, 1⟩] = .ok (⟨⟨"calm"⟩, 1, 0⟩, q) := ⟨_, rfl⟩
  obtain ⟨q, hurgent⟩ : ∃ q, q₁.enqueue ⟨"urgent"⟩ 2 [urgent] = .ok (⟨⟨"urgent"⟩, 2, 1⟩, q) := by
    cases hcalm
    exact ⟨_, rfl⟩
  have hq : Reachable q := .step (.step .empty (.enqueue hcalm)) (.enqueue hurgent)
  cases hcalm
  cases hurgent
  exact ⟨_, _, hq, rfl, rfl, (((dequeue_decided hq).2.2 ⟨"w"⟩ ⟨"r"⟩ .epoch).1 _).1 rfl⟩

end BucketQueue

end TestQueue
