import TestQueue.Proofs.BucketQueue.Rearrangement
import TestQueue.Proofs.JobQueue.Run

/-!
What is taken back from a worker goes to the head of the queue in the order in which it was handed
out last, and is handed out again in that order.
-/

namespace TestQueue

open Time (Instant)

lemma pwFilter_ne_concat {α κ : Type} [DecidableEq κ] (key : α → κ) (l : List α) (a : α) :
    (l ++ [a]).pwFilter (fun x y => key x ≠ key y) =
      (l.pwFilter fun x y => key x ≠ key y).filter (fun x => key x ≠ key a) ++ [a] := by
  induction l with
  | nil => exact List.pwFilter_cons_of_pos (by simp)
  | cons x l ih =>
    rw [List.cons_append]
    by_cases hxa : key x = key a
    · rw [List.pwFilter_cons_of_neg, ih]
      · by_cases hx : ∀ y ∈ l.pwFilter fun x y => key x ≠ key y, key x ≠ key y
        · rw [List.pwFilter_cons_of_pos hx]
          simp [hxa]
        · rw [List.pwFilter_cons_of_neg hx]
      · rw [ih]
        exact fun h => h a (by simp) hxa
    · by_cases hx : ∀ y ∈ l.pwFilter fun x y => key x ≠ key y, key x ≠ key y
      · rw [List.pwFilter_cons_of_pos hx, List.pwFilter_cons_of_pos, ih]
        · simp [hxa]
        · rw [ih]
          intro y hy
          rcases List.mem_append.1 hy with hy | hy
          · exact hx y (List.mem_of_mem_filter hy)
          · rwa [List.mem_singleton.1 hy]
      · rw [List.pwFilter_cons_of_neg hx, List.pwFilter_cons_of_neg, ih]
        rw [ih]
        refine fun h => hx fun y hy he => h y ?_ he
        rw [List.mem_append, List.mem_filter, decide_eq_true_eq]
        exact Or.inl ⟨hy, he ▸ hxa⟩

namespace HandOut

def latest (log : List HandOut) : List HandOut :=
  log.pwFilter fun h k => h.bucket.bucketId ≠ k.bucket.bucketId

end HandOut

namespace Outstanding

def bucketId (o : Outstanding) : BucketId := o.handOut.bucket.bucketId

def numbered (log : List HandOut) : List Outstanding := log.mapIdx .mk

def latest (log : List HandOut) : List Outstanding :=
  (numbered log).pwFilter fun o p => o.bucketId ≠ p.bucketId

lemma numbered_concat (log : List HandOut) (h : HandOut) :
    numbered (log ++ [h]) = numbered log ++ [⟨log.length, h⟩] := List.mapIdx_concat

lemma map_order_numbered (log : List HandOut) :
    (numbered log).map order = List.range log.length := by
  induction log using List.reverseRecOn with
  | nil => rfl
  | append_singleton log h ih =>
    rw [numbered_concat, List.map_append, ih, List.length_append, List.length_singleton,
      List.range_succ]
    rfl

lemma map_handOut_numbered (log : List HandOut) : (numbered log).map handOut = log := by
  induction log using List.reverseRecOn with
  | nil => rfl
  | append_singleton log h ih => rw [numbered_concat, List.map_append, ih]; rfl

lemma map_handOut_latest (log : List HandOut) :
    (latest log).map handOut = HandOut.latest log := by
  conv_rhs => rw [← map_handOut_numbered log]
  rw [HandOut.latest, List.pwFilter_map]
  rfl

lemma pairwise_latest (log : List HandOut) :
    (latest log).Pairwise fun o p => o.order < p.order := by
  refine List.Pairwise.sublist (List.pwFilter_sublist _) (List.pairwise_map.1 ?_)
  rw [map_order_numbered]
  exact List.pairwise_lt_range

lemma nodup_order_latest (log : List HandOut) : ((latest log).map order).Nodup :=
  List.pairwise_map.2 ((pairwise_latest log).imp fun h => h.ne)

lemma latest_concat (log : List HandOut) (h : HandOut) : latest (log ++ [h]) =
    (latest log).filter (fun o => o.bucketId ≠ h.bucket.bucketId) ++ [⟨log.length, h⟩] := by
  rw [latest, numbered_concat]
  exact pwFilter_ne_concat bucketId (numbered log) ⟨log.length, h⟩

lemma eq_of_mem_latest {log : List HandOut} {o p : Outstanding} (ho : o ∈ latest log)
    (hp : p ∈ latest log) (he : o.bucketId = p.bucketId) : o = p := by
  have hn : ((latest log).map bucketId).Nodup := List.pairwise_map.2 (List.pairwise_pwFilter _)
  exact List.inj_on_of_nodup_map hn ho hp he

lemma eq_of_order {log : List HandOut} {o p : Outstanding} (ho : o ∈ latest log)
    (hp : p ∈ latest log) (he : o.order = p.order) : o = p :=
  List.inj_on_of_nodup_map (nodup_order_latest log) ho hp he

end Outstanding

namespace JobQueue

/-- What is out is the latest hand-out of its bucket, and has its number. -/
structure Logged (q : JobQueue) (log : List HandOut) : Prop where
  next : q.nextOrder = log.length
  out : ∀ b o, q.outstanding.find? b = some o → o.bucketId = b ∧ o ∈ Outstanding.latest log

lemma logged_new (job : PrioritizedJob) : (new job).Logged [] where
  next := rfl
  out b o h := by cases h

lemma Logged.perform {q : JobQueue} {log : List HandOut} (hq : q.Logged log) (op : Operation) :
    (q.perform op).Logged (log ++ q.handsOut op) := by
  have within {q' : JobQueue} (hn : q'.nextOrder = q.nextOrder) (hh : q.handsOut op = [])
      (ho : ∀ b o, q'.outstanding.find? b = some o → q.outstanding.find? b = some o) :
      q'.Logged (log ++ q.handsOut op) := by
    rw [hh, List.append_nil]
    exact ⟨hn.trans hq.next, fun b o h => hq.out b o (ho b o h)⟩
  cases q.effect op with
  | kept hafter _ hh => exact within (by rw [hafter]) hh (by rw [hafter]; exact fun _ _ => id)
  | enqueued hop =>
    subst hop
    exact within rfl rfl fun _ _ => id
  | @handedOut h rest hp hafter _ hh =>
    rw [hafter, hh]
    refine ⟨?_, fun b o ho => ?_⟩
    · rw [List.length_append, List.length_singleton, ← hq.next]
      rfl
    · simp only [JobQueue.afterHandOut, Table.find?_insert] at ho
      rw [Outstanding.latest_concat, List.mem_append, List.mem_filter, decide_eq_true_eq]
      split at ho
      · rename_i hb
        obtain rfl := Option.some.inj ho
        rw [hq.next]
        exact ⟨hb.symm, Or.inr (List.mem_singleton_self _)⟩
      · rename_i hb
        obtain ⟨rfl, hm⟩ := hq.out b o ho
        exact ⟨rfl, Or.inl ⟨hm, hb⟩⟩
  | recorded _ _ hafter _ hh =>
    refine within (by rw [hafter]; rfl) hh fun b o ho => ?_
    rw [hafter] at ho
    simp only [JobQueue.afterRecord, Table.find?_erase] at ho
    split at ho
    · cases ho
    · exact ho
  | reclaimed hop =>
    subst hop
    refine within rfl rfl fun b o ho => ?_
    simp only [JobQueue.perform, JobQueue.reclaim, Table.find?_filter,
      Option.filter_eq_some_iff] at ho
    exact ho.1
  | deleted hop =>
    subst hop
    exact within rfl rfl fun _ _ => id

lemma logged_run (job : PrioritizedJob) (ops : List Operation) :
    ((new job).run ops).Logged ((new job).collect handsOut ops) := by
  induction ops using List.reverseRecOn with
  | nil => exact logged_new job
  | append_singleton ops op ih =>
    rw [run_concat, collect_concat]
    exact ih.perform op

lemma mem_heldBy {q : JobQueue} {w : WorkerId} {o : Outstanding} :
    o ∈ q.heldBy w ↔ o ∈ q.outstanding.values ∧ o.handOut.workerId = w := by
  rw [heldBy, List.mem_mergeSort, List.mem_filter, decide_eq_true_eq]

lemma pairwise_heldBy (q : JobQueue) (w : WorkerId) :
    (q.heldBy w).Pairwise fun o p => o.order ≤ p.order := by
  have htrans (o p r : Outstanding) : decide (o.order ≤ p.order) = true →
      decide (p.order ≤ r.order) = true → decide (o.order ≤ r.order) = true := by
    simpa only [decide_eq_true_eq] using Nat.le_trans
  have htotal (o p : Outstanding) :
      (decide (o.order ≤ p.order) || decide (p.order ≤ o.order)) = true := by
    simpa only [Bool.or_eq_true, decide_eq_true_eq] using Nat.le_total o.order p.order
  simpa only [heldBy, decide_eq_true_eq] using List.pairwise_mergeSort htrans htotal _

namespace Logged

variable {q q' : JobQueue} {log : List HandOut} {o p : Outstanding} (hq : q.Logged log)

include hq

lemma mem_latest (ho : o ∈ q.outstanding.values) : o ∈ Outstanding.latest log := by
  obtain ⟨b, hb⟩ := Table.mem_values_iff.1 ho
  exact (hq.out b o hb).2

lemma mem_values_iff :
    o ∈ q.outstanding.values ↔ o ∈ Outstanding.latest log ∧ o.handOut ∈ q.handOuts := by
  refine ⟨fun ho => ⟨hq.mem_latest ho, List.mem_map_of_mem ho⟩, fun ⟨hl, hh⟩ => ?_⟩
  obtain ⟨p, hp, he⟩ := List.mem_map.1 hh
  have hid : o.bucketId = p.bucketId := by rw [Outstanding.bucketId, Outstanding.bucketId, he]
  rwa [Outstanding.eq_of_mem_latest hl (hq.mem_latest hp) hid]

lemma nodup_values : q.outstanding.values.Nodup := by
  have hkeys : q.outstanding.values.map Outstanding.bucketId = q.outstanding.keys := by
    rw [Table.values, Table.keys, List.map_map]
    exact List.map_congr_left fun b hb => (hq.out b.1 b.2 (Table.find?_eq_some_iff.2 hb)).1
  have hn := q.outstanding.nodup_keys
  rw [← hkeys] at hn
  exact hn.of_map

lemma heldBy_eq {l : List Outstanding} {w : WorkerId}
    (hl : l.Pairwise fun o p => o.order ≤ p.order) (hp : l.Perm (q.heldBy w)) :
    l = q.heldBy w := by
  refine hp.eq_of_pairwise (fun o p ho hp' hle hle' => ?_) hl (q.pairwise_heldBy w)
  have ho' := hq.mem_latest (mem_heldBy.1 (hp.subset ho)).1
  exact Outstanding.eq_of_order ho' (hq.mem_latest (mem_heldBy.1 hp').1) (Nat.le_antisymm hle hle')

lemma map_handOut_heldBy (w : WorkerId) : (q.heldBy w).map Outstanding.handOut =
    (HandOut.latest log).filter fun h => h ∈ q.handOuts ∧ h.workerId = w := by
  have hperm : ((Outstanding.latest log).filter fun o =>
      o.handOut ∈ q.handOuts ∧ o.handOut.workerId = w).Perm (q.heldBy w) := by
    have hn := (Outstanding.nodup_order_latest log).of_map
    have hn' : (q.heldBy w).Nodup := List.nodup_mergeSort.2 (hq.nodup_values.filter _)
    refine (List.perm_ext_iff_of_nodup (hn.filter _) hn').2 fun o => ?_
    rw [List.mem_filter, decide_eq_true_eq, mem_heldBy, hq.mem_values_iff, and_assoc]
  have hsorted := ((Outstanding.pairwise_latest log).imp fun h => h.le).filter
    fun o => o.handOut ∈ q.handOuts ∧ o.handOut.workerId = w
  rw [← hq.heldBy_eq hsorted hperm, ← Outstanding.map_handOut_latest, List.filter_map]
  rfl

lemma heldBy_rearranged (h : q.Rearranged q') (w : WorkerId) : q'.heldBy w = q.heldBy w := by
  refine hq.heldBy_eq (q'.pairwise_heldBy w) ?_
  have hv := ((h.outstanding.map Prod.snd).filter fun o => o.handOut.workerId = w).symm
  exact (List.mergeSort_perm _ _).trans (hv.trans (List.mergeSort_perm _ _).symm)

lemma reclaim_rearranged (h : q.Rearranged q') (w : WorkerId) :
    (q'.reclaim w).1 = (q.reclaim w).1 ∧ (q.reclaim w).2.Rearranged (q'.reclaim w).2 := by
  have hheld := hq.heldBy_rearranged h w
  refine ⟨by rw [reclaim, reclaim, hheld], h.outstanding.filter _, h.finishedIds, ?_⟩
  rw [reclaim, reclaim, hheld, h.rest]

end Logged

lemma reclaim_reclaim (q : JobQueue) (w : WorkerId) :
    (q.reclaim w).2.reclaim w = ([], (q.reclaim w).2) := by
  have hheld : (q.reclaim w).2.heldBy w = [] := by
    rw [List.eq_nil_iff_forall_not_mem]
    intro o ho
    obtain ⟨hv, hw⟩ := mem_heldBy.1 ho
    obtain ⟨b, hb⟩ := Table.mem_values_iff.1 hv
    simp only [reclaim, Table.find?_filter, Option.filter_eq_some_iff, decide_eq_true_eq] at hb
    exact hb.2 hw
  have hout : ((q.reclaim w).2.outstanding.filter fun _ o => o.handOut.workerId ≠ w) =
      (q.reclaim w).2.outstanding := by
    simp [reclaim, Table.filter]
  rw [reclaim, hheld, hout]
  simp

def answers (q : JobQueue) : List (WorkerId × RequestId × Instant) → List Dequeued
  | [] => []
  | f :: fetches => (q.dequeue f.1 f.2.1 f.2.2).1 :: (q.dequeue f.1 f.2.1 f.2.2).2.answers fetches

lemma answers_of_pending {q : JobQueue} {fetches : List (WorkerId × RequestId × Instant)}
    {head rest : List Bucket} (hp : q.pending = head ++ rest) (hl : fetches.length ≤ head.length)
    (hn : (fetches.map fun f => (f.1, f.2.1)).Nodup)
    (hnew : ∀ f ∈ fetches, q.previous? f.1 f.2.1 = none) :
    q.answers fetches =
      List.zipWith (fun p f => .handedOut ⟨p, f.1, f.2.1, f.2.2⟩) head fetches := by
  induction fetches generalizing q head with
  | nil => rw [List.zipWith_nil_right]; rfl
  | cons f fetches ih =>
    cases head with
    | nil => cases hl
    | cons p head =>
      obtain ⟨hf, hfs⟩ := List.forall_mem_cons.1 hnew
      rw [List.map_cons, List.nodup_cons] at hn
      rw [answers, dequeue_of_pending hf hp, List.zipWith_cons_cons]
      congr 1
      refine ih rfl (Nat.le_of_succ_le_succ hl) hn.2 fun g hg => ?_
      rw [previous?_eq_none_iff]
      intro k hk
      rcases of_mem_handOuts_afterHandOut hk with rfl | hk
      · rw [Bool.eq_false_iff]
        intro hfor
        obtain ⟨hw, hr⟩ := HandOut.isFor_iff.1 hfor
        exact hn.1 (List.mem_map.2 ⟨g, hg, Prod.ext hw.symm hr.symm⟩)
      · exact previous?_eq_none_iff.1 (hfs g hg) k hk

theorem reclaim_in_order (job : PrioritizedJob) (ops : List Operation) (w : WorkerId) :
    let q := (new job).run ops
    let held := (HandOut.latest ((new job).collect handsOut ops)).filter fun h =>
      h ∈ q.handOuts ∧ h.workerId = w
    held.Perm (q.handOuts.filter fun h => h.workerId = w) ∧
    (q.reclaim w).1 = held.map (fun h => h.bucket.bucketId) ∧
    (q.reclaim w).2.pending =
      (if q.deleted then [] else held.map HandOut.bucket) ++ q.pending ∧
    (∀ b, (q.reclaim w).2.outstanding.find? b =
      (q.outstanding.find? b).filter fun o => o.handOut.workerId ≠ w) ∧
    (q.reclaim w).2.reclaim w = ([], (q.reclaim w).2) ∧
    (∀ q', q.Rearranged q' →
      (q'.reclaim w).1 = (q.reclaim w).1 ∧ (q.reclaim w).2.Rearranged (q'.reclaim w).2) ∧
    (q.deleted = false → ∀ fetches : List (WorkerId × RequestId × Instant),
      fetches.length ≤ held.length → (fetches.map fun f => (f.1, f.2.1)).Nodup →
      (∀ f ∈ fetches, (q.reclaim w).2.previous? f.1 f.2.1 = none) →
      (q.reclaim w).2.answers fetches =
        List.zipWith (fun h f => .handedOut ⟨h.bucket, f.1, f.2.1, f.2.2⟩) held fetches) := by
  intro q held
  have hq := logged_run job ops
  have hheld : (q.heldBy w).map Outstanding.handOut = held := hq.map_handOut_heldBy w
  have hpending : (q.reclaim w).2.pending =
      (if q.deleted then [] else held.map HandOut.bucket) ++ q.pending := by
    rw [← hheld, List.map_map]
    unfold reclaim
    cases q.deleted <;> rfl
  refine ⟨hheld ▸ q.heldBy_perm w, ?_, hpending, fun b => Table.find?_filter _ _ b,
    reclaim_reclaim q w, fun q' h => hq.reclaim_rearranged h w, fun hd fetches hl hn hnew => ?_⟩
  · rw [← hheld, List.map_map, reclaim, List.map_map]
    rfl
  · simp only [hd, Bool.false_eq_true, if_false] at hpending
    rw [answers_of_pending hpending (by simpa using hl) hn hnew, List.zipWith_map_left]

def oneTest (b : String) : Bucket :=
  ⟨⟨b⟩, ⟨"j"⟩, 0, [⟨"C", b, none⟩], .empty, ⟨0, .empty⟩, .standard, .empty, 0⟩

/-- The first and the third of four buckets are taken back from their worker and handed out to it
again, the first of them twice. Another worker has the second bucket. -/
def fetchedAgain : List Operation :=
  [.enqueue [oneTest "a", oneTest "b", oneTest "c", oneTest "d"],
    .dequeue ⟨"w"⟩ ⟨"r"⟩ .epoch, .dequeue ⟨"v"⟩ ⟨"r"⟩ .epoch, .dequeue ⟨"w"⟩ ⟨"s"⟩ .epoch,
    .reclaim ⟨"w"⟩, .dequeue ⟨"w"⟩ ⟨"t"⟩ .epoch, .dequeue ⟨"w"⟩ ⟨"t"⟩ .epoch,
    .dequeue ⟨"w"⟩ ⟨"u"⟩ .epoch]

def reversed (q : JobQueue) : JobQueue :=
  { q with outstanding := ⟨q.outstanding.bindings.reverse, by
      rw [List.map_reverse, List.nodup_reverse]
      exact q.outstanding.distinct⟩ }

lemma rearranged_reversed (q : JobQueue) : q.Rearranged q.reversed :=
  ⟨(List.reverse_perm _).symm, List.Perm.refl _, rfl⟩

theorem reclaim_in_order_fetchedAgain :
    let q := (new ⟨⟨"j"⟩, 1, 0⟩).run fetchedAgain
    let back := (q.reclaim ⟨"w"⟩).2
    q.deleted = false ∧ q.pending = [oneTest "d"] ∧ (q.reclaim ⟨"w"⟩).1 = [⟨"a"⟩, ⟨"c"⟩] ∧
      (q.reversed.reclaim ⟨"w"⟩).1 = (q.reclaim ⟨"w"⟩).1 ∧
      back.pending = [oneTest "a", oneTest "c", oneTest "d"] ∧ back.reclaim ⟨"w"⟩ = ([], back) ∧
      (∀ f ∈ [(⟨"v"⟩, ⟨"x"⟩, Instant.epoch), (⟨"w"⟩, ⟨"x"⟩, Instant.epoch)],
        back.previous? f.1 f.2.1 = none) ∧
      back.answers [(⟨"v"⟩, ⟨"x"⟩, .epoch), (⟨"w"⟩, ⟨"x"⟩, .epoch)] =
        [.handedOut ⟨oneTest "a", ⟨"v"⟩, ⟨"x"⟩, .epoch⟩,
          .handedOut ⟨oneTest "c", ⟨"w"⟩, ⟨"x"⟩, .epoch⟩] := by
  obtain ⟨-, hids, hpending, -, hagain, hrearranged, hanswers⟩ :=
    reclaim_in_order ⟨⟨"j"⟩, 1, 0⟩ fetchedAgain ⟨"w"⟩
  have hheld : ((HandOut.latest ((new ⟨⟨"j"⟩, 1, 0⟩).collect handsOut fetchedAgain)).filter
      fun h => h ∈ ((new ⟨⟨"j"⟩, 1, 0⟩).run fetchedAgain).handOuts ∧ h.workerId = ⟨"w"⟩) =
      [⟨oneTest "a", ⟨"w"⟩, ⟨"t"⟩, .epoch⟩, ⟨oneTest "c", ⟨"w"⟩, ⟨"u"⟩, .epoch⟩] := by
    cbv
  have hd : ((new ⟨⟨"j"⟩, 1, 0⟩).run fetchedAgain).deleted = false := by cbv
  have hp : ((new ⟨⟨"j"⟩, 1, 0⟩).run fetchedAgain).pending = [oneTest "d"] := by cbv
  have hnew : ∀ f ∈ [(⟨"v"⟩, ⟨"x"⟩, Instant.epoch), (⟨"w"⟩, ⟨"x"⟩, Instant.epoch)],
      (((new ⟨⟨"j"⟩, 1, 0⟩).run fetchedAgain).reclaim ⟨"w"⟩).2.previous? f.1 f.2.1 = none := by
    simp only [List.forall_mem_cons, List.not_mem_nil, false_imp_iff, implies_true, and_true]
    exact ⟨by cbv, by cbv⟩
  rw [hheld] at hids hpending hanswers
  rw [hd, hp] at hpending
  exact ⟨hd, hp, hids, (hrearranged _ (rearranged_reversed _)).1, hpending, hagain, hnew,
    hanswers hd _ (by decide) (by decide) hnew⟩

end JobQueue

end TestQueue
