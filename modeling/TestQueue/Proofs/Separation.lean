import TestQueue.Proofs.BucketQueue.Exchange
import TestQueue.Proofs.Delivery

/-!
The jobs of a server do not disturb each other: an operation touches one job, and operations on
different jobs can be exchanged.
-/

namespace TestQueue

open Time (Instant)

namespace Dispatcher

lemma Sound.not_indexed {d : Dispatcher} (hs : d.Sound) {b : BucketId}
    (hb : ¬ d.ids.Drawn b.text) : d.queue.owners.find? b = none :=
  Option.eq_none_iff_forall_ne_some.2 fun j hj => hb (hs.queue.drawn b j hj)

theorem jobs_apart {ids : IdSource} (hids : Function.Injective ids.nth)
    (settings : DispatcherSettings) (start : Instant) (commands : List (Instant × Command)) :
    let d := (new settings ids start).run commands
    (∀ source c out, d.queue.change source c = .ok out →
      ∃ j, c.job? d.queue = some j ∧ d.queue.Spares out.queue fun k => k = j) ∧
    (∀ j priority buckets job q jq, d.queue.enqueue j priority buckets = .ok (job, q) →
      d.queue.jobs.find? j = some jq →
        ∃ jq', q.jobs.find? j = some jq' ∧ jq'.job = jq.job) ∧
    (∀ w r now,
      (∀ h, (d.queue.dequeue w r now).1 = .handedOut h →
        ∃ j, d.queue.owners.find? h.bucket.bucketId = some j ∧
          d.queue.Spares (d.queue.dequeue w r now).2 fun k => k = j) ∧
      ((∀ h, (d.queue.dequeue w r now).1 ≠ .handedOut h) →
        (d.queue.dequeue w r now).2 = d.queue)) ∧
    (∀ w, d.queue.Spares (d.queue.reclaim w).2 (d.queue.holdsOf w)) ∧
    ∀ n c₁ c₂ j k out₁, c₁.newIds.Disjoint c₂.newIds →
      (∀ b ∈ c₁.newIds ++ c₂.newIds,
        ¬ d.ids.Drawn b.text ∧ b ≠ ⟨(d.ids.advance n).next⟩) →
      d.queue.change (d.ids.advance n) c₁ = .ok out₁ → c₁.job? d.queue = some j → k ≠ j →
      (∀ out₁₂, c₂.job? out₁.queue = some k → out₁.queue.change out₁.ids c₂ = .ok out₁₂ →
        c₂.job? d.queue = some k ∧ ∃ out₂, d.queue.change (d.ids.advance n) c₂ = .ok out₂) ∧
      ∀ out₂, c₂.job? d.queue = some k → d.queue.change (d.ids.advance n) c₂ = .ok out₂ →
        (d.queue.jobs.find? j ≠ none ∨ d.queue.jobs.find? k ≠ none) →
        (out₁.ids = d.ids.advance n ∨ out₂.ids = d.ids.advance n ∨
          out₁.retry = none ∧ out₂.retry = none) →
        ∃ out₁₂ out₂₁, out₁.queue.change out₁.ids c₂ = .ok out₁₂ ∧
          out₂.queue.change out₂.ids c₁ = .ok out₂₁ ∧
          out₁₂.queue.Alike out₂₁.queue ∧ out₁₂.ids = out₂₁.ids := by
  intro d
  have hs : d.Sound := sound_run hids settings start commands
  have hq : d.queue.Ranked := ranked_run hids settings start commands
  refine ⟨fun source c out h => hq.spares_change h, fun j priority buckets job q jq h hj => ?_,
    fun w r now => hq.spares_dequeue hs.queue w r now, fun w => hq.spares_reclaim hs.queue w, ?_⟩
  · refine ⟨jq.enqueue buckets, ?_, rfl⟩
    rw [(BucketQueue.enqueue_eq_ok h).2.2.1, if_pos rfl, BucketQueue.jobOr, hj, Option.getD_some]
  · intro n c₁ c₂ j k out₁ hd hfresh h₁ hj hkj
    have hnew : ∀ b ∈ c₁.newIds ++ c₂.newIds,
        d.queue.owners.find? b = none ∧ b ≠ ⟨(d.ids.advance n).next⟩ :=
      fun b hb => (hfresh b hb).imp_left hs.not_indexed
    have hnext : d.queue.owners.find? ⟨(d.ids.advance n).next⟩ = none :=
      hs.not_indexed fun hdrawn => IdSource.next_not_drawn (s := d.ids.advance n) hs.injective
        (hdrawn.advance n)
    exact ⟨fun out₁₂ => BucketQueue.change_before hnew hnext h₁ hj hkj,
      fun out₂ => BucketQueue.change_comm hnew hnext h₁ hj hkj hd⟩

/-- The buckets of two jobs are out, one that can be tried again and one that cannot. -/
def twoJobs : List (Instant × Command) :=
  [(.epoch, .register ⟨"w"⟩ none),
    (.epoch, .schedule ⟨⟨"j"⟩, 1, [⟨"C", "x", none⟩], .individual, none, .empty, ⟨1, .empty⟩,
      .standard, .empty⟩),
    (.epoch, .schedule ⟨⟨"k"⟩, 1, [⟨"C", "y", none⟩], .individual, none, .empty, ⟨0, .empty⟩,
      .standard, .empty⟩),
    (.epoch, .fetch ⟨⟨"w"⟩, ⟨"r"⟩, ⟨"id-1"⟩⟩),
    (.epoch, .fetch ⟨⟨"w"⟩, ⟨"s"⟩, ⟨"id-1"⟩⟩)]

def lostOf (b : BucketId) (r : RequestId) : BucketQueue.Change := .accept ⟨b, []⟩ ⟨"w"⟩ r

theorem jobs_apart_twoJobs : Function.Injective numberedIds.nth ∧
    let d := (new plainSettings numberedIds .epoch).run twoJobs
    ∃ out₁ out₂ out₁₂ out₂₁, out₁.retry = some ⟨"id-4"⟩ ∧
      d.queue.change d.ids (lostOf ⟨"id-2"⟩ ⟨"r"⟩) = .ok out₁ ∧
      d.queue.change d.ids (.delete ⟨"k"⟩) = .ok out₂ ∧
      out₁.queue.change out₁.ids (.delete ⟨"k"⟩) = .ok out₁₂ ∧
      out₂.queue.change out₂.ids (lostOf ⟨"id-2"⟩ ⟨"r"⟩) = .ok out₂₁ ∧
      out₁₂.queue.Alike out₂₁.queue := by
  have hids : Function.Injective numberedIds.nth := IdSource.sequential_injective "id"
  refine ⟨hids, ?_⟩
  intro d
  obtain ⟨out₁, h₁, hretry⟩ : ∃ out, d.queue.change d.ids (lostOf ⟨"id-2"⟩ ⟨"r"⟩) = .ok out ∧
      out.retry = some ⟨"id-4"⟩ := ⟨_, rfl, by decide⟩
  obtain ⟨out₂, h₂, hnone⟩ : ∃ out, d.queue.change d.ids (.delete ⟨"k"⟩) = .ok out ∧
      out.ids = d.ids := ⟨_, rfl, rfl⟩
  have hold : d.queue.jobs.find? ⟨"j"⟩ ≠ none := by decide
  obtain ⟨-, -, -, -, hexchange⟩ := jobs_apart hids plainSettings .epoch twoJobs
  obtain ⟨out₁₂, out₂₁, h₁₂, h₂₁, halike, -⟩ :=
    (hexchange 0 (lostOf ⟨"id-2"⟩ ⟨"r"⟩) (.delete ⟨"k"⟩) ⟨"j"⟩ ⟨"k"⟩ out₁ (List.disjoint_nil_left _)
      (fun b hb => by cases hb) h₁ rfl (by decide)).2 out₂ rfl h₂ (Or.inl hold)
      (Or.inr (Or.inl hnone))
  exact ⟨out₁, out₂, out₁₂, out₂₁, hretry, h₁, h₂, h₁₂, h₂₁, halike⟩

/-- The result without a retry takes an identifier too, so the retry of the other job gets another
one. -/
theorem order_matters_twoJobs :
    let d := (new plainSettings numberedIds .epoch).run twoJobs
    let c₁ := lostOf ⟨"id-2"⟩ ⟨"r"⟩
    let c₂ := lostOf ⟨"id-3"⟩ ⟨"s"⟩
    c₁.job? d.queue = some ⟨"j"⟩ ∧ c₂.job? d.queue = some ⟨"k"⟩ ∧
      ∃ out₁ out₂ out₁₂ out₂₁, d.queue.change d.ids c₁ = .ok out₁ ∧
        d.queue.change d.ids c₂ = .ok out₂ ∧ out₂.retry = none ∧
        out₁.queue.change out₁.ids c₂ = .ok out₁₂ ∧ out₂.queue.change out₂.ids c₁ = .ok out₂₁ ∧
        ¬ out₁₂.queue.Alike out₂₁.queue := by
  intro d c₁ c₂
  have hfirst : ((d.queue.change d.ids c₁).toOption.bind fun out₁ =>
      (out₁.queue.change out₁.ids c₂).toOption.map fun out₁₂ =>
        out₁₂.queue.owners.find? ⟨"id-4"⟩) = some (some ⟨"j"⟩) := by decide
  have hlast : ((d.queue.change d.ids c₂).toOption.bind fun out₂ =>
      (out₂.queue.change out₂.ids c₁).toOption.map fun out₂₁ =>
        (out₂.retry, out₂₁.queue.owners.find? ⟨"id-4"⟩)) = some (none, none) := by decide
  simp only [Option.bind_eq_some_iff, Option.map_eq_some_iff, toOption_eq_some_iff,
    Prod.mk.injEq] at hfirst hlast
  obtain ⟨out₁, h₁, out₁₂, h₁₂, hj⟩ := hfirst
  obtain ⟨out₂, h₂, out₂₁, h₂₁, hretry, hnone⟩ := hlast
  refine ⟨rfl, rfl, out₁, out₂, out₁₂, out₂₁, h₁, h₂, hretry, h₁₂, h₂₁, fun halike => ?_⟩
  have howner := Table.perm_iff_find?.1 halike.owners ⟨"id-4"⟩
  rw [hj, hnone] at howner
  cases howner

end Dispatcher

end TestQueue
