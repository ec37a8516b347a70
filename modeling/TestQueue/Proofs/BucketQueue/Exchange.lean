import TestQueue.Proofs.BucketQueue.Separation

/-!
Operations on different jobs can be done in either order: each depends on its own job only, and
writes to the index under identifiers that the other does not look up.
-/

namespace TestQueue

open Time (Instant)

lemma toOption_eq_some_iff {ε α : Type} {x : Except ε α} {a : α} :
    x.toOption = some a ↔ x = .ok a := by
  cases x <;> simp [Except.toOption]

lemma JobQueue.retry_of_accept {q q' : JobQueue} {result : BucketResult} {w : WorkerId}
    {r : RequestId} {ids ids' : IdSource} {a : Acceptance} {b : BucketId}
    (h : q.accept result w r ids = .ok (a, q', ids')) (hb : a.retry? = some b) :
    b = ⟨ids.next⟩ ∧ ids' = ids.advance 1 := by
  rcases accept_cases h with ⟨o, -, -, -, hr⟩ | ⟨why, rfl, -⟩
  · obtain ⟨n, he, hn⟩ := q.record_eq o.handOut result ids
    obtain ⟨rfl, -, rfl⟩ : _ = a ∧ _ = q' ∧ _ = ids' := by simpa [he] using hr
    obtain ⟨bucket, hbucket, rfl⟩ := Option.map_eq_some_iff.1 hb
    exact ⟨bucketId_of_residual? hbucket, by rw [hn (by simp [hbucket])]⟩
  · cases hb

namespace BucketQueue

inductive Change where
  | enqueue (j : JobId) (priority : Priority) (buckets : List Bucket)
  | accept (result : BucketResult) (w : WorkerId) (r : RequestId)
  | delete (j : JobId)

structure Changed where
  retry : Option BucketId
  queue : BucketQueue
  ids : IdSource

def change (q : BucketQueue) (ids : IdSource) : Change → Except QueueError Changed
  | .enqueue j priority buckets =>
    (q.enqueue j priority buckets).map fun out => ⟨none, out.2, ids⟩
  | .accept result w r =>
    (q.accept result w r ids).map fun (a, q, ids) => { retry := a.retry?, queue := q, ids }
  | .delete j => (q.delete j).map fun out => ⟨none, out.2, ids⟩

structure Alike (q q' : BucketQueue) : Prop where
  jobs : q.jobs.bindings.Perm q'.jobs.bindings
  owners : q.owners.bindings.Perm q'.owners.bindings
  nextSequence : q.nextSequence = q'.nextSequence

namespace Change

def job? (q : BucketQueue) : Change → Option JobId
  | .enqueue j _ _ => some j
  | .accept result _ _ => q.owners.find? result.bucketId
  | .delete j => some j

def newIds : Change → List BucketId
  | .enqueue _ _ buckets => buckets.map Bucket.bucketId
  | .accept _ _ _ => []
  | .delete _ => []

/-! ### What becomes of the job -/

structure Edit where
  job : JobQueue
  learned : List BucketId
  retry : Option BucketId
  ids : IdSource

/-- What the operation makes of its job. It sees the job, the next number and the next identifier,
and nothing else. -/
def edit? (jq? : Option JobQueue) (j : JobId) (sequence : Nat) (ids : IdSource) :
    Change → Option Edit
  | .enqueue _ priority buckets =>
    let jq := jq?.getD (.new ⟨j, priority, sequence⟩)
    if jq.deleted then none
    else some ⟨jq.enqueue buckets, buckets.map Bucket.bucketId, none, ids⟩
  | .accept result w r =>
    jq?.bind fun jq => (jq.accept result w r ids).toOption.map fun (a, jq, ids) =>
      { job := jq, learned := a.retry?.toList, retry := a.retry?, ids }
  | .delete _ => jq?.map fun jq => ⟨jq.markDeleted, [], none, ids⟩

end Change

def edited (q : BucketQueue) (j : JobId) (e : Change.Edit) : BucketQueue :=
  finalize {
    jobs := q.jobs.insert j e.job
    owners := assign q.owners j e.learned
    nextSequence := if q.jobs.contains j then q.nextSequence else q.nextSequence + 1 } j

section

variable {q : BucketQueue} {ids ids' : IdSource} {j k : JobId} {c : Change} {e f : Change.Edit}

lemma enqueue_toOption (q : BucketQueue) (ids : IdSource) (j : JobId) (priority : Priority)
    (buckets : List Bucket) :
    (q.change ids (.enqueue j priority buckets)).toOption =
      ((Change.enqueue j priority buckets).edit? (q.jobs.find? j) j q.nextSequence ids).map
        fun e => ⟨e.retry, q.edited j e, e.ids⟩ := by
  have hput (jq : JobQueue) :
      (q.withJob j priority).jobs.insert j jq = q.jobs.insert j jq := by
    unfold withJob
    split
    · rfl
    · exact Table.insert_insert _ _ _ _
  have hnext : (q.withJob j priority).nextSequence =
      if q.jobs.contains j then q.nextSequence else q.nextSequence + 1 := by
    unfold withJob
    split <;> rfl
  have hjob : (q.jobs.find? j).getD (.new ⟨j, priority, q.nextSequence⟩) = q.jobOr j priority := rfl
  simp only [change, enqueue, job?_withJob, bind, Except.bind, Change.edit?, hjob]
  split
  · rfl
  · rename_i hd
    have hopen : (q.edited j ⟨(q.jobOr j priority).enqueue buckets, buckets.map Bucket.bucketId,
        none, ids⟩) = _ := finalize_eq_self fun jq hj => by
      rw [Table.find?_insert, if_pos rfl] at hj
      obtain rfl := Option.some.inj hj
      simpa [JobQueue.isClosed, JobQueue.enqueue] using fun hc => absurd hc hd
    simp only [Except.map, Except.toOption, Option.map_some, hopen, put, hput, hnext,
      owners_withJob]

lemma accept_toOption (q : BucketQueue) (ids : IdSource) (result : BucketResult) (w : WorkerId)
    (r : RequestId) :
    (q.change ids (.accept result w r)).toOption = (q.owners.find? result.bucketId).bind fun j =>
      ((Change.accept result w r).edit? (q.jobs.find? j) j q.nextSequence ids).map
        fun e => ⟨e.retry, q.edited j e, e.ids⟩ := by
  simp only [change, accept, Change.edit?]
  cases q.owners.find? result.bucketId with
  | none => rfl
  | some j =>
    simp only [Option.bind_some]
    cases hj : q.jobs.find? j with
    | none => rfl
    | some jq =>
      have hc : q.jobs.contains j = true := Table.contains_iff.2 ⟨jq, hj⟩
      simp only [Option.bind_some, edited, hc, if_true]
      cases jq.accept result w r ids with
      | error => rfl
      | ok out =>
        obtain ⟨⟨b, _ | retry⟩ | why, jq', left⟩ := out <;> rfl

lemma delete_toOption (q : BucketQueue) (ids : IdSource) (j : JobId) :
    (q.change ids (.delete j)).toOption =
      ((Change.delete j).edit? (q.jobs.find? j) j q.nextSequence ids).map
        fun e => ⟨e.retry, q.edited j e, e.ids⟩ := by
  simp only [change, delete, BucketQueue.job?, Change.edit?]
  cases hj : q.jobs.find? j with
  | none => rfl
  | some jq =>
    have hc : q.jobs.contains j = true := Table.contains_iff.2 ⟨jq, hj⟩
    simp only [bind, Except.bind, Except.map, Except.toOption, Option.map_some, edited, hc, if_true]
    rfl

lemma change_toOption (q : BucketQueue) (ids : IdSource) (c : Change) :
    (q.change ids c).toOption = (c.job? q).bind fun j =>
      (c.edit? (q.jobs.find? j) j q.nextSequence ids).map
        fun e => ⟨e.retry, q.edited j e, e.ids⟩ := by
  cases c with
  | enqueue j priority buckets => exact q.enqueue_toOption ids j priority buckets
  | accept result w r => exact q.accept_toOption ids result w r
  | delete j => exact q.delete_toOption ids j

lemma change_eq_ok_iff {out : Changed} : q.change ids c = .ok out ↔
    ∃ j e, c.job? q = some j ∧ c.edit? (q.jobs.find? j) j q.nextSequence ids = some e ∧
      out = ⟨e.retry, q.edited j e, e.ids⟩ := by
  rw [← toOption_eq_some_iff, change_toOption]
  simp only [Option.bind_eq_some_iff, Option.map_eq_some_iff]
  constructor
  · rintro ⟨j, hj, e, he, rfl⟩
    exact ⟨j, e, hj, he, rfl⟩
  · rintro ⟨j, e, hj, he, rfl⟩
    exact ⟨j, hj, e, he, rfl⟩

/-! ### Edits under other numbers and identifiers -/

lemma Change.of_edit? {jq? : Option JobQueue} {n : ℕ} (h : c.edit? jq? j n ids = some e) :
    (∀ b ∈ e.learned, b ∈ c.newIds ∨ e.retry = some b) ∧
      ∀ b, e.retry = some b → b = ⟨ids.next⟩ ∧ e.ids = ids.advance 1 := by
  cases c with
  | enqueue i priority buckets =>
    simp only [edit?] at h
    split at h
    · cases h
    · obtain rfl := Option.some.inj h
      exact ⟨fun b hb => Or.inl hb, fun b hb => by cases hb⟩
  | accept result w r =>
    simp only [edit?, Option.bind_eq_some_iff, Option.map_eq_some_iff] at h
    obtain ⟨jq, rfl, ⟨a, jq', left⟩, hout, rfl⟩ := h
    refine ⟨fun b hb => Or.inr (Option.mem_toList.1 hb), fun b hb => ?_⟩
    exact JobQueue.retry_of_accept (toOption_eq_some_iff.1 hout) hb
  | delete i =>
    simp only [edit?, Option.map_eq_some_iff] at h
    obtain ⟨jq, rfl, rfl⟩ := h
    exact ⟨fun b hb => (by cases hb), fun b hb => by cases hb⟩

lemma Change.edit?_under {jq? : Option JobQueue} {n n' : ℕ} (h : c.edit? jq? j n ids = some e)
    (hn : jq? ≠ none ∨ n' = n) (hids : e.retry = none ∨ ids' = ids) :
    ∃ m, e.ids = ids.advance m ∧
      c.edit? jq? j n' ids' = some { e with ids := ids'.advance m } := by
  cases c with
  | enqueue i priority buckets =>
    have hjob : jq?.getD (.new ⟨j, priority, n'⟩) = jq?.getD (.new ⟨j, priority, n⟩) := by
      rcases hn with hn | rfl
      · obtain ⟨jq, rfl⟩ := Option.ne_none_iff_exists'.1 hn
        rfl
      · rfl
    simp only [edit?, hjob] at h ⊢
    split at h
    · cases h
    · obtain rfl := Option.some.inj h
      rw [if_neg ‹_›]
      exact ⟨0, rfl, rfl⟩
  | accept result w r =>
    simp only [edit?, Option.bind_eq_some_iff, Option.map_eq_some_iff] at h
    obtain ⟨jq, rfl, ⟨a, jq', left⟩, hout, rfl⟩ := h
    have hacc := toOption_eq_some_iff.1 hout
    have hnext (b : BucketId) (hb : a.retry? = some b) : b = ⟨ids'.next⟩ := by
      rcases hids with hnone | rfl
      · exact absurd (hnone.symm.trans hb) (by simp)
      · exact (JobQueue.retry_of_accept hacc hb).1
    obtain ⟨m, hm, hacc'⟩ := JobQueue.accept_of_retry hnext hacc
    refine ⟨m, hm, ?_⟩
    simp only [edit?, Option.bind_some, hacc', Except.toOption, Option.map_some]
  | delete i =>
    simp only [edit?, Option.map_eq_some_iff] at h
    obtain ⟨jq, rfl, rfl⟩ := h
    exact ⟨0, rfl, rfl⟩

lemma Change.exists_edit? {jq? : Option JobQueue} {n : ℕ} (h : c.edit? jq? j n ids = some e)
    (n' : ℕ) (ids' : IdSource) : ∃ e', c.edit? jq? j n' ids' = some e' := by
  cases c with
  | enqueue i priority buckets =>
    have hjob : (jq?.getD (.new ⟨j, priority, n'⟩)).deleted =
        (jq?.getD (.new ⟨j, priority, n⟩)).deleted := by
      cases jq? <;> rfl
    simp only [edit?, hjob] at h ⊢
    split at h
    · cases h
    · rw [if_neg ‹_›]
      exact ⟨_, rfl⟩
  | accept result w r =>
    simp only [edit?, Option.bind_eq_some_iff, Option.map_eq_some_iff] at h
    obtain ⟨jq, rfl, ⟨a, jq', left⟩, hout, rfl⟩ := h
    have hacc' : ∃ out, jq.accept result w r ids' = .ok out := by
      rcases JobQueue.accept_cases (toOption_eq_some_iff.1 hout) with
        ⟨o, ho, hf, ht, -⟩ | ⟨-, -, -, -, hn⟩
      · exact ⟨_, JobQueue.accept_of_owner ho hf ht ids'⟩
      · obtain ⟨why, hwhy⟩ := JobQueue.accept_of_other hn ids'
        exact ⟨_, hwhy⟩
    obtain ⟨out, hacc'⟩ := hacc'
    simp only [edit?, Option.bind_some, hacc', Except.toOption, Option.map_some]
    exact ⟨_, rfl⟩
  | delete i =>
    simp only [edit?, Option.map_eq_some_iff] at h
    obtain ⟨jq, rfl, rfl⟩ := h
    exact ⟨_, rfl⟩

/-! ### What an edit leaves as it was -/

lemma find?_edited (q : BucketQueue) (j : JobId) (e : Change.Edit) (k : JobId) :
    (q.edited j e).jobs.find? k =
      if k = j then (some e.job).filter fun jq => !jq.isClosed else q.jobs.find? k := by
  rw [edited, find?_finalize, Table.find?_insert]
  split <;> rfl

lemma find?_owners_finalize {jq : JobQueue} (hj : q.jobs.find? j = some jq) (b : BucketId) :
    (q.finalize j).owners.find? b =
      (q.owners.find? b).filter fun k => !(k = j && jq.isClosed) := by
  rw [finalize, hj]
  dsimp only
  rw [← JobQueue.isClosed]
  cases jq.isClosed with
  | true => simp
  | false => cases h : q.owners.find? b <;> simp [h, Option.filter_some]

lemma find?_owners_edited (q : BucketQueue) (j : JobId) (e : Change.Edit) (b : BucketId) :
    (q.edited j e).owners.find? b =
      (if b ∈ e.learned then some j else q.owners.find? b).filter
        fun k => !(k = j && e.job.isClosed) := by
  rw [edited, find?_owners_finalize (by rw [Table.find?_insert, if_pos rfl]), find?_assign]

lemma nextSequence_edited (q : BucketQueue) (j : JobId) (e : Change.Edit) :
    (q.edited j e).nextSequence =
      if q.jobs.contains j then q.nextSequence else q.nextSequence + 1 :=
  nextSequence_finalize _ _

lemma Ranked.change (hq : q.Ranked) {out : Changed} (h : q.change ids c = .ok out) :
    out.queue.Ranked := by
  have hmap {α : Type} {f : α → Changed} {x : Except QueueError α} (hx : x.map f = .ok out) :
      ∃ y, x = .ok y ∧ out = f y := by
    cases x with
    | error e => cases hx
    | ok y => exact ⟨y, rfl, (Except.ok.inj hx).symm⟩
  cases c with
  | enqueue j priority buckets =>
    obtain ⟨_, hdone, rfl⟩ := hmap h
    exact hq.enqueue hdone
  | accept result w r =>
    obtain ⟨_, hdone, rfl⟩ := hmap h
    exact hq.accept hdone
  | delete j =>
    obtain ⟨_, hdone, rfl⟩ := hmap h
    exact hq.delete hdone

lemma Ranked.spares_change (hq : q.Ranked) {out : Changed} (h : q.change ids c = .ok out) :
    ∃ j, c.job? q = some j ∧ q.Spares out.queue fun k => k = j := by
  obtain ⟨j, e, hj, -, rfl⟩ := change_eq_ok_iff.1 h
  refine ⟨j, hj, hq.spares (hq.change h) fun k hk => ?_⟩
  rw [find?_edited, if_neg (of_decide_eq_false hk)]

/-! ### Exchanging two edits -/

lemma edited_comm (hkj : k ≠ j) (hd : e.learned.Disjoint f.learned) :
    ((q.edited j e).edited k f).Alike ((q.edited k f).edited j e) where
  jobs := Table.perm_iff_find?.2 fun i => by
    simp only [find?_edited]
    by_cases hk : i = k
    · rw [if_pos hk, if_neg (hk ▸ hkj), if_pos hk]
    · rw [if_neg hk, if_neg hk]
  owners := Table.perm_iff_find?.2 fun b => by
    simp only [find?_owners_edited]
    by_cases hf : b ∈ f.learned
    · have he : b ∉ e.learned := fun he => hd he hf
      rw [if_pos hf, if_neg he, if_pos hf]
      cases f.job.isClosed <;> simp [hkj, Option.filter_some]
    · rw [if_neg hf, if_neg hf]
      by_cases he : b ∈ e.learned
      · rw [if_pos he, if_pos he]
        cases e.job.isClosed <;> simp [hkj.symm, Option.filter_some]
      · rw [if_neg he, if_neg he, Option.filter_filter, Option.filter_filter]
        exact congrArg (Option.filter · _) (funext fun i => Bool.and_comm _ _)
  nextSequence := by
    have hj : (q.edited k f).jobs.contains j = q.jobs.contains j := by
      rw [Table.contains_eq_isSome, find?_edited, if_neg hkj.symm, Table.contains_eq_isSome]
    have hk : (q.edited j e).jobs.contains k = q.jobs.contains k := by
      rw [Table.contains_eq_isSome, find?_edited, if_neg hkj, Table.contains_eq_isSome]
    simp only [nextSequence_edited, hj, hk]
    split <;> split <;> rfl

lemma job?_edited (hnew : ∀ b ∈ e.learned, q.owners.find? b = none) (hkj : k ≠ j) :
    c.job? (q.edited j e) = some k ↔ c.job? q = some k := by
  cases c with
  | enqueue i priority buckets => rfl
  | accept result w r =>
    simp only [Change.job?, find?_owners_edited]
    by_cases hb : result.bucketId ∈ e.learned
    · have hne : j ≠ k := hkj.symm
      rw [if_pos hb, hnew _ hb]
      simp [Option.filter_eq_some_iff, hne]
    · rw [if_neg hb, Option.filter_eq_some_iff]
      simp [hkj]
  | delete i => rfl

/-! ### Exchanging two operations -/

lemma Change.ids_ne_of_retry {jq? : Option JobQueue} {n : ℕ} {b : BucketId}
    (h : c.edit? jq? j n ids = some e) (hb : e.retry = some b) : e.ids ≠ ids := by
  rw [((of_edit? h).2 b hb).2]
  intro he
  exact Nat.succ_ne_self ids.drawn (congrArg IdSource.drawn he)

lemma change_after (hc : c.job? (q.edited j e) = some k) (hkj : k ≠ j)
    (hf : c.edit? (q.jobs.find? k) k q.nextSequence ids = some f)
    (hold : q.jobs.find? j ≠ none ∨ q.jobs.find? k ≠ none)
    (hids : f.retry = none ∨ ids' = ids) :
    ∃ n, f.ids = ids.advance n ∧ (q.edited j e).change ids' c =
      .ok ⟨f.retry, (q.edited j e).edited k f, ids'.advance n⟩ := by
  have hnext : q.jobs.find? k ≠ none ∨ (q.edited j e).nextSequence = q.nextSequence := by
    refine hold.symm.imp_right fun hj => ?_
    obtain ⟨jq, hj⟩ := Option.ne_none_iff_exists'.1 hj
    rw [nextSequence_edited, if_pos (Table.contains_iff.2 ⟨jq, hj⟩)]
  obtain ⟨n, hn, hf'⟩ := Change.edit?_under hf hnext hids
  refine ⟨n, hn, change_eq_ok_iff.2 ⟨k, { f with ids := ids'.advance n }, hc, ?_, rfl⟩⟩
  rw [find?_edited, if_neg hkj]
  exact hf'

section

variable {c₁ c₂ : Change} {out₁ out₂ : Changed}
  (hnew : ∀ b ∈ c₁.newIds ++ c₂.newIds, q.owners.find? b = none ∧ b ≠ ⟨ids.next⟩)
  (hnext : q.owners.find? ⟨ids.next⟩ = none)

include hnew hnext

lemma learned_fresh (hc : c = c₁ ∨ c = c₂) {jq? : Option JobQueue} {n : ℕ}
    (he : c.edit? jq? j n ids = some e) : ∀ b ∈ e.learned, q.owners.find? b = none := by
  intro b hb
  rcases (Change.of_edit? he).1 b hb with hm | hr
  · refine (hnew b (List.mem_append.2 ?_)).1
    rcases hc with rfl | rfl
    · exact Or.inl hm
    · exact Or.inr hm
  · rw [((Change.of_edit? he).2 b hr).1, hnext]

variable (h₁ : q.change ids c₁ = .ok out₁) (hj : c₁.job? q = some j) (hkj : k ≠ j)

include h₁ hj hkj

lemma change_before {out₁₂ : Changed} (hk : c₂.job? out₁.queue = some k)
    (h₁₂ : out₁.queue.change out₁.ids c₂ = .ok out₁₂) :
    c₂.job? q = some k ∧ ∃ out₂, q.change ids c₂ = .ok out₂ := by
  obtain ⟨i, e, hi, he, rfl⟩ := change_eq_ok_iff.1 h₁
  obtain rfl := Option.some.inj (hi.symm.trans hj)
  obtain ⟨l, f, hl, hf, -⟩ := change_eq_ok_iff.1 h₁₂
  obtain rfl := Option.some.inj (hl.symm.trans hk)
  have hk' := (job?_edited (learned_fresh hnew hnext (Or.inl rfl) he) hkj).1 hk
  rw [find?_edited, if_neg hkj] at hf
  obtain ⟨f', hf'⟩ := Change.exists_edit? hf q.nextSequence ids
  exact ⟨hk', _, change_eq_ok_iff.2 ⟨_, f', hk', hf', rfl⟩⟩

/-- Two operations on different jobs lead to the same queue in either order, unless both create
their jobs, or both draw an identifier and a retry gets one of them. -/
lemma change_comm (hd : c₁.newIds.Disjoint c₂.newIds) (hk : c₂.job? q = some k)
    (h₂ : q.change ids c₂ = .ok out₂) (hold : q.jobs.find? j ≠ none ∨ q.jobs.find? k ≠ none)
    (hdraw : out₁.ids = ids ∨ out₂.ids = ids ∨ out₁.retry = none ∧ out₂.retry = none) :
    ∃ out₁₂ out₂₁, out₁.queue.change out₁.ids c₂ = .ok out₁₂ ∧
      out₂.queue.change out₂.ids c₁ = .ok out₂₁ ∧
      out₁₂.queue.Alike out₂₁.queue ∧ out₁₂.ids = out₂₁.ids := by
  obtain ⟨i, e, hi, he, rfl⟩ := change_eq_ok_iff.1 h₁
  obtain rfl := Option.some.inj (hi.symm.trans hj)
  obtain ⟨l, f, hl, hf, rfl⟩ := change_eq_ok_iff.1 h₂
  obtain rfl := Option.some.inj (hl.symm.trans hk)
  have hfirst : f.retry = none ∨ e.ids = ids := by
    rcases hdraw with hids | hids | ⟨-, hnone⟩
    · exact Or.inr hids
    · refine Or.inl (Option.eq_none_iff_forall_ne_some.2 fun b hb => ?_)
      exact Change.ids_ne_of_retry hf hb hids
    · exact Or.inl hnone
  have hsecond : e.retry = none ∨ f.ids = ids := by
    rcases hdraw with hids | hids | ⟨hnone, -⟩
    · refine Or.inl (Option.eq_none_iff_forall_ne_some.2 fun b hb => ?_)
      exact Change.ids_ne_of_retry he hb hids
    · exact Or.inr hids
    · exact Or.inl hnone
  have hlearned : e.learned.Disjoint f.learned := by
    intro b hbe hbf
    rcases (Change.of_edit? he).1 b hbe with hm | hr
    · rcases (Change.of_edit? hf).1 b hbf with hm' | hr'
      · exact hd hm hm'
      · exact (hnew b (List.mem_append_left _ hm)).2 ((Change.of_edit? hf).2 b hr').1
    · rcases (Change.of_edit? hf).1 b hbf with hm' | hr'
      · exact (hnew b (List.mem_append_right _ hm')).2 ((Change.of_edit? he).2 b hr).1
      · -- Two retries of one name: both operations would have drawn, which `hfirst` excludes.
        rcases hfirst with hnone | hids
        · exact absurd (hnone.symm.trans hr') (by simp)
        · exact Change.ids_ne_of_retry he hr hids
  obtain ⟨m, hm, h₁₂⟩ := change_after (e := e)
    ((job?_edited (learned_fresh hnew hnext (Or.inl rfl) he) hkj).2 hk) hkj hf hold hfirst
  obtain ⟨n, hn, h₂₁⟩ := change_after (e := f)
    ((job?_edited (learned_fresh hnew hnext (Or.inr rfl) hf) hkj.symm).2 hj) hkj.symm he hold.symm
    hsecond
  refine ⟨_, _, h₁₂, h₂₁, edited_comm hkj hlearned, ?_⟩
  simp only [hm, hn, IdSource.advance, Nat.add_right_comm]

end

end

end BucketQueue

end TestQueue
