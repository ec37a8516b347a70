import TestQueue.Proofs.Agreement
import TestQueue.Proofs.Redelivery
import TestQueue.Proofs.Refusal
import TestQueue.Proofs.Registration

namespace TestQueue

open Time (Instant)

namespace Event

variable {e : Event}

lemma signature_after (e : Event) : e.after.signature = e.server.signature :=
  (Dispatcher.continues_perform e.server e.now e.command).signature

lemma signature_of_registered {c : WorkerConfiguration} (ha : e.answer = .ok (.registered c)) :
    c.signature = some e.server.signature := by
  have hkind := answer_inKind ha
  cases hc : e.command <;> simp only [hc, inKind, Bool.false_eq_true] at hkind
  next w declared =>
    obtain ⟨given, -, -, -, rfl⟩ :=
      Dispatcher.admission_eq_ok_iff.1 (admission_of_registered hc ha)
    rfl

section

variable {request : FetchRequest} {a : FetchAnswer} (hc : e.command = .fetch request)

include hc

lemma signature_of_fetched (ha : e.answer = .ok (.fetched a)) :
    request.signature = e.server.signature := by
  by_contra hsig
  simp [answer, hc, Dispatcher.perform, Dispatcher.answering, Dispatcher.fetchBucket, hsig,
    Except.map] at ha

lemma fetched_of_signature (hsig : request.signature = e.server.signature) :
    ∃ a, e.answer = .ok (.fetched a) := by
  simp only [answer, hc, Dispatcher.perform, Dispatcher.answering, Dispatcher.fetchBucket, hsig,
    ne_eq, not_true_eq_false, if_false]
  split <;> exact ⟨_, rfl⟩

variable (hs : e.server.Sound) (hq : e.server.queue.Ranked)

include hs hq

lemma bucket_of_out {p : Bucket} {b : BucketId} (ha : e.answer = .ok (.fetched (.bucket p)))
    (hout : e.after.queue.Out b request.workerId request.requestId) : b = p.bucketId := by
  obtain ⟨h, hh, rfl, hf⟩ := holds_of_delivers hs ⟨request, hc, rfl, rfl, ha⟩
  obtain ⟨k, hk, rfl, hw, hr⟩ := hout
  rw [(ranked_after hs hq).handOut_unique hk hh (HandOut.isFor_iff.2 ⟨hw, hr⟩) hf]

lemma not_out_of_declined (hagree : e.server.Agrees) (ha : e.answer = .ok (.fetched a))
    (hbucket : ∀ p, a ≠ .bucket p) (hrefused : ∀ reason, a ≠ .refused reason) (b : BucketId) :
    ¬ e.after.queue.Out b request.workerId request.requestId := by
  intro hout
  have hsig := signature_of_fetched hc ha
  rw [out_after hs.queue] at hout
  obtain ⟨_, p, -, -, -, hans, -⟩ | ⟨⟨h, hh, rfl, hw, hr⟩, -, -⟩ := hout
  · rw [ha] at hans
    exact hbucket p (by simpa using hans)
  · have hst := Dispatcher.alive_of_mem_handOuts hagree hh
    rw [hw] at hst
    cases hb : (e.server.roster.record request.workerId).blocked with
    | true =>
      have hel : e.server.roster.eligibility request.workerId = .blocked := by
        rw [Roster.eligibility, WorkerRecord.eligibility, hst, hb]
        rfl
      simp [answer, hc, Dispatcher.perform, Dispatcher.answering, Dispatcher.fetchBucket, hsig,
        Dispatcher.indicateActivity, Dispatcher.denial, hel, Except.map] at ha
      exact hrefused _ ha.symm
    | false =>
      have hel := Roster.eligibility_eq_eligible.2 ⟨hst, hb⟩
      have hholds : e.server.queue.Holds h.bucket request.workerId request.requestId :=
        ⟨h, hh, rfl, HandOut.isFor_iff.2 ⟨hw, hr⟩⟩
      have hans := Dispatcher.fetch_of_holds hq hholds hsig hel e.now
      rw [answer, hc, hans] at ha
      exact hbucket h.bucket (by simpa using ha.symm)

end

lemma not_out_of_ignored {d : Dispatcher} (hs : d.Sound) {request : SubmitRequest} {now : Instant}
    {reason : String} (ha : (d.submitResult request now).1 = .ok (.ignored reason)) :
    ¬ d.queue.Out request.result.bucketId request.workerId request.requestId := by
  unfold Dispatcher.submitResult at ha
  split at ha
  · cases ha
  · dsimp only at ha
    split at ha
    · unfold Dispatcher.settle at ha
      split at ha
      · cases ha
      · next hacc =>
        obtain ⟨j, jq, ho, hj, ⟨_, _, -, -, -, hr, -⟩ | ⟨_, -, -, -, hother⟩⟩ :=
          BucketQueue.accept_cases hacc
        · cases hr
        · intro hout
          obtain ⟨o, hf, hw⟩ := (hs.queue.toRouted.out_iff ho hj).1 hout
          exact absurd (hw.symm.trans (hother o hf)) (by simp)
      · cases ha
    · cases ha

section

variable {request : SubmitRequest} {a : SubmitAnswer} (hc : e.command = .submit request)
  (hs : e.server.Sound)

include hc hs

lemma not_out_of_submitted (ha : e.answer = .ok (.submitted a)) :
    ¬ e.after.queue.Out request.result.bucketId request.workerId request.requestId := by
  intro hout
  rw [out_after hs.queue] at hout
  obtain hhand | ⟨hout, hnacc, -⟩ := hout
  · exact not_handsOut (by simp [hc]) hhand
  · cases a with
    | accepted c retry => exact hnacc ((accepts_iff hc ha).2 rfl)
    | ignored reason =>
      rw [answer, hc] at ha
      have hign : (e.server.submitResult request e.now).1 = .ok (.ignored reason) := by
        cases hr : (e.server.submitResult request e.now).1 with
        | error err => simp [Dispatcher.perform, Dispatcher.answering, hr, Except.map] at ha
        | ok x => simpa [Dispatcher.perform, Dispatcher.answering, hr, Except.map] using ha
      exact not_out_of_ignored hs hign hout

end

end Event

end TestQueue
