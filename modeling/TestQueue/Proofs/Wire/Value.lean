import Mathlib.Tactic
import TestQueue.Proofs.Ordered
import TestQueue.Proofs.Table
import TestQueue.Proofs.Wire.Record

namespace TestQueue.Wire

open Json (Decoded RecordReader)

def RoundTrips {α : Type} [Wire α] (a : α) : Prop := decode (encode a) = .ok a

class Lawful (α : Type) [Wire α] : Prop where
  roundTrips : ∀ a : α, RoundTrips a

export Lawful (roundTrips)

instance : Lawful String := ⟨fun _ => rfl⟩

instance : Lawful Bool := ⟨fun _ => rfl⟩

lemma toNatBelow_int {n bound : ℕ} (h : n < bound) :
    (Json.int n).toNatBelow bound = .ok n := by
  simp [Json.toNatBelow, h]

instance : Lawful UInt32 where
  roundTrips n := by
    change ((Json.int n.toNat).toNatBelow UInt32.size).map UInt32.ofNat = .ok n
    rw [toNatBelow_int n.toNat_lt]
    simp [Except.map]

instance : Lawful UInt64 where
  roundTrips n := by
    change ((Json.int n.toNat).toNatBelow UInt64.size).map UInt64.ofNat = .ok n
    rw [toNatBelow_int n.toNat_lt]
    simp [Except.map]

lemma roundTrips_nat {n : ℕ} (h : n < UInt64.size) : RoundTrips n := toNatBelow_int h

lemma roundTrips_float {x : Float} (h : x.isFinite = true) : RoundTrips x := by
  change (Json.ofFloat x).toFloat = .ok x
  rw [Json.ofFloat, if_pos h]
  rfl

variable {α : Type} [Wire α]

lemma roundTrips_option {a? : Option α} (h : ∀ a ∈ a?, RoundTrips a)
    (hnull : (decode .null : Decoded α) = .error .mismatch := by rfl) : RoundTrips a? := by
  cases a? with
  | none => rfl
  | some a =>
    have ha : decode (encode a) = .ok a := h a rfl
    change Json.toOption decode (encode a) = .ok (some a)
    cases he : encode a with
    | null => rw [he, hnull] at ha; cases ha
    | _ => rw [he] at ha; simp [Json.toOption, ha, Except.map]

lemma mapM_map_encode {l : List α} (h : ∀ a ∈ l, RoundTrips a) :
    (l.map encode).mapM (decode : Json → Decoded α) = .ok l := by
  induction l with
  | nil => rfl
  | cons a l ih =>
    have ha : decode (encode a) = .ok a := h a (by simp)
    simp only [List.map_cons, List.mapM_cons, ha, ih fun b hb => h b (by simp [hb])]
    rfl

lemma roundTrips_list {l : List α} (h : ∀ a ∈ l, RoundTrips a) : RoundTrips l := mapM_map_encode h

instance [Lawful α] : Lawful (List α) := ⟨fun _ => roundTrips_list fun a _ => roundTrips a⟩

lemma mapM_memberOf {bs : List (String × α)} (h : ∀ b ∈ bs, RoundTrips b.2) :
    (RecordReader.keyed (bs.map fun b => (b.1, encode b.2))).mapM
      (Json.memberOf (decode : Json → Decoded α)) = .ok bs := by
  induction bs with
  | nil => rfl
  | cons b bs ih =>
    have hb : decode (encode b.2) = .ok b.2 := h b (by simp)
    have hbs := ih fun c hc => h c (by simp [hc])
    simp only [RecordReader.keyed, List.map_cons, List.mapM_cons, Json.memberOf, Json.keyText,
      hb] at hbs ⊢
    rw [hbs]
    rfl

instance [Lawful α] : Lawful (Table String α) where
  roundTrips t := by
    change Except.map Table.ofList (List.mapM _ (RecordReader.keyed _)) = Except.ok t
    rw [mapM_memberOf fun b _ => roundTrips b.2, Except.map, Table.ofList_bindings]

instance {key : α → String} [Lawful α] : Lawful (Ordered α key) where
  roundTrips s := by
    change Except.map Ordered.ofList (List.mapM _ _) = Except.ok s
    rw [mapM_map_encode fun a _ => roundTrips a, Except.map, Ordered.ofList_items]

end TestQueue.Wire

namespace TestQueue.Json

open Wire (RoundTrips encode decode)

namespace RecordReader.Reads

variable {α β : Type} [Wire β] {f : β → α} {ms : List (String × Json)}

lemma required {r : RecordReader (β → α)} (h : r.Reads ms f) (name : String) {b : β}
    (hb : RoundTrips b) (hname : name ∉ r.fields := by decide) :
    (r.required name decode).Reads (ms ++ [(name, encode b)]) (f b) :=
  h.field hname hb

lemma defaulted {r : RecordReader (β → α)} (h : r.Reads ms f) (name : String) {b : β}
    (hb : RoundTrips b) (hname : name ∉ r.fields := by decide) {default : β} :
    (r.defaulted name decode default).Reads (ms ++ [(name, encode b)]) (f b) :=
  h.field hname hb

lemma nullable {f : Option β → α} {r : RecordReader (Option β → α)} (h : r.Reads ms f)
    (name : String) {b? : Option β} (hb : RoundTrips b?)
    (hname : name ∉ r.fields := by decide) :
    (r.nullable name decode).Reads (ms ++ [(name, encode b?)]) (f b?) :=
  h.field hname hb

lemma optional {f : Option β → α} {r : RecordReader (Option β → α)} (h : r.Reads ms f)
    (name : String) {b? : Option β} (hb : RoundTrips b?)
    (hname : name ∉ r.fields := by decide) :
    (r.defaulted name decode none).Reads (ms ++ Wire.optional name b?) (f b?) := by
  cases b? with
  | none =>
    rw [Wire.optional, List.append_nil]
    exact h.field_absent hname rfl
  | some b => exact h.field hname hb

end RecordReader.Reads

lemma isReadable_arr {depth : ℕ} {items : List Json}
    (h : ∀ v ∈ items, v.isReadable depth = true) : (arr items).isReadable (depth + 1) = true := by
  change areReadable depth items = true
  induction items with
  | nil => rfl
  | cons v items ih =>
    rw [areReadable, h v (by simp), ih fun w hw => h w (by simp [hw])]
    rfl

lemma isReadable_object {depth : ℕ} {ms : List (String × Json)}
    (h : ∀ m ∈ ms, m.2.isReadable depth = true) : (object ms).isReadable (depth + 1) = true := by
  change areReadableMembers depth (RecordReader.keyed ms) = true
  induction ms with
  | nil => rfl
  | cons m ms ih =>
    have hms := ih fun n hn => h n (by simp [hn])
    simp only [RecordReader.keyed, List.map_cons, areReadableMembers, isReadable,
      h m (by simp)] at hms ⊢
    rw [hms]
    rfl

lemma splitTag_of_untagged {tag : String} {ms : List (String × Json)}
    (h : ∀ m ∈ ms, m.1 ≠ tag) :
    splitTag tag (RecordReader.keyed ms) = .ok (none, RecordReader.keyed ms) := by
  induction ms with
  | nil => rfl
  | cons m ms ih =>
    have hm : m.1 ≠ tag := h m (by simp)
    have hms := ih fun n hn => h n (by simp [hn])
    simp only [RecordReader.keyed, List.map_cons, splitTag] at hms ⊢
    rw [hms]
    simp [keyText, hm, bind, Except.bind]

lemma tagged_object {tag name : String} {depth : ℕ} {ms : List (String × Json)}
    (hr : (object ((tag, .str name) :: ms)).isReadable depth = true) (h : ∀ m ∈ ms, m.1 ≠ tag) :
    tagged tag depth (object ((tag, .str name) :: ms)) = .ok (name, object ms) := by
  have hsplit : splitTag tag (RecordReader.keyed ((tag, .str name) :: ms)) =
      .ok (some (.str name), RecordReader.keyed ms) := by
    change (splitTag tag (RecordReader.keyed ms)).bind _ = _
    rw [splitTag_of_untagged h]
    change (if tag = tag then _ else _) = _
    rw [if_pos rfl]
    rfl
  change (if _ then (splitTag tag (RecordReader.keyed ((tag, .str name) :: ms))).bind _ else _) = _
  rw [if_pos hr, hsplit]
  rfl

end TestQueue.Json
