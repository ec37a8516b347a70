import Mathlib
import TestQueue.Net.Percent

namespace TestQueue.Net.Percent

open Text (hexDigit hexValue? hexValue?_hexDigit)

def utf8 (s : List Char) : List UInt8 := s.flatMap String.utf8EncodeChar

def digitsNext : List Char → Bool
  | a :: b :: _ => (hexValue? a).isSome && (hexValue? b).isSome
  | _ => false

def hasEscape : List Char → Bool
  | [] => false
  | c :: rest => (c = '%' && digitsNext rest) || hasEscape rest

lemma hasEscape_of_not_mem {s : List Char} (h : '%' ∉ s) : hasEscape s = false := by
  induction s with
  | nil => rfl
  | cons c s ih =>
    obtain ⟨hc, hs⟩ := not_or.1 (mt List.mem_cons.2 h)
    simp [hasEscape, Ne.symm hc, ih hs]

lemma length_utf8EncodeChar_pos (c : Char) : 0 < (String.utf8EncodeChar c).length := by
  rw [String.length_utf8EncodeChar]
  exact c.utf8Size_pos

lemma utf8_cons (c : Char) (s : List Char) : utf8 (c :: s) = String.utf8EncodeChar c ++ utf8 s :=
  List.flatMap_cons

lemma length_utf8_le {s t : List Char} (h : s.Sublist t) : (utf8 s).length ≤ (utf8 t).length := by
  induction h with
  | slnil => exact le_rfl
  | cons c _ ih =>
    rw [utf8_cons, List.length_append]
    omega
  | cons_cons c _ ih =>
    rw [utf8_cons, utf8_cons, List.length_append, List.length_append]
    omega

lemma eq_of_length_utf8 {s t : List Char} (h : s.Sublist t)
    (hlength : (utf8 t).length ≤ (utf8 s).length) : s = t := by
  induction h with
  | slnil => rfl
  | cons c hst =>
    have hle := length_utf8_le hst
    have hpos := length_utf8EncodeChar_pos c
    rw [utf8_cons, List.length_append] at hlength
    omega
  | cons_cons c _ ih =>
    rw [utf8_cons, utf8_cons, List.length_append, List.length_append] at hlength
    rw [ih (by omega)]

lemma decode_cons {c : Char} {rest : List Char} (h : (c = '%' && digitsNext rest) = false) :
    decode (c :: rest) = String.utf8EncodeChar c ++ decode rest := by
  by_cases hc : c = '%'
  · subst hc
    match rest with
    | [] | [_] => rfl
    | a :: b :: rest =>
      rw [decode]
      split
      · next ha hb => simp [digitsNext, ha, hb] at h
      · rfl
  · rw [decode.eq_3]
    rintro a b rest rfl
    exact absurd rfl hc

lemma decode_escaped {a b : Char} {high low : ℕ} (ha : hexValue? a = some high)
    (hb : hexValue? b = some low) (rest : List Char) :
    decode ('%' :: a :: b :: rest) = UInt8.ofNat (16 * high + low) :: decode rest := by
  rw [decode, ha, hb]

lemma decode_escape (b : UInt8) (rest : List Char) : decode (escape b ++ rest) = b :: decode rest := by
  have hb := b.toNat_lt
  change decode ('%' :: hexDigit (b.toNat / 16) :: hexDigit (b.toNat % 16) :: rest) = _
  rw [decode_escaped (hexValue?_hexDigit _ (by omega)) (hexValue?_hexDigit _ (by omega)),
    Nat.div_add_mod, UInt8.ofNat_toNat]

lemma decode_flatMap_escape (bytes : List UInt8) (rest : List Char) :
    decode (bytes.flatMap escape ++ rest) = bytes ++ decode rest := by
  induction bytes with
  | nil => rfl
  | cons b bytes ih => rw [List.flatMap_cons, List.append_assoc, decode_escape, ih, List.cons_append]

lemma reading_induction {P : List Char → Prop} (nil : P [])
    (plain : ∀ c rest, (c = '%' && digitsNext rest) = false → P rest → P (c :: rest))
    (escaped : ∀ a b rest high low, hexValue? a = some high → hexValue? b = some low → P rest →
      P ('%' :: a :: b :: rest)) (s : List Char) : P s := by
  induction s using decode.induct with
  | case1 => exact nil
  | case2 a b rest high low hb ha ih => exact escaped a b rest high low ha hb ih
  | case3 a b rest hnot ih =>
    apply plain _ _ _ ih
    by_contra hd
    simp only [digitsNext, decide_true, Bool.true_and, Bool.not_eq_false, Bool.and_eq_true] at hd
    obtain ⟨high, ha⟩ := Option.isSome_iff_exists.1 hd.1
    obtain ⟨low, hb⟩ := Option.isSome_iff_exists.1 hd.2
    exact hnot high low ha hb
  | case4 c rest hnot ih =>
    apply plain _ _ _ ih
    match rest with
    | [] | [_] => simp [digitsNext]
    | a :: b :: rest =>
      have hc : c ≠ '%' := fun hc => hnot a b rest hc rfl
      simp [hc]

lemma length_decode_le (s : List Char) : (decode s).length ≤ (utf8 s).length := by
  induction s using reading_induction with
  | nil => exact le_rfl
  | plain c rest h ih =>
    rw [decode_cons h, utf8_cons, List.length_append, List.length_append]
    omega
  | escaped a b rest high low ha hb ih =>
    have hpos := length_utf8EncodeChar_pos '%'
    rw [decode_escaped ha hb, utf8_cons, utf8_cons, utf8_cons]
    simp only [List.length_append, List.length_cons]
    omega

lemma length_decode_lt {s : List Char} (h : hasEscape s = true) :
    (decode s).length < (utf8 s).length := by
  induction s using reading_induction with
  | nil => cases h
  | plain c rest hc ih =>
    rw [hasEscape, hc, Bool.false_or] at h
    have hlt := ih h
    rw [decode_cons hc, utf8_cons, List.length_append, List.length_append]
    omega
  | escaped a b rest high low ha hb ih =>
    have hle := length_decode_le rest
    have hpos := length_utf8EncodeChar_pos a
    have hpos' := length_utf8EncodeChar_pos b
    rw [decode_escaped ha hb, utf8_cons, utf8_cons, utf8_cons]
    simp only [List.length_append, List.length_cons]
    omega

lemma decode_of_not_hasEscape {s : List Char} (h : hasEscape s = false) : decode s = utf8 s := by
  induction s with
  | nil => rfl
  | cons c rest ih =>
    obtain ⟨hc, hrest⟩ := Bool.or_eq_false_iff.1 h
    rw [decode_cons hc, ih hrest, utf8_cons]

/-- Only a text without escapes can be read as a text that it is a part of. -/
lemma decode_eq_utf8_iff {s t : List Char} (h : s.Sublist t) :
    decode s = utf8 t ↔ s = t ∧ hasEscape s = false := by
  constructor
  · intro hd
    have hle := length_decode_le s
    obtain rfl := eq_of_length_utf8 h (hd ▸ hle)
    refine ⟨rfl, Bool.eq_false_of_not_eq_true fun he => ?_⟩
    exact absurd (congrArg List.length hd) (length_decode_lt he).ne
  · rintro ⟨rfl, he⟩
    exact decode_of_not_hasEscape he

lemma decodeText?_eq_some_iff {s : List Char} {t : String} :
    decodeText? (String.ofList s) = some t ↔ decode s = utf8 t.toList := by
  have hbytes : t.toByteArray = ⟨(utf8 t.toList).toArray⟩ := by
    apply ByteArray.ext
    rw [← String.ofList_toList (s := t), String.toByteArray_ofList, List.utf8Encode,
      List.data_toByteArray, String.toList_ofList]
    rfl
  rw [decodeText?, String.toList_ofList, String.fromUTF8?]
  constructor
  · intro h
    split at h
    · obtain rfl := Option.some.inj h
      exact congrArg (fun bytes => bytes.data.toList) hbytes
    · cases h
  · intro h
    rw [h, ← hbytes, dif_pos t.isValidUTF8]
    rfl

lemma encode_cons (special : List Char) (c : Char) (s : List Char) : encode special (c :: s) =
    (if isPlain special c then [c] else (String.utf8EncodeChar c).flatMap escape) ++
      encode special s :=
  List.flatMap_cons

lemma encode_of_isPlain {special s : List Char} (h : ∀ c ∈ s, isPlain special c = true) :
    encode special s = s := by
  induction s with
  | nil => rfl
  | cons c s ih =>
    rw [encode_cons, if_pos (h c List.mem_cons_self), ih fun d hd => h d (List.mem_cons_of_mem _ hd)]
    rfl

lemma exists_escape (c : Char) : ∃ rest, (String.utf8EncodeChar c).flatMap escape = '%' :: rest := by
  cases hu : String.utf8EncodeChar c with
  | nil => exact absurd (length_utf8EncodeChar_pos c) (by simp [hu])
  | cons b bytes => exact ⟨_, rfl⟩

lemma exists_encode_cons (special : List Char) {c : Char} (h : hexValue? c = none) (s : List Char) :
    ∃ d rest, encode special (c :: s) = d :: rest ∧ hexValue? d = none := by
  rw [encode_cons]
  split
  · exact ⟨c, _, rfl, h⟩
  · obtain ⟨rest, hrest⟩ := exists_escape c
    exact ⟨'%', rest ++ encode special s, by rw [hrest]; rfl, rfl⟩

section

variable {special : List Char} (hs : ∀ c ∈ special, hexValue? c = none)

include hs

lemma isPlain_of_hexValue? {c : Char} (h : (hexValue? c).isSome = true) :
    isPlain special c = true := by
  have hspecial : c ∉ special := fun hc => by simp [hs c hc] at h
  have hrange : 0x20 ≤ c.toNat ∧ c.toNat < 0x7F := by
    unfold hexValue? at h
    split at h
    · next hd =>
      simp only [Char.isDigit, Bool.and_eq_true, decide_eq_true_eq, ge_iff_le,
        UInt32.le_iff_toNat_le] at hd
      change 48 ≤ c.toNat ∧ c.toNat ≤ 57 at hd
      omega
    · split at h
      · next hl =>
        change 97 ≤ c.toNat ∧ c.toNat ≤ 102 at hl
        omega
      · split at h
        · next hu =>
          change 65 ≤ c.toNat ∧ c.toNat ≤ 70 at hu
          omega
        · cases h
  simp [isPlain, hspecial, hrange]

lemma encode_cons_of_hexValue? {c : Char} (h : (hexValue? c).isSome = true) (s : List Char) :
    encode special (c :: s) = c :: encode special s := by
  rw [encode_cons, if_pos (isPlain_of_hexValue? hs h)]
  rfl

lemma digitsNext_encode (s : List Char) : digitsNext (encode special s) = digitsNext s := by
  match s with
  | [] => rfl
  | a :: s =>
    cases ha : hexValue? a with
    | none =>
      obtain ⟨d, rest, he, hd⟩ := exists_encode_cons special ha s
      rw [he]
      cases rest <;> cases s <;> simp [digitsNext, ha, hd]
    | some high =>
      rw [encode_cons_of_hexValue? hs (by simp [ha])]
      match s with
      | [] => rfl
      | b :: s =>
        cases hb : hexValue? b with
        | none =>
          obtain ⟨d, rest, he, hd⟩ := exists_encode_cons special hb s
          rw [he]
          simp [digitsNext, ha, hb, hd]
        | some low =>
          rw [encode_cons_of_hexValue? hs (by simp [hb])]
          simp [digitsNext, ha, hb]

theorem decode_encode (hpercent : '%' ∉ special) (s : List Char) :
    decode (encode special s) = decode s := by
  induction s using reading_induction with
  | nil => rfl
  | plain c rest hc ih =>
    rw [encode_cons, decode_cons hc]
    split
    · have hc' : (c = '%' && digitsNext (encode special rest)) = false := by
        rwa [digitsNext_encode hs]
      rw [List.singleton_append, decode_cons hc', ih]
    · rw [decode_flatMap_escape, ih]
  | escaped a b rest high low ha hb ih =>
    have hplain : isPlain special '%' = true := by simp [isPlain, hpercent]
    rw [encode_cons, if_pos hplain, encode_cons_of_hexValue? hs (by simp [ha]),
      encode_cons_of_hexValue? hs (by simp [hb]), List.singleton_append, decode_escaped ha hb,
      decode_escaped ha hb, ih]

end

end TestQueue.Net.Percent
