import Mathlib.Tactic
import TestQueue.Proofs.Calendar
import TestQueue.Time.Timestamp

namespace TestQueue.Time.Instant

lemma toList_padded (width n : ℕ) :
    (padded width n).toList =
      List.replicate (width - (Nat.toDigits 10 n).length) '0' ++ Nat.toDigits 10 n := by
  simp [padded, Nat.repr_eq_ofList_toDigits]

@[simp] lemma digitsValue_padded (width n : ℕ) : digitsValue (padded width n).toList = n := by
  change Nat.ofDigitChars 10 (padded width n).toList 0 = n
  simp [toList_padded, Nat.ofDigitChars_append]

lemma isDigit_of_mem_padded {width n : ℕ} {c : Char} (h : c ∈ (padded width n).toList) :
    c.isDigit = true := by
  rw [toList_padded, List.mem_append, List.mem_replicate] at h
  rcases h with ⟨-, rfl⟩ | h
  · decide
  · exact Nat.isDigit_of_mem_toDigits (by decide) (by decide) h

lemma padded_ne_nil (width n : ℕ) : (padded width n).toList ≠ [] := by
  simp [toList_padded]

lemma length_padded {width n : ℕ} (hw : 0 < width) (hn : n < 10 ^ width) :
    (padded width n).toList.length = width := by
  have h := (Nat.length_toDigits_le_iff (b := 10) (by decide) hw).2 hn
  simp only [toList_padded, List.length_append, List.length_replicate]
  omega

lemma number?_append {most : ℕ} {digits rest : List Char} (hd : ∀ c ∈ digits, c.isDigit = true)
    (hne : digits ≠ []) (hl : digits.length ≤ most)
    (hr : ∀ c ∈ rest.head?, c.isDigit = false) :
    number? most (digits ++ rest) = some (digitsValue digits, rest) := by
  have htake : ((digits ++ rest).take most).takeWhile Char.isDigit = digits := by
    rw [List.take_append, List.take_of_length_le hl, List.takeWhile_append_of_pos hd]
    cases rest with
    | nil => simp
    | cons c rest =>
      cases most - digits.length with
      | zero => simp
      | succ k => simp [hr c (by simp)]
  simp [number?, htake, hne]

lemma number?_padded {most width n : ℕ} {rest : List Char} (hw : 0 < width) (hm : width ≤ most)
    (hn : n < 10 ^ width) (hr : ∀ c ∈ rest.head?, c.isDigit = false) :
    number? most ((padded width n).toList ++ rest) = some (n, rest) := by
  rw [number?_append (fun c => isDigit_of_mem_padded) (padded_ne_nil width n)
    (by rw [length_padded hw hn]; exact hm) hr, digitsValue_padded]

lemma not_isBlank_of_isDigit {c : Char} (h : c.isDigit = true) : Text.isBlank c = false := by
  simp only [Char.isDigit, Bool.and_eq_true, decide_eq_true_eq, UInt32.le_iff_toNat_le] at h
  have h₀ : 48 ≤ c.toNat := h.1
  have h₁ : c.toNat ≤ 57 := h.2
  simp only [Text.isBlank, Bool.or_eq_false_iff, Bool.and_eq_false_iff, decide_eq_false_iff_not]
  omega

lemma skipBlanks_cons {c : Char} {s : List Char} (h : Text.isBlank c = false) :
    skipBlanks (c :: s) = c :: s := by
  simp [skipBlanks, h]

lemma skipBlanks_padded (width n : ℕ) (rest : List Char) :
    skipBlanks ((padded width n).toList ++ rest) = (padded width n).toList ++ rest := by
  obtain ⟨c, digits, h⟩ := List.exists_cons_of_ne_nil (padded_ne_nil width n)
  have hc : c ∈ (padded width n).toList := by simp [h]
  rw [h]
  exact skipBlanks_cons (not_isBlank_of_isDigit (isDigit_of_mem_padded hc))

lemma part?_padded {n : ℕ} {rest : List Char} (hn : n < 100)
    (hr : ∀ c ∈ rest.head?, c.isDigit = false) :
    part? 2 ((padded 2 n).toList ++ rest) = some (n, rest) := by
  rw [part?, skipBlanks_padded, number?_padded (by decide) le_rfl (by omega) hr]

lemma mark?_cons {c : Char} (rest : List Char) (h : Text.isBlank c = false) :
    mark? c (c :: rest) = some rest := by
  simp [mark?, skipBlanks_cons h]

lemma year?_of_isDigit {c : Char} {s : List Char} (h : c.isDigit = true) :
    year? (c :: s) = (number? 4 (c :: s)).map fun (n, rest) => ((n : ℤ), rest) := by
  have hs := skipBlanks_cons (s := s) (not_isBlank_of_isDigit h)
  unfold year?
  split
  · next he =>
    obtain ⟨rfl, -⟩ := List.cons.inj (hs.symm.trans he)
    exact absurd h (by decide)
  · next he =>
    obtain ⟨rfl, -⟩ := List.cons.inj (hs.symm.trans he)
    exact absurd h (by decide)
  · rw [hs]

lemma year?_yearText (year : ℤ) {rest : List Char} (hr : ∀ c ∈ rest.head?, c.isDigit = false) :
    year? ((yearText year).toList ++ rest) = some (year, rest) := by
  have hsigned : number? ((padded 4 year.natAbs).toList ++ rest).length
      ((padded 4 year.natAbs).toList ++ rest) = some (year.natAbs, rest) := by
    rw [number?_append (fun c => isDigit_of_mem_padded) (padded_ne_nil 4 year.natAbs) (by simp) hr,
      digitsValue_padded]
  by_cases hy : 0 ≤ year ∧ year ≤ 9999
  · have hnumber : number? 4 ((padded 4 year.toNat).toList ++ rest) = some (year.toNat, rest) :=
      number?_padded (by decide) le_rfl (by omega) hr
    obtain ⟨c, digits, h⟩ := List.exists_cons_of_ne_nil (padded_ne_nil 4 year.toNat)
    have hc : c ∈ (padded 4 year.toNat).toList := by simp [h]
    rw [h] at hnumber
    rw [yearText, if_pos hy, h, List.cons_append, year?_of_isDigit (isDigit_of_mem_padded hc),
      ← List.cons_append, hnumber]
    simp [hy.1]
  · by_cases hneg : year < 0
    · have hs : skipBlanks ('-' :: ((padded 4 year.natAbs).toList ++ rest)) =
          '-' :: ((padded 4 year.natAbs).toList ++ rest) := skipBlanks_cons (by decide)
      simp only [yearText, if_neg hy, if_pos hneg, String.toList_append, String.reduceToList,
        List.cons_append, List.nil_append, year?, hs, hsigned, Option.map_some]
      simp [abs_of_neg hneg]
    · have hs : skipBlanks ('+' :: ((padded 4 year.natAbs).toList ++ rest)) =
          '+' :: ((padded 4 year.natAbs).toList ++ rest) := skipBlanks_cons (by decide)
      simp only [yearText, if_neg hy, if_neg hneg, String.toList_append, String.reduceToList,
        List.cons_append, List.nil_append, year?, hs, hsigned, Option.map_some]
      simp [abs_of_nonneg (not_lt.1 hneg)]

lemma decimals?_padded {width n nano : ℕ} (hw : 0 < width) (hw' : width ≤ 9)
    (h : nano = n * 10 ^ (9 - width)) (hn : n < 10 ^ width) :
    decimals? (("." ++ padded width n).toList ++ ['Z']) = some (nano, ['Z']) := by
  have hnumber : number? 9 ((padded width n).toList ++ ['Z']) = some (n, ['Z']) :=
    number?_padded hw hw' hn (by simp)
  simp [decimals?, hnumber, length_padded hw hn, h]

lemma decimals?_decimalsText {nano : ℕ} (h : nano < 1000000000) :
    decimals? ((decimalsText nano).toList ++ ['Z']) = some (nano, ['Z']) := by
  unfold decimalsText
  split_ifs with h₀ h₃ h₆
  · simp [decimals?, h₀]
  · exact decimals?_padded (by decide) (by decide) (by omega) (by omega)
  · exact decimals?_padded (by decide) (by decide) (by omega) (by omega)
  · exact decimals?_padded (by decide) (by decide) (by omega) (by omega)

lemma of?_eq (t : Instant) : of? t.second t.nano = some t :=
  dif_pos ⟨t.second_ge, t.second_le, t.nano_lt⟩

/-- The seconds of a leap second are written as the sixtieth of the minute. -/
lemma ofParts?_parts (t : Instant) {date : Date} {clock : ℕ}
    (hdate : date = Date.ofDays (t.second / 86400)) (hclock : clock = (t.second % 86400).toNat) :
    ofParts? date (clock / 3600) (clock / 60 % 60) (clock % 60 + t.nano / 1000000000)
      (t.nano % 1000000000) 0 = some t := by
  have hge := t.second_ge
  have hle := t.second_le
  have hnano := t.nano_lt
  have hyear : firstYear ≤ (Date.ofDays (t.second / 86400)).year ∧
      (Date.ofDays (t.second / 86400)).year ≤ lastYear :=
    Date.year_ofDays (by omega) (by omega)
  have hdays : date.toDays = t.second / 86400 := by rw [hdate, Date.toDays_ofDays]
  rw [ofParts?, if_pos ⟨hdate ▸ Date.isValid_ofDays _, hdate ▸ hyear.1, hdate ▸ hyear.2, by omega,
    by omega, by omega⟩]
  have hsecond : ∀ s : ℕ, s = clock % 60 →
      date.toDays * 86400 + (clock / 3600 : ℕ) * 3600 + (clock / 60 % 60 : ℕ) * 60 + s - 0 =
        t.second := by
    intro s hs
    omega
  by_cases hleap : t.nano < 1000000000
  · rw [if_neg (by omega)]
    simp only [Nat.div_eq_of_lt hleap, Nat.mod_eq_of_lt hleap, Nat.add_zero, hsecond _ rfl, of?_eq]
  · rw [if_pos (by omega)]
    simp only [hsecond 59 (by omega)]
    rw [show t.nano % 1000000000 + 1000000000 = t.nano by omega, of?_eq]

lemma decimalsText_head (nano : ℕ) :
    ∀ c ∈ ((decimalsText nano).toList ++ ['Z']).head?, c.isDigit = false := by
  unfold decimalsText
  split_ifs <;> simp

lemma bind_eq_of_some {α β : Type} {x : Option α} {a : α} {f : α → Option β} {b? : Option β}
    (hx : x = some a) (h : f a = b?) : (x >>= f) = b? := by
  rw [hx]
  exact h

theorem ofText?_toText (t : Instant) : ofText? t.toText = some t := by
  have hnano := t.nano_lt
  obtain ⟨date, hdate⟩ : ∃ date, date = Date.ofDays (t.second / 86400) := ⟨_, rfl⟩
  obtain ⟨clock, hclock⟩ : ∃ clock, clock = (t.second % 86400).toNat := ⟨_, rfl⟩
  obtain ⟨hmonth, hday⟩ := Date.two_digits_of_isValid (hdate ▸ Date.isValid_ofDays _)
  have hparts := ofParts?_parts t hdate hclock
  have hdecimals : decimals? ((decimalsText (t.nano % 1000000000)).toList ++ ['Z']) =
      some (t.nano % 1000000000, ['Z']) := decimals?_decimalsText (by omega)
  have hdash : ∀ s, mark? '-' ('-' :: s) = some s := fun s => mark?_cons s (by decide)
  have hcolon : ∀ s, mark? ':' (':' :: s) = some s := fun s => mark?_cons s (by decide)
  have hzone : zone? (skipBlanks ['Z']) = some (0, []) := by decide
  have htext : t.toText.toList = (yearText date.year).toList ++ '-' ::
      ((padded 2 date.month).toList ++ '-' :: ((padded 2 date.day).toList ++ 'T' ::
      ((padded 2 (clock / 3600)).toList ++ ':' :: ((padded 2 (clock / 60 % 60)).toList ++ ':' ::
      ((padded 2 (clock % 60 + t.nano / 1000000000)).toList ++
      ((decimalsText (t.nano % 1000000000)).toList ++ ['Z'])))))) := by
    rw [hdate, hclock, toText]
    simp only [String.toList_append, String.reduceToList, List.append_assoc, List.cons_append,
      List.nil_append]
  rw [ofText?, htext]
  refine bind_eq_of_some (year?_yearText date.year (by simp)) ?_
  refine bind_eq_of_some (hdash _) ?_
  refine bind_eq_of_some (part?_padded hmonth (by simp)) ?_
  refine bind_eq_of_some (hdash _) ?_
  refine bind_eq_of_some (part?_padded hday (by simp)) ?_
  refine bind_eq_of_some (by rfl) ?_
  refine bind_eq_of_some (part?_padded (by omega) (by simp)) ?_
  refine bind_eq_of_some (hcolon _) ?_
  refine bind_eq_of_some (part?_padded (by omega) (by simp)) ?_
  refine bind_eq_of_some (hcolon _) ?_
  refine bind_eq_of_some (part?_padded (by omega) (decimalsText_head _)) ?_
  refine bind_eq_of_some hdecimals ?_
  exact bind_eq_of_some hzone hparts

example : toText ⟨1483228799, 1250000000, by decide, by decide, by decide⟩ =
    "2016-12-31T23:59:60.250Z" := by decide

end TestQueue.Time.Instant
