import Mathlib.Tactic
import TestQueue.Time.Instant

namespace TestQueue.Time.Date

/-- The days of a cycle of 400 years before a year of it, counted from March. -/
def daysBefore (year : ℤ) : ℤ := year * 365 + year / 4 - year / 100

def yearOfDay (day : ℤ) : ℤ := (day - day / 1460 + day / 36524 - day / 146096) / 365

lemma yearOfDay_in_century {century rest : ℤ} (hc : 0 ≤ century) (hc' : century ≤ 3)
    (hr : 0 ≤ rest) (hr' : rest < 36524) :
    yearOfDay (36524 * century + rest) =
      100 * century + (rest - (24 * century + rest) / 1460) / 365 := by
  unfold yearOfDay
  omega

/-- Within four years, the last day of the fourth is the only one that is a leap day. -/
lemma yearOfDay_in_block {century block rest : ℤ} (hc : 0 ≤ century) (hc' : century ≤ 3)
    (hb : 0 ≤ block) (hb' : block ≤ 24) (hr : 0 ≤ rest) (hr' : rest < 1461)
    (h : 1461 * block + rest < 36524) :
    yearOfDay (36524 * century + (1461 * block + rest)) =
      100 * century + 4 * block + min (rest / 365) 3 := by
  rw [yearOfDay_in_century hc hc' (by omega) h]
  omega

lemma day_in_year (day : ℤ) (h₀ : 0 ≤ day) (h₁ : day < 146097) :
    0 ≤ yearOfDay day ∧ yearOfDay day < 400 ∧ daysBefore (yearOfDay day) ≤ day ∧
      day ≤ daysBefore (yearOfDay day) + 365 ∧
      (day = daysBefore (yearOfDay day) + 365 →
        (yearOfDay day + 1) % 4 = 0 ∧
          ((yearOfDay day + 1) % 100 ≠ 0 ∨ (yearOfDay day + 1) % 400 = 0)) := by
  by_cases hl : day = 146096
  · subst hl
    decide
  obtain ⟨century, rest, hc, hc', hr, hr', rfl⟩ :
      ∃ century rest, 0 ≤ century ∧ century ≤ 3 ∧ 0 ≤ rest ∧ rest < 36524 ∧
        day = 36524 * century + rest := ⟨day / 36524, day % 36524, by omega⟩
  obtain ⟨block, rest, hb, hb', hs, hs', rfl⟩ :
      ∃ block part, 0 ≤ block ∧ block ≤ 24 ∧ 0 ≤ part ∧ part < 1461 ∧
        rest = 1461 * block + part := ⟨rest / 1461, rest % 1461, by omega⟩
  rw [yearOfDay_in_block hc hc' hb hb' hs hs' hr']
  obtain ⟨year, hy⟩ : ∃ year, year = min (rest / 365) 3 := ⟨_, rfl⟩
  rw [← hy]
  have h4 : (100 * century + 4 * block + year) / 4 = 25 * century + block := by omega
  have h100 : (100 * century + 4 * block + year) / 100 = century := by omega
  simp only [daysBefore, h4, h100]
  refine ⟨by omega, by omega, by omega, by omega, fun h => ?_⟩
  have hyear : year = 3 := by omega
  subst hyear
  have hbb : block ≠ 24 := by omega
  omega

def ofYearDay (year day : ℤ) : Date :=
  let month := (5 * day + 2) / 153
  let dayOfMonth := (day - (153 * month + 2) / 5 + 1).toNat
  if month < 10 then ⟨year, (month + 3).toNat, dayOfMonth⟩
  else ⟨year + 1, (month - 9).toNat, dayOfMonth⟩

lemma year_ofYearDay (year day : ℤ) :
    (ofYearDay year day).year = if day < 306 then year else year + 1 := by
  simp only [ofYearDay]
  split <;> split <;> first | rfl | omega

lemma isLeapYear_iff (year : ℤ) :
    isLeapYear year = true ↔ year % 4 = 0 ∧ (year % 100 ≠ 0 ∨ year % 400 = 0) := by
  simp [isLeapYear]

lemma isValid_ofYearDay {year day : ℤ} (h₀ : 0 ≤ day) (h₁ : day ≤ 365)
    (hl : day = 365 → isLeapYear (year + 1) = true) : (ofYearDay year day).isValid = true := by
  obtain ⟨month, hm⟩ : ∃ month, month = (5 * day + 2) / 153 := ⟨_, rfl⟩
  have hm₀ : 0 ≤ month := by omega
  have hm₁ : month ≤ 11 := by omega
  simp only [ofYearDay, ← hm]
  by_cases hfeb : month = 11
  · subst hfeb
    simp only [isValid, monthLength]
    by_cases hday : day = 365
    · simp [hl hday, hday]
    · split <;> simp <;> omega
  · interval_cases month <;> simp [isValid, monthLength] <;> omega

lemma toDays_ofYearDay {cycle year day : ℤ} (hy : 0 ≤ year) (hy' : year < 400) (h₀ : 0 ≤ day)
    (h₁ : day ≤ 365) :
    (ofYearDay (cycle * 400 + year) day).toDays =
      cycle * 146097 + daysBefore year + day - 719468 := by
  obtain ⟨month, hm⟩ : ∃ month, month = (5 * day + 2) / 153 := ⟨_, rfl⟩
  have hm₀ : 0 ≤ month := by omega
  have hm₁ : month ≤ 11 := by omega
  have hd : 0 ≤ day - (153 * month + 2) / 5 := by omega
  simp only [ofYearDay, ← hm]
  split <;> simp only [toDays, daysBefore]
  · rw [if_neg (by omega), if_neg (by omega)]
    omega
  · rw [if_pos (by omega), if_pos (by omega)]
    omega

lemma monthLength_le (year : ℤ) (month : ℕ) : monthLength year month ≤ 31 := by
  unfold monthLength
  split_ifs <;> decide

lemma two_digits_of_isValid {d : Date} (h : d.isValid = true) : d.month < 100 ∧ d.day < 100 := by
  simp only [isValid, Bool.and_eq_true, decide_eq_true_eq] at h
  have := monthLength_le d.year d.month
  omega

lemma ofDays_eq (days : ℤ) :
    ∃ cycle year day, 0 ≤ year ∧ year < 400 ∧ 0 ≤ day ∧ day ≤ 365 ∧
      (day = 365 → isLeapYear (cycle * 400 + year + 1) = true) ∧
      days = cycle * 146097 + daysBefore year + day - 719468 ∧
      ofDays days = ofYearDay (cycle * 400 + year) day := by
  obtain ⟨hy, hy', hd, hd', hl⟩ := day_in_year ((days + 719468) % 146097)
    (by omega) (by omega)
  refine ⟨(days + 719468) / 146097, yearOfDay ((days + 719468) % 146097),
    (days + 719468) % 146097 - daysBefore (yearOfDay ((days + 719468) % 146097)),
    hy, hy', by omega, by omega, fun h => (isLeapYear_iff _).2 ?_, by omega, rfl⟩
  have := hl (by omega)
  omega

lemma isValid_ofDays (days : ℤ) : (ofDays days).isValid = true := by
  obtain ⟨cycle, year, day, -, -, hd, hd', hl, -, he⟩ := ofDays_eq days
  rw [he]
  exact isValid_ofYearDay hd hd' hl

theorem toDays_ofDays (days : ℤ) : (ofDays days).toDays = days := by
  obtain ⟨cycle, year, day, hy, hy', hd, hd', -, hdays, he⟩ := ofDays_eq days
  rw [he, toDays_ofYearDay hy hy' hd hd', hdays]

lemma year_ofDays {days : ℤ} (h₀ : firstSecond ≤ days * 86400 + 86399)
    (h₁ : days * 86400 ≤ lastSecond) :
    firstYear ≤ (ofDays days).year ∧ (ofDays days).year ≤ lastYear := by
  obtain ⟨cycle, year, day, hy, hy', hd, hd', -, hdays, he⟩ := ofDays_eq days
  rw [he, year_ofYearDay]
  simp only [firstSecond, lastSecond, firstYear, lastYear, daysBefore] at *
  have hlow : -656 ≤ cycle := by omega
  have hhigh : cycle ≤ 655 := by omega
  constructor
  · by_cases hc : cycle = -656
    · subst hc
      split <;> omega
    · split <;> omega
  · by_cases hc : cycle = 655
    · subst hc
      split <;> omega
    · split <;> omega

end TestQueue.Time.Date
