import Mathlib.Data.List.TakeWhile
import Mathlib.Tactic
import TestQueue.Net.SocketAddress

namespace TestQueue.Net

namespace AddressReader

def Stops (radix : ℕ) (s : List Char) : Prop := ∀ c ∈ s.head?, digit? radix c = none

lemma stops_nil (radix : ℕ) : Stops radix [] := by simp [Stops]

@[simp] lemma stops_cons {radix : ℕ} {c : Char} {s : List Char} :
    Stops radix (c :: s) ↔ digit? radix c = none := by
  simp [Stops]

lemma digit?_digitChar {radix d : ℕ} (hr : radix = 10 ∨ radix = 16) (hd : d < radix) :
    digit? radix d.digitChar = some d := by
  rcases hr with rfl | rfl
  · exact (by decide : ∀ d < 10, digit? 10 d.digitChar = some d) d hd
  · exact (by decide : ∀ d < 16, digit? 16 d.digitChar = some d) d hd

lemma Stops.decimal {s : List Char} (h : Stops 16 s) : Stops 10 s := by
  intro c hc
  have := h c hc
  unfold digit? at *
  split_ifs at * <;> simp_all
  omega

lemma digits_of_stops {radix : ℕ} {s : List Char} (h : Stops radix s) (value count : ℕ) :
    digits radix s value count = (value, count, s) := by
  cases s with
  | nil => rfl
  | cons c s => simp [digits, stops_cons.1 h]

lemma digits_digitChar {radix d : ℕ} (hr : radix = 10 ∨ radix = 16) (hd : d < radix)
    (rest : List Char) (value count : ℕ) :
    digits radix (d.digitChar :: rest) value count =
      digits radix rest (value * radix + d) (count + 1) := by
  simp [digits, digit?_digitChar hr hd]

lemma digits_toDigits {radix : ℕ} (hr : radix = 10 ∨ radix = 16) (n : ℕ) (rest : List Char) :
    digits radix (Nat.toDigits radix n ++ rest) 0 0 =
      digits radix rest n (Nat.toDigits radix n).length := by
  have hbase : 1 < radix := by omega
  induction n using Nat.base_induction radix hbase generalizing rest with
  | single d hd => simp [Nat.toDigits_of_lt_base hd, digits_digitChar hr hd]
  | digit n d hd hn ih =>
    rw [← Nat.toDigits_append_toDigits hbase hn hd, List.append_assoc, ih,
      Nat.toDigits_of_lt_base hd]
    simp [digits_digitChar hr hd, Nat.mul_comm]

lemma eq_zero_of_head_toDigits {n : ℕ} (h : (Nat.toDigits 10 n).head? = some '0') : n = 0 := by
  induction n using Nat.base_induction 10 (by decide) with
  | single d hd => simpa [Nat.toDigits_of_lt_base hd] using h
  | digit n d hd hn ih =>
    rw [← Nat.toDigits_append_toDigits (by decide) hn hd,
      List.head?_append_of_ne_nil _ Nat.toDigits_ne_nil] at h
    exact absurd (ih h) (by omega)

lemma number?_toDigits {bound n : ℕ} {rest : List Char} (hn : n < bound) (hs : Stops 10 rest) :
    number? bound (Nat.toDigits 10 n ++ rest) = some (n, rest) := by
  simp [number?, digits_toDigits, digits_of_stops hs, hn]

lemma octet?_toDigits (n : UInt8) {rest : List Char} (hs : Stops 10 rest) :
    octet? (Nat.toDigits 10 n.toNat ++ rest) = some (n, rest) := by
  have hn : n.toNat < 256 := n.toNat_lt
  have hlength := (Nat.length_toDigits_le_iff (b := 10) (n := n.toNat) (k := 3)
    (by decide) (by decide)).2 (by omega)
  have hhead : ¬(1 < (Nat.toDigits 10 n.toNat).length ∧
      (Nat.toDigits 10 n.toNat ++ rest).head? = some '0') := by
    rintro ⟨h, h₀⟩
    rw [List.head?_append_of_ne_nil _ Nat.toDigits_ne_nil] at h₀
    simp [eq_zero_of_head_toDigits h₀] at h
  simp only [octet?, digits_toDigits (.inl rfl), digits_of_stops hs]
  rw [if_neg]
  · simp
  · rintro (h | h | h | h)
    · simp at h
    · omega
    · omega
    · exact hhead h

lemma char?_cons (c : Char) (s : List Char) : char? c (c :: s) = some s := by simp [char?]

lemma ipv4?_toText (ip : Ipv4) {rest : List Char} (hs : Stops 10 rest) :
    ipv4? (ip.toText.toList ++ rest) = some (ip, rest) := by
  have hdot : ∀ s, Stops 10 ('.' :: s) := fun s => stops_cons.2 (by decide)
  simp only [ipv4?, Ipv4.toText, List.map_cons, List.map_nil, String.intercalate_cons_cons,
    String.intercalate_singleton, String.toList_append, Nat.toString_eq_repr, Nat.toList_repr,
    String.reduceToList, List.append_assoc, List.cons_append, List.nil_append]
  simp [octet?_toDigits, char?_cons, hdot, hs]

lemma ipv4?_eq_none (word : List Char) {rest : List Char} (hw : '.' ∉ word) (hs : Stops 10 rest)
    (hdot : rest.head? ≠ some '.') : ipv4? (word ++ rest) = none := by
  have hleft : ∀ value count, (digits 10 (word ++ rest) value count).2.2.head? ≠ some '.' := by
    induction word with
    | nil => simpa [digits_of_stops hs] using hdot
    | cons c word ih =>
      intro value count
      obtain ⟨hc, hw⟩ := not_or.1 (mt List.mem_cons.2 hw)
      cases hd : digit? 10 c with
      | some n => simpa [digits, hd] using ih hw _ _
      | none => simpa [digits, hd] using Ne.symm hc
  have hchar : char? '.' (digits 10 (word ++ rest) 0 0).2.2 = none := by
    cases h : (digits 10 (word ++ rest) 0 0).2.2 with
    | nil => rfl
    | cons c s =>
      have := hleft 0 0
      simp_all [char?]
  simp only [ipv4?, octet?]
  split_ifs <;> simp [hchar]

lemma group?_toDigits (g : UInt16) {rest : List Char} (hs : Stops 16 rest) :
    group? (Nat.toDigits 16 g.toNat ++ rest) = some (g, rest) := by
  have hg : g.toNat < 65536 := g.toNat_lt
  have hlength := (Nat.length_toDigits_le_iff (b := 16) (n := g.toNat) (k := 4)
    (by decide) (by decide)).2 (by omega)
  simp only [group?, digits_toDigits (.inr rfl), digits_of_stops hs]
  rw [if_neg]
  · simp
  · rintro (h | h)
    · simp at h
    · omega

lemma group?_of_stops {s : List Char} (hs : Stops 16 s) : group? s = none := by
  simp [group?, digits_of_stops hs]

def groupsText : Bool → List UInt16 → List Char
  | _, [] => []
  | first, g :: gs =>
    (if first then [] else [':']) ++ Nat.toDigits 16 g.toNat ++ groupsText false gs

structure Ends (s : List Char) : Prop where
  stops : Stops 16 s
  not_dot : s.head? ≠ some '.'
  after_colon : ∀ t, s = ':' :: t → Stops 16 t ∧ t.head? ≠ some '.'

lemma ends_colons (s : List Char) : Ends (':' :: ':' :: s) := by
  refine ⟨stops_cons.2 (by decide), by simp, fun t ht => ?_⟩
  rw [← (List.cons.inj ht).2]
  exact ⟨stops_cons.2 (by decide), by simp⟩

lemma ends_cons {c : Char} {s : List Char} (h : digit? 16 c = none) (hdot : c ≠ '.')
    (hcolon : c ≠ ':') : Ends (c :: s) :=
  ⟨stops_cons.2 h, by simp [hdot], fun _ ht => absurd (List.cons.inj ht).1 hcolon⟩

lemma Ends.groups_eq_nil {s : List Char} (h : Ends s) (limit : ℕ) (first : Bool) :
    groups limit first s = ([], false, s) := by
  have hnone : ∀ t, Stops 16 t → t.head? ≠ some '.' → ipv4? t = none ∧ group? t = none :=
    fun t ht hdot => ⟨ipv4?_eq_none [] (by simp) ht.decimal hdot, group?_of_stops ht⟩
  cases limit with
  | zero => rfl
  | succ limit =>
    cases first with
    | true =>
      obtain ⟨hip, hgroup⟩ := hnone s h.stops h.not_dot
      simp [groups, hip, hgroup]
    | false =>
      cases hc : char? ':' s with
      | none => simp [groups, hc]
      | some t =>
        have hs : s = ':' :: t := by
          cases s with
          | nil => simp [char?] at hc
          | cons c s => simp only [char?] at hc; grind
        obtain ⟨hip, hgroup⟩ := hnone t (h.after_colon t hs).1 (h.after_colon t hs).2
        simp [groups, hc, hip, hgroup]

lemma not_dot_of_toDigits (n : ℕ) : '.' ∉ Nat.toDigits 16 n := by
  induction n using Nat.base_induction 16 (by decide) with
  | single d hd =>
    rw [Nat.toDigits_of_lt_base hd]
    exact (by decide : ∀ d < 16, '.' ∉ [Nat.digitChar d]) d hd
  | digit n d hd hn ih =>
    rw [← Nat.toDigits_append_toDigits (by decide) hn hd, Nat.toDigits_of_lt_base hd,
      List.mem_append, not_or]
    exact ⟨ih, (by decide : ∀ d < 16, '.' ∉ [Nat.digitChar d]) d hd⟩

lemma groups_groupsText {limit : ℕ} {first : Bool} {gs : List UInt16} {rest : List Char}
    (hl : gs.length ≤ limit) (he : Ends rest) :
    groups limit first (groupsText first gs ++ rest) = (gs, false, rest) := by
  induction gs generalizing limit first with
  | nil => exact he.groups_eq_nil limit first
  | cons g gs ih =>
    obtain ⟨limit, rfl⟩ : ∃ k, limit = k + 1 := ⟨limit - 1, by simp at hl; omega⟩
    have hih : groups limit false (groupsText false gs ++ rest) = (gs, false, rest) :=
      ih (Nat.le_of_succ_le_succ hl)
    have hafter : Stops 16 (groupsText false gs ++ rest) ∧
        (groupsText false gs ++ rest).head? ≠ some '.' := by
      cases gs with
      | nil => exact ⟨he.stops, he.not_dot⟩
      | cons g gs => exact ⟨stops_cons.2 (by decide), by simp [groupsText]⟩
    have hip := ipv4?_eq_none _ (not_dot_of_toDigits g.toNat) hafter.1.decimal hafter.2
    have hgroup := group?_toDigits g hafter.1
    cases first with
    | true => simp [groups, groupsText, hip, hgroup, hih]
    | false => simp [groups, groupsText, char?_cons, hip, hgroup, hih]

lemma toList_colons (gs : List UInt16) : (Ipv6.colons gs).toList = groupsText true gs := by
  have hcons : ∀ g (gs : List UInt16), (":".intercalate ((g :: gs).map Ipv6.hex)).toList =
      Nat.toDigits 16 g.toNat ++ groupsText false gs := by
    intro g gs
    induction gs generalizing g with
    | nil => simp [Ipv6.hex, groupsText]
    | cons g' gs ih =>
      rw [List.map_cons, List.map_cons, String.intercalate_cons_cons, ← List.map_cons,
        String.toList_append, String.toList_append, ih]
      simp [Ipv6.hex, groupsText]
  cases gs with
  | nil => simp [Ipv6.colons, groupsText]
  | cons g gs => rw [Ipv6.colons, hcons, groupsText, if_pos rfl, List.nil_append]

lemma octets_of_group (g : UInt16) :
    (g >>> 8).toUInt8.toUInt16 * 256 + g.toUInt8.toUInt16 = g := by
  apply UInt16.toNat_inj.1
  have := g.toNat_lt
  simp [Nat.shiftRight_eq_div_pow]
  omega

end AddressReader

namespace Ipv6

lemma longestZeros_eq (i : ℕ) (gs : List UInt16) :
    ∃ before after, gs = before ++ (List.replicate (longestZeros i gs).2 0 ++ after) ∧
      (longestZeros i gs).1 = i + before.length := by
  induction gs generalizing i with
  | nil => exact ⟨[], [], by simp [longestZeros]⟩
  | cons g gs ih =>
    simp only [longestZeros]
    split_ifs
    · refine ⟨[], (g :: gs).dropWhile (· = 0), ?_, rfl⟩
      have hzeros : List.replicate ((g :: gs).takeWhile (· = 0)).length 0 =
          (g :: gs).takeWhile (· = 0) := by
        refine (List.eq_replicate_iff.2 ⟨rfl, fun a ha => ?_⟩).symm
        simpa using List.mem_takeWhile_imp ha
      rw [hzeros, List.nil_append, List.takeWhile_append_dropWhile]
    · obtain ⟨before, after, hgs, hstart⟩ := ih (i + 1)
      refine ⟨g :: before, after, ?_, ?_⟩
      · rw [List.cons_append, ← hgs]
      · rw [hstart, List.length_cons]
        omega

end Ipv6

namespace AddressReader

lemma ipv6?_compressed {gs : List UInt16} (hgs : gs.length = 8) {rest : List Char}
    (he : Ends rest) : ipv6? ((Ipv6.compressed gs).toList ++ rest) = some (⟨gs, hgs⟩, rest) := by
  obtain ⟨before, after, hsplit, hstart⟩ := Ipv6.longestZeros_eq 0 gs
  simp only [Ipv6.compressed]
  obtain ⟨zeros, hzeros⟩ : ∃ zeros, zeros = (Ipv6.longestZeros 0 gs).2 := ⟨_, rfl⟩
  rw [hstart, ← hzeros, Nat.zero_add]
  rw [← hzeros] at hsplit
  split_ifs with hrun
  · have hlength : before.length + zeros + after.length = 8 := by
      rw [← hgs, hsplit]
      simp [Nat.add_assoc]
    have hbefore : gs.take before.length = before := by rw [hsplit, List.take_left']; rfl
    have hafter : gs.drop (before.length + zeros) = after := by
      rw [hsplit, ← List.append_assoc, List.drop_left']
      simp
    have hhead : groups 8 true (groupsText true before ++
        ':' :: ':' :: (groupsText true after ++ rest)) =
          (before, false, ':' :: ':' :: (groupsText true after ++ rest)) :=
      groups_groupsText (by omega) (ends_colons _)
    have htail : groups (7 - before.length) true (groupsText true after ++ rest) =
        (after, false, rest) := groups_groupsText (by omega) he
    have hcount : 8 - before.length - after.length = zeros := by omega
    rw [hbefore, hafter, String.toList_append, String.toList_append, toList_colons, toList_colons,
      List.append_assoc, List.append_assoc]
    simp only [String.reduceToList, List.cons_append, List.nil_append, ipv6?, hhead, char?_cons,
      Option.bind_eq_bind, Option.bind_some, htail, hcount]
    rw [dif_neg (by omega)]
    simpa [hsplit, Nat.add_assoc] using hlength
  · rw [toList_colons]
    simp only [ipv6?, groups_groupsText hgs.le he]
    rw [dif_pos hgs]

lemma halves_of_groups (high low : UInt16) :
    halves ⟨(high >>> 8).toUInt8, high.toUInt8, (low >>> 8).toUInt8, low.toUInt8⟩ =
      [high, low] := by
  simp only [halves, octets_of_group]

lemma ipv6?_embedded (ip : Ipv4) {rest : List Char} (he : Ends rest) :
    ipv6? ("::ffff:".toList ++ (ip.toText.toList ++ rest)) =
      some (⟨[0, 0, 0, 0, 0, 0xffff] ++ halves ip, rfl⟩, rest) := by
  have hip := ipv4?_toText ip he.stops.decimal
  generalize ip.toText.toList ++ rest = s at hip ⊢
  have hcolon : Stops 16 (':' :: s) := stops_cons.2 (by decide)
  have hnone : ipv4? ('f' :: 'f' :: 'f' :: 'f' :: ':' :: s) = none :=
    ipv4?_eq_none ['f', 'f', 'f', 'f'] (by decide) hcolon.decimal (by simp)
  have hgroup : group? ('f' :: 'f' :: 'f' :: 'f' :: ':' :: s) = some (0xffff, ':' :: s) :=
    group?_toDigits 0xffff hcolon
  have hlast : groups 6 false (':' :: s) = (halves ip, true, rest) := by
    rw [groups]
    simp [char?_cons, hip]
  have htail : groups 7 true ('f' :: 'f' :: 'f' :: 'f' :: ':' :: s) =
      (0xffff :: halves ip, true, rest) := by
    rw [groups]
    simp [hnone, hgroup, hlast]
  simp only [String.reduceToList, List.cons_append, List.nil_append, ipv6?,
    (ends_colons _).groups_eq_nil, char?_cons, Option.bind_eq_bind, Option.bind_some,
    List.length_nil, Nat.sub_zero, htail]
  rfl

lemma ipv6?_ipv6Text (ip : Ipv6) {rest : List Char} (he : Ends rest) :
    ipv6? ((SocketAddress.ipv6Text ip).toList ++ rest) = some (ip, rest) := by
  obtain ⟨gs, hgs⟩ := ip
  unfold SocketAddress.ipv6Text
  split
  · next high low hmapped =>
    simp only at hmapped
    subst hmapped
    rw [String.toList_append, List.append_assoc, ipv6?_embedded _ he]
    simp [halves_of_groups]
  · exact ipv6?_compressed hgs he

end AddressReader

namespace SocketAddress

open AddressReader

lemma port?_toDigits (port : UInt16) :
    port? (':' :: Nat.toDigits 10 port.toNat) = some port := by
  have h : number? UInt16.size (Nat.toDigits 10 port.toNat ++ []) = some (port.toNat, []) :=
    number?_toDigits port.toNat_lt (stops_nil 10)
  rw [List.append_nil] at h
  simp [port?, char?_cons, h]

lemma scope_toDigits (zone : UInt32) (rest : List Char) :
    scope ((if zone = 0 then [] else '%' :: Nat.toDigits 10 zone.toNat) ++ ']' :: rest) =
      (zone, ']' :: rest) := by
  have h : number? UInt32.size (Nat.toDigits 10 zone.toNat ++ ']' :: rest) =
      some (zone.toNat, ']' :: rest) :=
    number?_toDigits zone.toNat_lt (stops_cons.2 (by decide))
  split_ifs with hz
  · simp [scope, char?, hz]
  · simp [scope, char?_cons, h]

theorem ofText?_toText (a : SocketAddress) : ofText? a.toText = some a := by
  cases a with
  | v4 ip port =>
    have hip : ipv4? (ip.toText.toList ++ ':' :: Nat.toDigits 10 port.toNat) =
        some (ip, ':' :: Nat.toDigits 10 port.toNat) :=
      ipv4?_toText ip (stops_cons.2 (by decide))
    have htext : (toText (v4 ip port)).toList =
        ip.toText.toList ++ ':' :: Nat.toDigits 10 port.toNat := by simp [toText]
    unfold ofText?
    split
    · next s hbracket =>
      have hnone : ipv4? ('[' :: s) = none :=
        ipv4?_eq_none [] (by simp) (stops_cons.2 (by decide)) (by simp)
      rw [← htext, hbracket, hnone] at hip
      exact absurd hip (Option.some_ne_none _).symm
    · rw [htext, hip]
      simp [port?_toDigits]
  | v6 ip zone port =>
    obtain ⟨scopeText, hscope⟩ : ∃ s : List Char,
        s = if zone = 0 then [] else '%' :: Nat.toDigits 10 zone.toNat := ⟨_, rfl⟩
    have hends : Ends (scopeText ++ ']' :: ':' :: Nat.toDigits 10 port.toNat) := by
      rw [hscope]
      split_ifs
      · exact ends_cons (by decide) (by decide) (by decide)
      · exact ends_cons (by decide) (by decide) (by decide)
    have htext : (toText (v6 ip zone port)).toList = '[' ::
        ((ipv6Text ip).toList ++ (scopeText ++ ']' :: ':' :: Nat.toDigits 10 port.toNat)) := by
      rw [hscope]
      split_ifs <;> simp [toText, *]
    have hzone := scope_toDigits zone (':' :: Nat.toDigits 10 port.toNat)
    rw [← hscope] at hzone
    simp only [ofText?, htext, ipv6?_ipv6Text ip hends, Option.bind_eq_bind, Option.bind_some,
      hzone, char?_cons, port?_toDigits]
    rfl

example : toText (.v6 ⟨[0xfe80, 0, 0, 1, 0, 0, 0, 1], rfl⟩ 3 80) = "[fe80:0:0:1::1%3]:80" := by
  decide

end SocketAddress

end TestQueue.Net
