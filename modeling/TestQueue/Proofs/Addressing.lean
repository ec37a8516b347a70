import TestQueue.Client.Basic
import TestQueue.Proofs.Routes

namespace TestQueue

open Net (Url IsSegment IsWord pathText)
open Net.Percent (decode encode hasEscape utf8)

/-! ### Calls about one worker or one job -/

structure Aim where
  folder : String
  id : String
  action : Option String
  route : String → Http.Route
  operation : Http.Operation

namespace Call

def aim? : Call → Option Aim
  | register w _ => some ⟨"workers", w.text, some "register", .workerRegister, .register w⟩
  | reportAlive w => some ⟨"workers", w.text, some "alive", .workerAlive, .reportAlive w⟩
  | setBlocked w true => some ⟨"workers", w.text, some "block", .workerBlock, .setBlocked w true⟩
  | setBlocked w false => some ⟨"workers", w.text, some "unblock", .workerUnblock, .setBlocked w false⟩
  | jobState j => some ⟨"jobs", j.text, none, .job, .jobState j⟩
  | jobResults j => some ⟨"jobs", j.text, some "results", .jobResults, .jobResults j⟩
  | deleteJob j => some ⟨"jobs", j.text, none, .job, .deleteJob j⟩
  | _ => none

end Call

namespace Aim

def actions (a : Aim) : List (List Char) := (a.action.map String.toList).toList

variable {a : Aim}

lemma actions_of_none (h : a.action = none) : a.actions = [] := by
  rw [actions, h]
  rfl

lemma actions_of_some {action : String} (h : a.action = some action) :
    a.actions = [action.toList] := by
  rw [actions, h]
  rfl

end Aim

/-- What the router of the interface reads from a request of the client, when it is mounted where
the client has its base. -/
def Client.routed (c : Client) (r : OutgoingRequest) : Except Http.Refusal Http.Operation :=
  match r.received.target.toList.dropPrefix? c.base.path.text with
  | some rest => Http.Request.operation { r.received with target := String.ofList ('/' :: rest) }
  | none => .error .notFound

/-- An identifier that stands for itself in a path; `last` if the path ends with it. -/
structure Addressable (last : Bool) (id : String) : Prop where
  plain : ∀ c ∈ id.toList, c ∉ ['/', '\\', '?', '#', '\t', '\n', '\r']
  notDots : id ≠ "." ∧ id ≠ ".."
  unescaped : hasEscape id.toList = false
  ending : last = true → ∃ c, id.toList.getLast? = some c ∧ 0x20 < c.toNat

/-! ### Paths of calls -/

namespace Call

variable {call : Call} {a : Aim} (ha : call.aim? = some a)

include ha

lemma path_of_aim : call.path.toList =
    a.folder.toList ++ '/' :: (a.id.toList ++ pathText a.actions) := by
  cases call with
  | setBlocked w blocked =>
    cases blocked <;> obtain rfl := Option.some.inj ha <;> simp [path, Aim.actions, pathText]
  | _ => first | cases ha; simp [path, Aim.actions, pathText] | cases ha

lemma isWord_folder : IsWord a.folder.toList := by
  have hwords : ∀ folder ∈ ["workers", "jobs"], IsWord folder.toList := by
    simp only [List.forall_mem_cons]
    refine ⟨⟨by simp, by simp⟩, ⟨by simp, by simp⟩, fun _ h => by cases h⟩
  apply hwords
  unfold aim? at ha
  split at ha <;> cases ha <;> simp

lemma isWord_action : ∀ w ∈ a.actions, IsWord w := by
  have hwords : ∀ action ∈ ["register", "alive", "block", "unblock", "results"],
      IsWord action.toList := by
    simp only [List.forall_mem_cons]
    refine ⟨⟨by simp, by simp⟩, ⟨by simp, by simp⟩, ⟨by simp, by simp⟩, ⟨by simp, by simp⟩,
      ⟨by simp, by simp⟩, fun _ h => by cases h⟩
  intro w hw
  obtain ⟨action, haction, rfl⟩ : ∃ action ∈ a.action, action.toList = w := by
    simpa [Aim.actions] using hw
  apply hwords
  unfold aim? at ha
  split at ha <;> cases ha <;> cases haction <;> simp

end Call

/-! ### What the router reads -/

namespace Client

variable {c : Client} {folders path : List (List Char)} {r : OutgoingRequest} {query : List Char}
  (hbase : c.base.path = .segments (folders ++ [[]])) (hfolders : ∀ x ∈ folders, IsSegment x)
  (hpath : ∀ x ∈ path, IsSegment x) (htarget : r.url.target = pathText path ++ query)
  (hquery : query.takeWhile Url.inBody = [])

include hbase hfolders hpath htarget hquery

lemma routed_eq_ok {op : Http.Operation} : c.routed r = .ok op ↔
    ∃ segments, path = folders ++ segments ∧ segments ≠ [] ∧
      (Http.Route.ofSegments? (segments.map String.ofList)).bind
        (Http.Operation.of? · r.method) = some (.ok op) := by
  have hmount : c.base.path.text = pathText folders ++ ['/'] := by
    rw [hbase]
    exact Net.pathText_append folders [[]]
  have hreceived : r.received.target.toList = pathText path ++ query := by
    rw [OutgoingRequest.received, String.toList_ofList, htarget]
  have htake {l : List (List Char)} (hl : ∀ x ∈ l, IsSegment x) (s : List Char) :
      (pathText l ++ s).takeWhile Url.inBody = pathText l ++ s.takeWhile Url.inBody :=
    List.takeWhile_append_of_pos fun d hd => by simp [Url.inBody, Net.pathText_ne hl d hd]
  have hsplit (s : List Char) {l : List (List Char)} (hl : ∀ x ∈ l, IsSegment x) :
      Text.splitAt (· = '/') (s ++ pathText l) = Text.splitAt (· = '/') s ++ l :=
    Net.splitAt_append_pathText (by simp) s fun x hx d hd => by simp [(hl x hx d hd).1]
  have hread (rest : List Char) :
      Http.Request.operation { r.received with target := String.ofList ('/' :: rest) } = .ok op ↔
        (Http.Route.ofSegments?
          ((Text.splitAt (· = '/') (rest.takeWhile Url.inBody)).map String.ofList)).bind
            (Http.Operation.of? · r.method) = some (.ok op) := by
    rw [Http.Request.operation_eq_ok, Http.Route.ofTarget?_cons]
    rfl
  rw [routed, hreceived, hmount]
  constructor
  · intro h
    split at h
    · next rest hrest =>
      refine ⟨_, ?_, Text.splitAt_ne_nil _ _, (hread rest).1 h⟩
      obtain ⟨mount, hr, hm⟩ := List.dropPrefix?_eq_some_iff.1 hrest
      rw [eq_of_beq hm, List.append_assoc] at hr
      have hbody : pathText path = pathText folders ++ '/' :: rest.takeWhile Url.inBody := by
        have h := congrArg (List.takeWhile Url.inBody) hr
        rw [htake hpath, hquery, List.append_nil, htake hfolders] at h
        exact h
      have h := congrArg (Text.splitAt (· = '/')) hbody
      rw [Text.splitAt_append_cons (by simp), ← List.nil_append (pathText path),
        ← List.nil_append (pathText folders), hsplit [] hpath, hsplit [] hfolders,
        List.append_assoc] at h
      exact List.append_cancel_left h
    · cases h
  · rintro ⟨segments, rfl, hne, h⟩
    obtain ⟨x, segments, rfl⟩ := List.exists_cons_of_ne_nil hne
    have hx : IsSegment x := hpath x (by simp)
    have hsegments : ∀ y ∈ segments, IsSegment y := fun y hy => hpath y (by simp [hy])
    have hrest : (pathText (folders ++ x :: segments) ++ query).dropPrefix?
        (pathText folders ++ ['/']) = some (x ++ pathText segments ++ query) := by
      rw [List.dropPrefix?_eq_some_iff]
      refine ⟨_, ?_, beq_self_eq_true _⟩
      simp [Net.pathText, List.flatMap_append]
    have hbody : (x ++ pathText segments ++ query).takeWhile Url.inBody =
        x ++ pathText segments := by
      rw [List.append_assoc, List.takeWhile_append_of_pos fun d hd => by simp [Url.inBody, hx d hd],
        htake hsegments, hquery, List.append_nil]
    rw [hrest]
    dsimp only
    rwa [hread, hbody, hsplit x hsegments,
      Text.splitAt_of_not_sep fun d hd => by simp [(hx d hd).1]]

end Client

namespace Call

variable {call : Call} {a : Aim} (ha : call.aim? = some a)

include ha

lemma segments_route (id : String) :
    (a.route id).segments = ["api", "v1", a.folder, id] ++ a.action.toList := by
  unfold aim? at ha
  split at ha <;> cases ha <;> rfl

lemma isReadable_route (id : String) :
    (a.route id).isReadable = true ↔ (a.action = none → id ≠ "") := by
  unfold aim? at ha
  split at ha <;> cases ha <;> simp [Http.Route.isReadable]

lemma of?_eq_some_iff {route : Http.Route} :
    Http.Operation.of? route call.method = some (.ok a.operation) ↔
      ∃ id, route = a.route id ∧ Net.Percent.decodeText? id = some a.id := by
  unfold aim? at ha
  split at ha <;> cases ha <;> cases route <;>
    simp [Http.Operation.of?, Http.Operation.posting, Http.Operation.reading,
      Http.Operation.deleting, method, Http.Operation.onWorker_eq_ok, Http.Operation.onJob_eq_ok]

lemma read_iff {segments : List (List Char)} :
    (Http.Route.ofSegments? (segments.map String.ofList)).bind (Http.Operation.of? · call.method) =
        some (.ok a.operation) ↔
      ∃ s, segments = ["api".toList, "v1".toList, a.folder.toList, s] ++ a.actions ∧
        (a.action = none → s ≠ []) ∧ decode s = utf8 a.id.toList := by
  have htexts (id : String) : ["api".toList, "v1".toList, a.folder.toList, id.toList] ++ a.actions =
      (a.route id).segments.map String.toList := by
    rw [segments_route ha, Aim.actions]
    cases a.action <;> rfl
  rw [Option.bind_eq_some_iff]
  constructor
  · rintro ⟨route, hroute, hop⟩
    obtain ⟨id, rfl, hid⟩ := (of?_eq_some_iff ha).1 hop
    obtain ⟨hsegments, hread⟩ := Http.Route.ofSegments?_eq_some_iff.1 hroute
    refine ⟨id.toList, ?_, fun hn => ?_, ?_⟩
    · rw [htexts, ← hsegments, List.map_map]
      simp [Function.comp_def]
    · simpa using (isReadable_route ha id).1 hread hn
    · rw [← Net.Percent.decodeText?_eq_some_iff, String.ofList_toList]
      exact hid
  · rintro ⟨s, rfl, hne, hd⟩
    refine ⟨a.route (String.ofList s), ?_, (of?_eq_some_iff ha).2 ⟨_, rfl, ?_⟩⟩
    · have h := htexts (String.ofList s)
      rw [String.toList_ofList (l := s)] at h
      rw [Http.Route.ofSegments?_eq_some_iff, h, List.map_map, isReadable_route ha]
      refine ⟨by simp [Function.comp_def], fun hn => ?_⟩
      simpa using hne hn
    · rwa [Net.Percent.decodeText?_eq_some_iff]

end Call

/-! ### Requests of the client -/

namespace Aim

def trimmedId (a : Aim) : List Char :=
  if a.action = none then a.id.toList.rdropWhile Url.isOuterBlank else a.id.toList

def cleanId (a : Aim) : List Char := a.trimmedId.filter (!Url.isLineBreak ·)

def readId (a : Aim) : List Char := a.cleanId.takeWhile Url.inBody

def place (a : Aim) (folders : List (List Char)) : List (List Char) :=
  folders ++ ["api".toList, "v1".toList, a.folder.toList]

def sent (a : Aim) (folders kept : List (List Char)) : List (List Char) :=
  Url.follow false (a.place folders) (Text.splitAt (Url.isSlash true) a.readId ++ kept)

end Aim

namespace Call

variable {call : Call} {a : Aim} (ha : call.aim? = some a)

include ha

lemma cleaned_path : Url.cleaned call.path =
    a.folder.toList ++ '/' :: (a.cleanId ++ pathText a.actions) := by
  rw [Url.cleaned_of_word (isWord_folder ha) (path_of_aim ha), Aim.cleanId, Aim.trimmedId]
  have hwords := isWord_action ha
  cases haction : a.action with
  | none => simp [Aim.actions_of_none haction, pathText]
  | some action =>
    rw [Aim.actions_of_some haction] at hwords ⊢
    have hword := hwords _ (List.mem_singleton_self _)
    have htrim : action.toList.rdropWhile Url.isOuterBlank = action.toList := by
      rw [List.rdropWhile_eq_self_iff]
      intro hne
      simp [hword.isOuterBlank_of_mem (List.getLast_mem hne)]
    have hfilter : action.toList.filter (!Url.isLineBreak ·) = action.toList :=
      List.filter_eq_self.2 fun c hc => by simp [hword.isLineBreak_of_mem hc]
    have htext : pathText [action.toList] = '/' :: action.toList := List.flatMap_singleton _ _
    rw [htext, Url.rdropWhile_append_cons (by decide), htrim, List.filter_append,
      List.filter_cons_of_pos (by decide), hfilter, if_neg (by simp)]

lemma takeWhile_path : ∃ kept, (kept = [] ∨ kept = a.actions) ∧
    (a.readId = a.cleanId → kept = a.actions) ∧
      (a.cleanId ++ pathText a.actions).takeWhile Url.inBody = a.readId ++ pathText kept := by
  have hactions : (pathText a.actions).takeWhile Url.inBody = pathText a.actions :=
    List.takeWhile_eq_self_iff.2 fun c hc => by
      simp [Url.inBody, Net.pathText_ne (fun w hw => (isWord_action ha w hw).isSegment) c hc]
  rw [List.takeWhile_append, hactions]
  split
  · next hlength =>
    have hread : a.readId = a.cleanId := (List.takeWhile_prefix _).eq_of_length hlength
    exact ⟨a.actions, .inr rfl, fun _ => rfl, by rw [hread]⟩
  · next hlength =>
    refine ⟨[], .inl rfl, fun h => absurd (congrArg List.length h) hlength, ?_⟩
    exact (List.append_nil _).symm

end Call

namespace Client

variable {c : Client} {folders : List (List Char)} (hweb : Url.IsWeb c.base.scheme)
  (hbase : c.base.path = .segments (folders ++ [[]])) {call : Call} {a : Aim}
  (ha : call.aim? = some a)

include hweb hbase

lemma join_api : ∃ api, c.base.join "api/v1/" = .ok api ∧ Url.IsWeb api.scheme ∧
    api.path = .segments (folders ++ ["api".toList, "v1".toList] ++ [[]]) := by
  have hapi : IsWord "api".toList := ⟨by simp, by simp⟩
  have hv1 : Url.isDots "v1".toList = false := by decide
  have hencode : encode Url.inPath "v1".toList = "v1".toList := by decide
  have hclean : Url.cleaned "api/v1/" = "api".toList ++ '/' :: "v1/".toList := by decide
  obtain ⟨api, hjoin, hscheme, hpath⟩ := Url.join_of_word hweb hbase hapi hclean
  refine ⟨api, hjoin, hscheme ▸ hweb, ?_⟩
  have hsplit : Text.splitAt (Url.isSlash true)
      ("api".toList ++ '/' :: "v1/".toList.takeWhile Url.inBody) =
        ["api".toList, "v1".toList, []] := by decide
  rw [hpath, hsplit, List.dropLast_concat, Url.follow_cons hapi.isDots_eq _ (by simp),
    Url.follow_cons hv1 _ (by simp), Url.follow_singleton (by decide), hapi.encode_eq, hencode,
    List.append_assoc folders]
  rfl

include ha

lemma request_eq_ok : ∃ u kept, c.request call = .ok ⟨call.method, u, call.body?⟩ ∧
    u.path = .segments (a.sent folders kept) ∧
    (kept = [] ∨ kept = a.actions) ∧ (a.readId = a.cleanId → kept = a.actions) := by
  obtain ⟨api, hjoin, hscheme, hpath⟩ := join_api hweb hbase
  obtain ⟨kept, hkept, hall, htake⟩ := Call.takeWhile_path ha
  have hfolder := Call.isWord_folder ha
  obtain ⟨u, hu, -, hpath'⟩ := Url.join_of_word hscheme hpath hfolder (Call.cleaned_path ha)
  refine ⟨u, kept, ?_, ?_, hkept, hall⟩
  · simp [request, url, hjoin, located, hu, bind, Except.bind]
  · have hsplit : Text.splitAt (Url.isSlash true)
        (a.folder.toList ++ '/' :: (a.readId ++ pathText kept)) =
          a.folder.toList :: (Text.splitAt (Url.isSlash true) a.readId ++ kept) := by
      rw [Text.splitAt_append_cons (by decide),
        Text.splitAt_of_not_sep fun d hd => hfolder.isSlash_of_mem hd,
        Net.splitAt_append_pathText (by decide)]
      · rfl
      · intro w hw
        have hword : IsWord w := by
          rcases hkept with rfl | rfl
          · cases hw
          · exact Call.isWord_action ha w hw
        exact fun d hd => hword.isSlash_of_mem hd
    have hne : Text.splitAt (Url.isSlash true) a.readId ++ kept ≠ [] := by
      simp [Text.splitAt_ne_nil]
    rw [hpath', htake, hsplit, List.dropLast_concat, Url.follow_cons hfolder.isDots_eq _ hne,
      hfolder.encode_eq, List.append_assoc folders]
    rfl

end Client

/-! ### Where identifiers end up -/

namespace Aim

variable {a : Aim}

lemma readId_sublist (a : Aim) : a.readId.Sublist a.cleanId := List.takeWhile_sublist _

lemma trimmedId_sublist (a : Aim) : a.trimmedId.Sublist a.id.toList := by
  unfold trimmedId
  split
  · exact (List.rdropWhile_prefix _ _).sublist
  · exact List.Sublist.refl _

lemma cleanId_sublist (a : Aim) : a.cleanId.Sublist a.id.toList :=
  List.filter_sublist.trans a.trimmedId_sublist

lemma readId_eq_iff : a.readId = a.id.toList ↔
    (∀ c ∈ a.id.toList, Url.inBody c = true ∧ Url.isLineBreak c = false) ∧
      (a.action = none → a.id.toList.rdropWhile Url.isOuterBlank = a.id.toList) := by
  constructor
  · intro h
    have hclean : a.cleanId = a.id.toList :=
      a.cleanId_sublist.antisymm (h ▸ a.readId_sublist)
    have hfilter : a.cleanId.Sublist a.trimmedId := List.filter_sublist
    rw [hclean] at hfilter
    have htrim := a.trimmedId_sublist.antisymm hfilter
    refine ⟨fun c hc => ⟨?_, ?_⟩, fun hn => ?_⟩
    · rw [readId, hclean] at h
      exact List.takeWhile_eq_self_iff.1 h c hc
    · rw [cleanId, htrim] at hclean
      simpa using List.filter_eq_self.1 hclean c hc
    · rwa [trimmedId, if_pos hn] at htrim
  · rintro ⟨hall, htrim⟩
    have hcut : a.trimmedId = a.id.toList := by
      unfold trimmedId
      split
      · next hn => exact htrim hn
      · rfl
    have hclean : a.cleanId = a.id.toList := by
      rw [cleanId, hcut, List.filter_eq_self]
      exact fun c hc => by simp [hall c hc]
    rw [readId, hclean]
    exact List.takeWhile_eq_self_iff.2 fun c hc => (hall c hc).1

lemma trimmed_iff {s : List Char} : s ≠ [] ∧ s.rdropWhile Url.isOuterBlank = s ↔
    ∃ c, s.getLast? = some c ∧ 0x20 < c.toNat := by
  rw [List.rdropWhile_eq_self_iff]
  constructor
  · rintro ⟨hne, hlast⟩
    refine ⟨s.getLast hne, List.getLast?_eq_some_getLast hne, ?_⟩
    simpa [Url.isOuterBlank] using hlast hne
  · rintro ⟨c, hc, hlt⟩
    have hne : s ≠ [] := by
      rintro rfl
      cases hc
    rw [List.getLast?_eq_some_getLast hne, Option.some.injEq] at hc
    refine ⟨hne, fun _ => ?_⟩
    rw [hc]
    simpa [Url.isOuterBlank] using hlt

lemma addressable_iff : Addressable a.action.isNone a.id ↔
    (a.readId = a.id.toList ∧ ∀ c ∈ a.id.toList, Url.isSlash true c = false) ∧
      Url.isDots a.id.toList = false ∧ hasEscape a.id.toList = false ∧
        (a.action = none → a.id.toList ≠ []) := by
  have hplain (c : Char) : c ∉ ['/', '\\', '?', '#', '\t', '\n', '\r'] ↔
      (Url.inBody c = true ∧ Url.isLineBreak c = false) ∧ Url.isSlash true c = false := by
    simp only [Url.inBody, Url.isLineBreak, Url.isSlash]
    simp
    tauto
  have hdots : (a.id ≠ "." ∧ a.id ≠ "..") ↔
      a.id.toList ≠ ['.'] ∧ a.id.toList ≠ ['.', '.'] := by
    rw [← String.toList_inj.ne, ← String.toList_inj.ne]
    rfl
  rw [readId_eq_iff]
  constructor
  · rintro ⟨hchars, hnot, hescape, hending⟩
    refine ⟨⟨⟨fun c hc => ((hplain c).1 (hchars c hc)).1, fun hn => ?_⟩,
      fun c hc => ((hplain c).1 (hchars c hc)).2⟩,
      (Url.isDots_of_not_hasEscape hescape).2 (hdots.1 hnot), hescape, fun hn => ?_⟩
    · exact (trimmed_iff.2 (hending (by simp [hn]))).2
    · exact (trimmed_iff.2 (hending (by simp [hn]))).1
  · rintro ⟨⟨⟨hchars, htrim⟩, hslash⟩, hnot, hescape, hne⟩
    refine ⟨fun c hc => (hplain c).2 ⟨hchars c hc, hslash c hc⟩,
      hdots.2 ((Url.isDots_of_not_hasEscape hescape).1 hnot), hescape, fun hlast => ?_⟩
    have hn := Option.isNone_iff_eq_none.1 hlast
    exact trimmed_iff.1 ⟨hne hn, htrim hn⟩

end Aim

lemma Net.Percent.decode_encode_inPath (s : List Char) : decode (encode Url.inPath s) = decode s :=
  decode_encode (by simp [Url.inPath, Url.inFragment, Text.hexValue?])
    (by simp [Url.inPath, Url.inFragment]) s

namespace Aim

variable {a : Aim} {folders kept : List (List Char)} (hwords : ∀ w ∈ a.actions, IsWord w)

include hwords

lemma isSegment_of_mem_sent (hfolder : IsWord a.folder.toList)
    (hfolders : ∀ x ∈ folders, IsSegment x) (hkept : kept = [] ∨ kept = a.actions) :
    ∀ x ∈ a.sent folders kept, IsSegment x := by
  refine fun x => Url.isSegment_of_mem_follow (fun y hy => ?_) (fun y hy => ?_)
  · rcases List.mem_append.1 hy with hy | hy
    · exact hfolders y hy
    · simp only [List.mem_cons, List.not_mem_nil, or_false] at hy
      rcases hy with rfl | rfl | rfl
      · simp [IsSegment]
      · simp [IsSegment]
      · exact hfolder.isSegment
  · rcases List.mem_append.1 hy with hy | hy
    · intro hm
      exact absurd ((Text.of_mem_splitAt hy).2 '/' hm) (by decide)
    · rcases hkept with rfl | rfl
      · cases hy
      · exact fun hm => ((hwords y hy).isSegment '/' hm).1 rfl

lemma exists_piece (hkept : kept = [] ∨ kept = a.actions) {s : List Char}
    (hne : a.action = none → s ≠ [])
    (h : a.sent folders kept = a.place folders ++ s :: a.actions) :
    ∃ x ∈ Text.splitAt (Url.isSlash true) a.readId,
      Url.isDots x = false ∧ s = encode Url.inPath x := by
  rw [sent] at h
  cases haction : a.action with
  | none =>
    rw [actions_of_none haction, or_self_iff] at hkept
    rw [actions_of_none haction, hkept, List.append_nil] at h
    exact Url.of_follow (hne haction) h
  | some action =>
    rw [actions_of_some haction] at h hkept hwords
    obtain ⟨front, last, hpieces, x, hx, hdots, hs⟩ :=
      Url.of_follow_pair (hwords _ (List.mem_singleton_self _)).nonempty h
    refine ⟨x, ?_, hdots, hs⟩
    rcases hkept with rfl | rfl
    · rw [List.append_nil] at hpieces
      rw [hpieces]
      exact List.mem_append_left _ hx
    · rwa [(List.append_inj' hpieces rfl).1]

lemma sent_of_piece {x : List Char} (hx : Url.isDots x = false)
    (hpieces : Text.splitAt (Url.isSlash true) a.readId = [x]) :
    a.sent folders a.actions = a.place folders ++ encode Url.inPath x :: a.actions := by
  rw [sent, hpieces, List.singleton_append]
  cases haction : a.action with
  | none =>
    rw [actions_of_none haction]
    exact Url.follow_singleton hx _
  | some action =>
    rw [actions_of_some haction] at hwords ⊢
    have hword := hwords _ (List.mem_singleton_self _)
    rw [Url.follow_cons hx _ (by simp), Url.follow_singleton hword.isDots_eq, hword.encode_eq,
      List.append_assoc]
    rfl

theorem sent_iff (hkept : kept = [] ∨ kept = a.actions)
    (hall : a.readId = a.cleanId → kept = a.actions) :
    (∃ s, a.sent folders kept = a.place folders ++ s :: a.actions ∧ (a.action = none → s ≠ []) ∧
      decode s = utf8 a.id.toList) ↔ Addressable a.action.isNone a.id := by
  rw [addressable_iff]
  constructor
  · rintro ⟨s, hsent, hne, hd⟩
    obtain ⟨x, hx, hdots, rfl⟩ := exists_piece hwords hkept hne hsent
    obtain ⟨hpiece, hslash⟩ := Text.of_mem_splitAt hx
    -- the piece is as long as the identifier, so that it is all of it
    rw [Net.Percent.decode_encode_inPath, Net.Percent.decode_eq_utf8_iff
      (hpiece.trans (a.readId_sublist.trans a.cleanId_sublist))] at hd
    obtain ⟨rfl, hescape⟩ := hd
    have hread : a.readId = a.id.toList :=
      (a.readId_sublist.trans a.cleanId_sublist).antisymm hpiece
    refine ⟨⟨hread, hslash⟩, hdots, hescape, fun hn hnil => ?_⟩
    exact hne hn (by rw [hnil]; rfl)
  · rintro ⟨⟨hread, hslash⟩, hdots, hescape, hne⟩
    have hclean : a.readId = a.cleanId :=
      a.readId_sublist.antisymm (hread ▸ a.cleanId_sublist)
    have hpieces : Text.splitAt (Url.isSlash true) a.readId = [a.id.toList] := by
      rw [hread, Text.splitAt_of_not_sep hslash]
    have hd : decode (encode Url.inPath a.id.toList) = utf8 a.id.toList := by
      rw [Net.Percent.decode_encode_inPath, Net.Percent.decode_of_not_hasEscape hescape]
    refine ⟨encode Url.inPath a.id.toList, ?_, fun hn hnil => ?_, hd⟩
    · rw [hall hclean, sent_of_piece hwords hdots hpieces]
    · rw [hnil] at hd
      have hle := (congrArg List.length hd).ge
      exact hne hn (Net.Percent.eq_of_length_utf8 (List.nil_sublist _) hle).symm

end Aim

namespace Client

variable {text : String} {c : Client} (hc : ofText text = .ok c)
  (hweb : Url.IsWeb c.base.scheme) {call : Call} {a : Aim} (ha : call.aim? = some a)

include hc hweb

lemma path_of_ofText : ∃ folders, c.base.path = .segments (folders ++ [[]]) ∧
    ∀ x ∈ folders, IsSegment x := by
  unfold ofText at hc
  cases hparse : Url.parse text with
  | error e => simp [hparse, located, bind, Except.bind] at hc
  | ok url =>
    simp only [hparse, located, bind, Except.bind, Except.ok.injEq] at hc
    rw [← hc] at hweb ⊢
    exact Url.path_asFolder hparse (url.scheme_asFolder ▸ hweb)

include ha

/-- The request of a call reaches the worker or the job that it is meant for if and only if the
identifier stands for itself in a path. -/
theorem routed_iff : ∃ r, c.request call = .ok r ∧
    (c.routed r = .ok a.operation ↔ Addressable a.action.isNone a.id) := by
  obtain ⟨folders, hbase, hfolders⟩ := path_of_ofText hc hweb
  obtain ⟨u, kept, hrequest, hpath, hkept, hall⟩ := request_eq_ok hweb hbase ha
  obtain ⟨query, htarget, hquery⟩ := Url.exists_target hpath
  have hwords := Call.isWord_action ha
  have hsegments := Aim.isSegment_of_mem_sent hwords (Call.isWord_folder ha) hfolders hkept
  refine ⟨_, hrequest, ?_⟩
  rw [routed_eq_ok hbase hfolders hsegments htarget hquery, ← Aim.sent_iff hwords hkept hall]
  have hplace (s : List Char) : folders ++ (["api".toList, "v1".toList, a.folder.toList, s] ++
      a.actions) = a.place folders ++ s :: a.actions := by
    rw [Aim.place, List.append_assoc]
    rfl
  constructor
  · rintro ⟨segments, hsent, -, hread⟩
    obtain ⟨s, rfl, hne, hd⟩ := (Call.read_iff ha).1 hread
    exact ⟨s, hsent.trans (hplace s), hne, hd⟩
  · rintro ⟨s, hsent, hne, hd⟩
    exact ⟨_, hsent.trans (hplace s).symm, by simp, (Call.read_iff ha).2 ⟨s, rfl, hne, hd⟩⟩

omit hc hweb ha

def ofLoopback : Client := ⟨⟨"http".toList,
  some ⟨[], .ipv6 ⟨[0, 0, 0, 0, 0, 0, 0, 1], rfl⟩, some 41000⟩, .segments [[]], none, none⟩⟩

lemma ofText_loopback : ofText "http://[::1]:41000" = .ok ofLoopback := rfl

theorem routed_iff_percentSign : ofText "http://[::1]:41000" = .ok ofLoopback ∧
    Url.IsWeb ofLoopback.base.scheme ∧ ∃ r, ofLoopback.request (.deleteJob ⟨"90% done"⟩) = .ok r ∧
      ofLoopback.routed r = .ok (.deleteJob ⟨"90% done"⟩) := by
  have hweb : Url.IsWeb ofLoopback.base.scheme := .inl rfl
  have haim : (Call.deleteJob ⟨"90% done"⟩).aim? =
      some ⟨"jobs", "90% done", none, .job, .deleteJob ⟨"90% done"⟩⟩ := rfl
  obtain ⟨r, hr, hiff⟩ := routed_iff ofText_loopback hweb haim
  exact ⟨ofText_loopback, hweb, r, hr,
    hiff.2 ⟨by simp, by simp, by decide, fun _ => ⟨'e', by simp, by decide⟩⟩⟩

/-- An identifier ends at its question mark, so that another job is deleted. -/
theorem other_job_deleted : (∃ r, ofLoopback.request (.deleteJob ⟨"nightly?2"⟩) = .ok r ∧
      ofLoopback.routed r = .ok (.deleteJob ⟨"nightly"⟩)) ∧
    ¬ ∀ text c, ofText text = .ok c → Url.IsWeb c.base.scheme →
      ∀ call a, Call.aim? call = some a → a.id ≠ "" →
        ∃ r, c.request call = .ok r ∧ c.routed r = .ok a.operation := by
  have hdecode : Net.Percent.decodeText? "nightly" = some "nightly" :=
    (Net.Percent.decodeText?_eq_some_iff (s := "nightly".toList)).2 (by decide)
  have hother : ∃ r, ofLoopback.request (.deleteJob ⟨"nightly?2"⟩) = .ok r ∧
      ofLoopback.routed r = .ok (.deleteJob ⟨"nightly"⟩) :=
    ⟨_, rfl, Http.Operation.onJob_eq_ok.2 ⟨⟨"nightly"⟩, hdecode, rfl⟩⟩
  refine ⟨hother, fun h => ?_⟩
  have haim : (Call.deleteJob ⟨"nightly?2"⟩).aim? =
      some ⟨"jobs", "nightly?2", none, .job, .deleteJob ⟨"nightly?2"⟩⟩ := rfl
  obtain ⟨r, hr, hrouted⟩ := h _ _ ofText_loopback (.inl rfl) _ _ haim (by simp)
  obtain ⟨r', hr', hrouted'⟩ := hother
  obtain rfl := Except.ok.inj (hr.symm.trans hr')
  simpa using hrouted.symm.trans hrouted'

end Client

end TestQueue
