import RailWatch.Proofs.Calendar.Written
import RailWatch.Proofs.Url.Continuation
import RailWatch.Proofs.Url.Percent
import RailWatch.Source.Live
/-!
# RailWatch.Proofs.Source.Request

Which train a request is about.

The id of a train is written behind the base address as it stands, and the whole is read as an
address then. So an id names its train only if the address reads it as one segment of the path and
leaves it what it is, `IsPlainId`: of other ids some characters are dropped, or they end up in the
query or the fragment, or in other segments, or they are taken for encoded ones
(`Server.request_names_iff`). Two such ids may even be asked for in the same way
(`Server.request_ignores_fragment`).
-/

namespace RailWatch.Server

open Text Url
open Json (AllDigits)

/-! ### Ids and requests -/

/-- An id that is one segment of a path, and stays what it is there. -/
structure IsPlainId (id : List Char) : Prop where
  /-- Nothing in it ends a segment or a path, and nothing is dropped. -/
  unmarked : ∀ c ∈ id, c ∉ ['/', '\\', '?', '#', '\t', '\n', '\r']
  /-- There is no blank at its end. -/
  visible : ∀ c ∈ id.getLast?, isEdge c = false
  notDots : isTwoDots id = false ∧ isDot id = false
  /-- Nothing in it looks like an encoded octet. -/
  unescaped : ¬HasEscape id

/-- The base address of the server is `http://host[:port][/path]`. It is meant without the slashes at
its end, and read here with one of them. -/
structure IsBase (s : Server) (b : Url) : Prop where
  read : Url.read? (s.base ++ ['/']) = some b
  scheme : b.scheme = "http".toList
  host : b.hasHost = true
  user : b.user = []
  password : b.password = none
  query : b.query = none
  fragment : b.fragment = none

/-- The segments of the path that stand between the base address and the id. -/
def trainDirs : List (List Char) := ["mia".toList, "train".toList]

/-- The address asks the server at the base address for this train on this day, and for nothing
else: the id is what the last segment says, and the day is the only parameter. -/
structure Names (b : Url) (id : String) (day : Date) (u : Url) : Prop where
  scheme : u.scheme = b.scheme
  host : u.host = b.host
  port : u.port = b.port
  path : ∃ dirs segment, b.path = .segments (dirs ++ [[]]) ∧
    u.path = .segments (dirs ++ trainDirs ++ [segment]) ∧
    percentDecode segment = Utf8.encode id.toList
  query : u.query = some ("date=".toList ++ formEncode day.text.toList)

variable {s : Server} {b : Url} {id : String} {day : Date}

/-! ### How the address of a train is read -/

/-- It makes no difference how many slashes stand at the end of the base address. -/
theorem base_slashes (url : String) (timeout n : Nat) :
    (⟨url ++ String.ofList (List.replicate n '/'), timeout⟩ : Server).base =
      (⟨url, timeout⟩ : Server).base := by
  have hslashes : ∀ c ∈ List.replicate n '/', decide (c = '/') = true := by
    intro c hc
    rw [(List.mem_replicate.mp hc).2]
    decide
  simp only [base, String.toList_append, String.toList_ofList, List.reverse_append,
    List.reverse_replicate, List.dropWhile_append_of_pos hslashes]

theorem trainUrl_toList (s : Server) (id : String) :
    (s.trainUrl id).toList = s.base ++ ['/'] ++ ("mia/train/".toList ++ id.toList) := by
  simp [trainUrl, trainPath]

/-- What is read behind the slash at the end of the base address. -/
theorem tail_of_train (id : List Char) :
    Tail.of .web (tidy ("mia/train/".toList ++ id)) =
      ⟨"mia/train/".toList ++ (Tail.of .web (tidy id)).path, (Tail.of .web (tidy id)).query,
        (Tail.of .web (tidy id)).fragment⟩ := by
  have hclosed : Closed "mia/train/".toList := ⟨"mia/train".toList, by decide⟩
  have hplain : ("mia/train/".toList.filter fun c => !isDropped c) = "mia/train/".toList := by
    decide
  rw [hclosed.tidy_append, hplain, Tail.of_append (by decide) (by decide)]

theorem climb_trainDirs (dirs : List (List Char)) :
    climb .web dirs trainDirs = dirs ++ trainDirs := by
  rw [show trainDirs = ["mia".toList] ++ ["train".toList] from rfl, ← List.append_assoc]
  rfl

theorem segments_of_train (dirs : List (List Char)) (p : List Char) :
    resolve .web dirs (Address.splitAt (isSlash .web) ("mia/train/".toList ++ p)) =
      resolve .web (dirs ++ trainDirs) (Address.splitAt (isSlash .web) p) := by
  rw [show Address.splitAt (isSlash .web) ("mia/train/".toList ++ p) =
    trainDirs ++ Address.splitAt (isSlash .web) p from rfl, resolve_append (splitAt_ne_nil _ _),
    climb_trainDirs]

/-- What the base address and an id come to. The segments in `dirs` are those of the base
address. -/
def trainAddress (b : Url) (dirs : List (List Char)) (id : List Char) : Url :=
  let tail := Tail.of .web (tidy id)
  { b with
    path := .segments
      (resolve .web (dirs ++ trainDirs) (Address.splitAt (isSlash .web) tail.path))
    query := tail.query
    fragment := tail.fragment }

theorem exists_read?_trainUrl (h : s.IsBase b) :
    ∃ dirs, b.path = .segments (dirs ++ [[]]) ∧
      ∀ id, Url.read? (s.trainUrl id).toList = some (trainAddress b dirs id.toList) := by
  have hweb : Kind.ofScheme b.scheme = .web := by
    rw [h.scheme]
    decide
  obtain ⟨path, hpath, hb, hread⟩ := read?_append ⟨_, rfl⟩ h.read hweb h.query h.fragment
  obtain ⟨dirs, hdirs, hsegments⟩ := exists_segments_append hpath
  refine ⟨dirs, by rw [hb, hdirs], fun id => ?_⟩
  rw [trainUrl_toList, hread, withTail, tail_of_train, hsegments, segments_of_train]
  rfl

/-- The address that is asked for a train on a day. -/
def asked (b : Url) (dirs : List (List Char)) (id : List Char) (day : Date) : Url :=
  (trainAddress b dirs id).withParameter dayParameter.toList day.text.toList

/-- Whatever the id, there is a request, as long as the address is one that can be asked about. -/
theorem request_eq (h : s.IsBase b) {dirs : List (List Char)}
    (hread : Url.read? (s.trainUrl id).toList = some (trainAddress b dirs id.toList)) :
    s.request id day =
      if isSupported (asked b dirs id.toList day) then .ok (asked b dirs id.toList day)
      else .error (.unsupported (asked b dirs id.toList day)) := by
  have hhost : (trainAddress b dirs id.toList).hasHost = true := h.host
  have hcredentials : withoutCredentials (trainAddress b dirs id.toList) =
      trainAddress b dirs id.toList := by
    have huser : (trainAddress b dirs id.toList).user = [] := h.user
    have hpassword : (trainAddress b dirs id.toList).password = none := h.password
    simp [withoutCredentials, huser, hpassword, plainText?, percentDecode, Utf8.decode?,
      Utf8.pieces, Utf8.piecesFrom]
  simp only [request, hread, hhost, hcredentials, if_true]
  rfl

/-! ### Which ids are read as they stand -/

theorem unmarked_iff {c : Char} : c ∉ ['/', '\\', '?', '#', '\t', '\n', '\r'] ↔
    isSlash .web c = false ∧ isDropped c = false ∧ c ≠ '?' ∧ c ≠ '#' := by
  simp only [isSlash, isDropped, List.mem_cons, List.not_mem_nil, or_false, not_or, ne_eq,
    reduceCtorEq, not_false_eq_true, decide_true, Bool.true_and, Bool.or_eq_false_iff,
    decide_eq_false_iff_not]
  grind

variable {dirs : List (List Char)}

theorem dayQuery_eq (day : Date) :
    formEncode dayParameter.toList ++ ['='] ++ formEncode day.text.toList =
      "date=".toList ++ formEncode day.text.toList := by
  rfl

theorem IsPlainId.path_eq {id : List Char} (h : IsPlainId id) (b : Url)
    (dirs : List (List Char)) :
    (trainAddress b dirs id).path =
        .segments (dirs ++ trainDirs ++ [percentEncode inPath id]) ∧
      (trainAddress b dirs id).query = none := by
  have hplain := fun c hc => unmarked_iff.mp (h.unmarked c hc)
  have htidy : tidy id = id :=
    tidy_eq_self_iff.mpr ⟨fun c hc => (hplain c hc).2.1, h.visible⟩
  have htail : Tail.of .web (tidy id) = ⟨id, none, none⟩ := by
    rw [htidy]
    exact Tail.of_plain (fun hc => (hplain _ hc).2.2.2 rfl) fun hc => (hplain _ hc).2.2.1 rfl
  have hparts := splitAt_of_none fun c hc => (hplain c hc).1
  simp only [trainAddress, htail, hparts]
  simp [resolve, h.notDots]

theorem IsPlainId.names (h : IsPlainId id.toList) (hb : b.path = .segments (dirs ++ [[]])) :
    Names b id day (asked b dirs id.toList day) := by
  obtain ⟨hpath, hquery⟩ := h.path_eq b dirs
  refine ⟨rfl, rfl, rfl, ⟨dirs, _, hb, hpath, percentDecode_percentEncode_iff.mpr h.unescaped⟩, ?_⟩
  simp only [asked, withParameter, hquery]
  rfl

theorem isPlainId_nil : IsPlainId [] :=
  ⟨nofun, nofun, by decide, nofun⟩

/-- What dots are written with is no digit. -/
theorem not_isDigit_of_dots {id : List Char} (h : isTwoDots id = true ∨ isDot id = true) :
    ∃ c ∈ id, isDigit c = false := by
  have hstart : ∃ c ∈ id, c.toLower = '.' ∨ c.toLower = '%' := by
    simp only [isTwoDots, isDot, List.any_cons, List.any_nil, Bool.or_false, Bool.or_eq_true,
      decide_eq_true_eq] at h
    cases id with
    | nil => simp at h
    | cons c id =>
        refine ⟨c, by simp, ?_⟩
        rcases h with (h | h | h | h) | h | h <;> simp at h <;> simp [← h.1]
  obtain ⟨c, hc, hlower⟩ := hstart
  refine ⟨c, hc, Bool.eq_false_iff.mpr fun hdigit => ?_⟩
  have hlow : ∀ d : Char, d.toNat < 0x80 → isDigit d = true → d.toLower = d :=
    forall_ascii (by decide)
  rw [hlow c (lt_of_plain (.inl hdigit)) hdigit] at hlower
  rcases hlower with rfl | rfl <;> cases hdigit

/-- A number is read as it stands. -/
theorem isPlainId_of_digits {id : List Char} (h : AllDigits id) : IsPlainId id := by
  have hdots : ¬(isTwoDots id = true ∨ isDot id = true) := by
    intro hdots
    obtain ⟨c, hc, hnot⟩ := not_isDigit_of_dots hdots
    rw [h c hc] at hnot
    cases hnot
  refine ⟨fun c hc hmem => ?_, fun c hc => ?_, by simpa using hdots, fun hescape => ?_⟩
  · have hdigit := h c hc
    simp only [List.mem_cons, List.not_mem_nil, or_false] at hmem
    rcases hmem with rfl | rfl | rfl | rfl | rfl | rfl | rfl <;> cases hdigit
  · have hdigit := isDigit_iff.mp (h c (List.mem_of_getLast? hc))
    simp only [isEdge, decide_eq_false_iff_not]
    omega
  · exact absurd (h _ hescape.mem) (by decide)

/-- The last segment is empty where dots stand in its place. Otherwise it says an end of what the
path has of the id, and all of it only if there is no slash in it. -/
theorem last_segment {id segment : List Char} {front : List (List Char)}
    (h : (trainAddress b dirs id).path = .segments (front ++ [segment])) :
    segment = [] ∨ ∃ z, z <:+ (Tail.of .web (tidy id)).path ∧ segment = percentEncode inPath z ∧
      isTwoDots z = false ∧ isDot z = false ∧
      (z = (Tail.of .web (tidy id)).path → ∀ c ∈ z, isSlash .web c = false) := by
  generalize hp : (Tail.of .web (tidy id)).path = p
  have hne := splitAt_ne_nil (isSlash .web) p
  obtain ⟨front', hfront⟩ := exists_resolve_eq (dirs ++ trainDirs) hne
  have hsegments := UrlPath.segments.inj h
  rw [hp, hfront] at hsegments
  obtain ⟨-, hlast⟩ := List.append_inj' hsegments rfl
  obtain ⟨hend, hwhole⟩ := getLast_splitAt (List.getLast?_eq_some_getLast hne)
  generalize (Address.splitAt (isSlash .web) p).getLast hne = z at hlast hend hwhole
  by_cases hdots : (isTwoDots z || isDot z) = true
  · rw [if_pos hdots] at hlast
    exact .inl (List.cons.inj hlast).1.symm
  · rw [if_neg hdots] at hlast
    simp only [Bool.or_eq_true, not_or, Bool.not_eq_true] at hdots
    exact .inr ⟨z, hend, (List.cons.inj hlast).1.symm, hdots.1, hdots.2,
      fun hz => hz ▸ (hwhole hz).2⟩

/-- If the last segment says the id, all of the id is in it: what says less has fewer octets. -/
theorem isPlainId_of_last_segment {id segment : List Char} {front : List (List Char)}
    (h : (trainAddress b dirs id).path = .segments (front ++ [segment]))
    (hdecode : percentDecode segment = Utf8.encode id) : IsPlainId id := by
  rcases last_segment h with rfl | ⟨z, hend, rfl, htwo, hone, hslash⟩
  · obtain rfl : id = [] := Utf8.encode_inj hdecode.symm
    exact isPlainId_nil
  · have hpath := Tail.path_front .web (tidy id)
    have htidy := tidy_sublist id
    have hlength := (length_percentDecode_percentEncode z).1
    rw [hdecode] at hlength
    obtain rfl : z = id :=
      Utf8.eq_of_sublist (hend.sublist.trans (hpath.sublist.trans htidy)) hlength
    -- so there is nothing less on the way from the id to its segment
    have hkept : tidy z = z :=
      htidy.eq_of_length_le (hend.length_le.trans hpath.length_le)
    have hall : (Tail.of .web (tidy z)).path = z :=
      (hpath.sublist.trans htidy).eq_of_length_le hend.length_le
    obtain ⟨hdropped, hvisible⟩ := tidy_eq_self_iff.mp hkept
    rw [hkept] at hall hslash
    obtain ⟨hhash, hmark⟩ := Tail.not_mem_of_path_eq hall
    refine ⟨fun c hc => unmarked_iff.mpr ⟨hslash hall.symm c hc, hdropped c hc, ?_, ?_⟩, hvisible,
      ⟨htwo, hone⟩, percentDecode_percentEncode_iff.mp hdecode⟩
    · exact fun heq => hmark (heq ▸ hc)
    · exact fun heq => hhash (heq ▸ hc)

/-- An address names a train exactly if the id of the train is read as it stands. -/
theorem names_asked_iff (hb : b.path = .segments (dirs ++ [[]])) :
    Names b id day (asked b dirs id.toList day) ↔ IsPlainId id.toList := by
  constructor
  · intro h
    obtain ⟨dirs', segment, -, hpath, hdecode⟩ := h.path
    exact isPlainId_of_last_segment (b := b) hpath hdecode
  · intro h
    exact h.names hb

/-! ### What is sent -/

theorem target_asked {id : List Char} (h : IsPlainId id) :
    (asked b dirs id day).target =
      (UrlPath.segments (dirs ++ trainDirs)).text ++ '/' :: (percentEncode inPath id ++
        '?' :: ("date=".toList ++ formEncode day.text.toList)) := by
  obtain ⟨hpath, hquery⟩ := h.path_eq b dirs
  simp only [asked, withParameter, target, hpath, hquery, dayQuery_eq]
  simp [UrlPath.text]

/-- No two ids that are read as they stand are asked for in the same way. -/
theorem eq_of_target_eq {id id' : List Char} {day day' : Date} (h : IsPlainId id)
    (h' : IsPlainId id')
    (htarget : (asked b dirs id day).target = (asked b dirs id' day').target) : id = id' := by
  rw [target_asked h, target_asked h'] at htarget
  have hrest := (List.cons.inj (List.append_cancel_left htarget)).2
  have hsegment := congrArg (fun t => (splitAtFirst '?' t).1) hrest
  simp only [splitAtFirst_of_not_mem (not_mem_percentEncode _)] at hsegment
  have hsame : percentEncode inPath id = percentEncode inPath id' := by
    simpa [splitAtFirst] using hsegment
  have hoctets := congrArg percentDecode hsame
  rw [percentDecode_percentEncode_iff.mpr h.unescaped,
    percentDecode_percentEncode_iff.mpr h'.unescaped] at hoctets
  exact Utf8.encode_inj hoctets

/-- The digits and hyphens of a day stand in a query as they are. -/
theorem formEncode_day (h : day.HasFourDigitYear) :
    formEncode day.text.toList = day.text.toList := by
  refine formEncode_eq_self fun c hc => ?_
  obtain ⟨hlow, hhigh⟩ := h
  simp only [Date.text, Date.yearText, hlow, hhigh, decide_true, Bool.and_self, if_true,
    String.toList_append, List.mem_append] at hc
  rcases hc with (((hc | hc) | hc) | hc) | hc
  · exact .inl (Timestamp.allDigits_padded _ _ c hc)
  · exact .inr (List.mem_singleton.mp hc)
  · exact .inl (Timestamp.allDigits_padded _ _ c hc)
  · exact .inr (List.mem_singleton.mp hc)
  · exact .inl (Timestamp.allDigits_padded _ _ c hc)

/-- **Which requests name the train they are made for.** Whatever the id, an address is asked for
that the server can be asked about in the clear, unless its length or its host forbids that. It
names the train on the day exactly if the id is read as it stands, and no two such ids are asked for
in the same way. -/
theorem request_names_iff (h : s.IsBase b) :
    (∀ id day, ∃ u,
      s.request id day = (if isSupported u then .ok u else .error (.unsupported u)) ∧
      u.scheme = "http".toList ∧ (Names b id day u ↔ IsPlainId id.toList)) ∧
    (∀ id id' day day' u u', s.request id day = .ok u → s.request id' day' = .ok u' →
      IsPlainId id.toList → IsPlainId id'.toList → u.target = u'.target → id = id') ∧
    ∀ day : Date, day.HasFourDigitYear → formEncode day.text.toList = day.text.toList := by
  obtain ⟨dirs, hb, hread⟩ := exists_read?_trainUrl h
  have hasked : ∀ {id day u}, s.request id day = .ok u → u = asked b dirs id.toList day := by
    intro id day u hu
    rw [request_eq h (hread id)] at hu
    split at hu
    · exact (Except.ok.inj hu).symm
    · cases hu
  refine ⟨fun id day => ⟨asked b dirs id.toList day, request_eq h (hread id), ?_,
    names_asked_iff hb⟩, ?_, fun _ => formEncode_day⟩
  · exact h.scheme
  · intro id id' day day' u u' hu hu' hid hid' htarget
    rw [hasked hu, hasked hu'] at htarget
    exact String.toList_inj.mp (eq_of_target_eq hid hid' htarget)

/-- A server with a port and a path is asked about a train by its number. -/
theorem request_names_number :
    let s : Server := ⟨"http://h:8080/api//", 10⟩
    let b : Url := ⟨"http".toList, [], none, some "h".toList, some 8080,
      .segments ["api".toList, []], none, none⟩
    let u : Url := ⟨"http".toList, [], none, some "h".toList, some 8080,
      .segments ["api".toList, "mia".toList, "train".toList, "10512".toList],
      some "date=2024-03-15".toList, none⟩
    s.IsBase b ∧ s.request "10512" ⟨19797⟩ = .ok u ∧ Names b "10512" ⟨19797⟩ u := by
  intro s b u
  have hbase : s.IsBase b := ⟨by decide +kernel, rfl, rfl, rfl, rfl, rfl, rfl⟩
  have hrequest : s.request "10512" ⟨19797⟩ = .ok u := by decide +kernel
  have hplain : IsPlainId "10512".toList :=
    isPlainId_of_digits (List.all_eq_true.mp (show "10512".toList.all isDigit = true by decide))
  obtain ⟨u', hu', -, hnames⟩ := (request_names_iff hbase).1 "10512" ⟨19797⟩
  rw [hrequest] at hu'
  split at hu'
  · rw [Except.ok.inj hu']
    exact ⟨hbase, hu' ▸ hrequest, hnames.mpr hplain⟩
  · cases hu'

/-- A train whose id ends in a mark and a number is taken for the one without them. -/
theorem request_ignores_fragment :
    let s : Server := ⟨"http://h", 10⟩
    (s.request "10512#7" ⟨19797⟩).map target = .ok "/mia/train/10512?date=2024-03-15".toList ∧
      (s.request "10512#7" ⟨19797⟩).map target = (s.request "10512" ⟨19797⟩).map target := by
  decide +kernel

end RailWatch.Server
