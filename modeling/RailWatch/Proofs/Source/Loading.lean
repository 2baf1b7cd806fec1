import Mathlib.Data.List.Nodup
import Mathlib.Data.String.Basic
import RailWatch.Proofs.Outcome
import RailWatch.Proofs.Text.Utf8
import RailWatch.Source.Directory
/-!
# RailWatch.Proofs.Source.Loading

The shelf that a directory makes does not depend on the order in which its entries are listed, and
it has what the payloads among them say, no more and no less.

Stem and extension of a name make up the name (`split?_eq_some_iff`), so two payloads of one
directory never have the same id. Replies for different trains may be put on a shelf in any order
(`Shelf.put_comm`), so a whole listing may be turned round. What one entry contributes is
`payload?_eq_ok_some_iff`, and what the loop over all of them makes of it `fill_eq_ok_iff`.
-/

namespace RailWatch

open Text

/-! ### Replies on a shelf -/

namespace Shelf

theorem get?_put_of_ne {id k : String} (h : k ≠ id) (s : Shelf) (reply : CannedReply) :
    (s.put id reply).get? k = s.get? k := by
  obtain ⟨replies, calls⟩ := s
  simp only [put, get?]
  induction replies with
  | nil => simp [insertReply, List.lookup_cons, beq_eq_false_iff_ne.mpr h]
  | cons entry rest ih =>
      obtain ⟨key, old⟩ := entry
      simp only [insertReply]
      split
      · next heq =>
          subst heq
          simp [List.lookup_cons, beq_eq_false_iff_ne.mpr h]
      · split
        · simp [List.lookup_cons, beq_eq_false_iff_ne.mpr h]
        · rw [List.lookup_cons, List.lookup_cons, ih]

theorem insertReply_comm {id id' : String} (h : id ≠ id') (reply reply' : CannedReply)
    (replies : List (String × CannedReply)) :
    insertReply id' reply' (insertReply id reply replies) =
      insertReply id reply (insertReply id' reply' replies) := by
  induction replies with
  | nil => rcases lt_or_gt_of_ne h with hlt | hlt <;> grind [insertReply]
  | cons entry rest ih =>
      -- each of the two comes before the entry, in its place, or behind it
      rcases lt_or_gt_of_ne h with hlt | hlt <;> grind [insertReply]

/-- Replies for two trains may be put on a shelf in either order. -/
theorem put_comm {id id' : String} (h : id ≠ id') (reply reply' : CannedReply) (s : Shelf) :
    (s.put id reply).put id' reply' = (s.put id' reply').put id reply := by
  simp only [put, insertReply_comm h]

/-- Puts a payload on a shelf. -/
def stock (s : Shelf) (payload : String × String) : Shelf :=
  s.put payload.1 (.body payload.2)

variable {payloads payloads' : List (String × String)} {id body : String} {s : Shelf}

/-- No train has two payloads. -/
def OneForEach (payloads : List (String × String)) : Prop :=
  ∀ p ∈ payloads, ∀ q ∈ payloads, p.1 = q.1 → p = q

theorem OneForEach.tail {p : String × String} (h : OneForEach (p :: payloads)) :
    OneForEach payloads :=
  fun q hq r hr => h q (List.mem_cons_of_mem p hq) r (List.mem_cons_of_mem p hr)

/-- A shelf may be stocked in any order. -/
theorem foldl_stock_perm (h : payloads.Perm payloads') (hone : OneForEach payloads) (s : Shelf) :
    payloads.foldl stock s = payloads'.foldl stock s := by
  refine h.foldl_eq' (fun p hp q hq s => ?_) s
  by_cases hid : p.1 = q.1
  · rw [hone p hp q hq hid]
  · exact put_comm hid _ _ s

/-- What is put on a shelf for other trains does not change the reply for a train. -/
theorem get?_foldl_stock_of_ne (h : ∀ p ∈ payloads, id ≠ p.1) :
    (payloads.foldl stock s).get? id = s.get? id := by
  induction payloads generalizing s with
  | nil => rfl
  | cons p rest ih =>
      rw [List.foldl_cons, ih fun q hq => h q (List.mem_cons_of_mem p hq), stock,
        get?_put_of_ne (h p List.mem_cons_self)]

/-- What is put on a shelf stays there. -/
theorem get?_foldl_stock (hone : OneForEach payloads) (h : (id, body) ∈ payloads) :
    (payloads.foldl stock s).get? id = some (.body body) := by
  induction payloads generalizing s with
  | nil => cases h
  | cons p rest ih =>
      rw [List.foldl_cons]
      by_cases hlater : (id, body) ∈ rest
      · exact ih hone.tail hlater
      · obtain rfl : (id, body) = p := (List.mem_cons.mp h).resolve_right hlater
        have hrest : ∀ q ∈ rest, id ≠ q.1 := by
          intro q hq hid
          have hq' := hone _ List.mem_cons_self q (List.mem_cons_of_mem _ hq) hid
          exact hlater (hq' ▸ hq)
        rw [get?_foldl_stock_of_ne hrest, stock, get?_put_self]

theorem get?_empty (id : String) : empty.get? id = none := rfl

/-- On an empty shelf there are then the payloads and nothing else. -/
theorem get?_foldl_stock_empty_iff (hone : OneForEach payloads) {reply : CannedReply} :
    (payloads.foldl stock empty).get? id = some reply ↔
      ∃ body, reply = .body body ∧ (id, body) ∈ payloads := by
  constructor
  · intro h
    by_cases hid : ∃ p ∈ payloads, id = p.1
    · obtain ⟨⟨_, body⟩, hp, rfl⟩ := hid
      rw [get?_foldl_stock hone hp] at h
      exact ⟨body, (Option.some.inj h).symm, hp⟩
    · rw [get?_foldl_stock_of_ne fun p hp heq => hid ⟨p, hp, heq⟩, get?_empty] at h
      cases h
  · rintro ⟨body, rfl, hp⟩
    exact get?_foldl_stock hone hp

theorem isEmpty_foldl_stock_iff (hone : OneForEach payloads) :
    (payloads.foldl stock empty).replies.isEmpty ↔ payloads = [] := by
  constructor
  · intro h
    cases payloads with
    | nil => rfl
    | cons p rest =>
        have hget := get?_foldl_stock (s := empty) hone List.mem_cons_self
        rw [get?, List.isEmpty_iff.mp h] at hget
        cases hget
  · rintro rfl
    rfl

/-- The shelf after fetches of these trains, one after the other. -/
def asked (s : Shelf) (ids : List String) : Shelf :=
  ids.foldl (fun s id => (s.serve id).1) s

/-- A fetch ends in the same way, whatever was fetched before. -/
theorem serve_asked (s : Shelf) (fetched : List String) (id : String) :
    ((s.asked fetched).serve id).2 = s.ending id := by
  induction fetched generalizing s with
  | nil => rfl
  | cons first rest ih => exact ih (s.serve first).1

end Shelf

/-- The empty payload is the one of a train that does not run. -/
theorem ofText_emptyPayload (id : String) : Journey.ofText id emptyPayload = .ok .notFound := by
  have hdays : Payload.readDays emptyPayload.toList = .ok [] := by cbv
  rw [Journey.ofText, hdays]
  rfl

namespace Directory

/-! ### Names of payloads -/

/-- Octets that are no dots are passed over in search of the last dot. -/
theorem takeWhile_append_of_not_mem {octets : List UInt8} (h : dot ∉ octets) (rest : List UInt8) :
    (octets ++ rest).takeWhile (· ≠ dot) = octets ++ rest.takeWhile (· ≠ dot) := by
  refine List.takeWhile_append_of_pos fun b hb => ?_
  rw [decide_eq_true_eq]
  rintro rfl
  exact h hb

/-- Without a dot a name has no extension. -/
theorem split?_of_not_mem {name : List UInt8} (h : dot ∉ name) : split? name = none := by
  have hall := takeWhile_append_of_not_mem (mt List.mem_reverse.mp h) []
  rw [List.append_nil, List.takeWhile_nil, List.append_nil] at hall
  unfold split?
  simp only [hall, List.length_reverse, decide_true, Bool.or_true, if_true]

/-- The extension is what follows the last dot, if a stem stands before it. -/
theorem split?_append {stem extension : List UInt8} (h : dot ∉ extension) :
    split? (stem ++ dot :: extension) = if stem = [] then none else some (stem, extension) := by
  have hbehind : (stem ++ dot :: extension).reverse.takeWhile (· ≠ dot) = extension.reverse := by
    rw [List.reverse_append, List.reverse_cons, List.append_assoc,
      takeWhile_append_of_not_mem (mt List.mem_reverse.mp h)]
    simp
  have hlength : (stem ++ dot :: extension).length - extension.length - 1 = stem.length := by
    rw [List.length_append, List.length_cons]
    omega
  have hne : ¬extension.length = (stem ++ dot :: extension).length := by
    rw [List.length_append, List.length_cons]
    omega
  unfold split?
  simp only [hbehind, List.reverse_reverse, hlength, List.take_left, hne, decide_false,
    Bool.or_false, List.isEmpty_iff]

/-- A name is divided at its last dot. -/
theorem exists_last_dot {name : List UInt8} (h : dot ∈ name) :
    ∃ stem extension, dot ∉ extension ∧ name = stem ++ dot :: extension := by
  obtain ⟨front, back, heq, hfront⟩ := List.eq_append_cons_of_mem (List.mem_reverse.mpr h)
  refine ⟨back.reverse, front.reverse, by simpa using hfront, ?_⟩
  have hname := congrArg List.reverse heq
  simpa using hname

/-- Stem and extension, with a dot between them, are the name. -/
theorem split?_eq_some_iff {name stem extension : List UInt8} :
    split? name = some (stem, extension) ↔
      stem ≠ [] ∧ dot ∉ extension ∧ name = stem ++ dot :: extension := by
  constructor
  · intro h
    by_cases hdot : dot ∈ name
    · obtain ⟨stem', extension', hlast, rfl⟩ := exists_last_dot hdot
      rw [split?_append hlast] at h
      split at h
      · cases h
      · next hstem =>
          cases h
          exact ⟨hstem, hlast, rfl⟩
    · rw [split?_of_not_mem hdot] at h
      cases h
  · rintro ⟨hstem, hlast, rfl⟩
    rw [split?_append hlast, if_neg hstem]

theorem payloadStem?_eq_some_iff {name stem : List UInt8} :
    payloadStem? name = some stem ↔ stem ≠ [] ∧ name = stem ++ dot :: payloadExtension := by
  have hdot : dot ∉ payloadExtension := by decide
  rw [payloadStem?, Option.bind_eq_some_iff]
  constructor
  · rintro ⟨⟨stem', extension⟩, hsplit, h⟩
    obtain ⟨hstem, -, rfl⟩ := split?_eq_some_iff.mp hsplit
    dsimp only at h
    split at h
    · next hextension =>
        cases h
        exact ⟨hstem, by rw [hextension]⟩
    · cases h
  · rintro ⟨hstem, rfl⟩
    exact ⟨(stem, payloadExtension), split?_eq_some_iff.mpr ⟨hstem, hdot, rfl⟩, if_pos rfl⟩

/-! ### One entry -/

/-- A name whose extension is the one of payloads. -/
def NamesPayload (name : List UInt8) : Prop :=
  ∃ stem, stem ≠ [] ∧ name = stem ++ dot :: payloadExtension

/-- The entry is the payload `body` of the train `id`: a file with this text, and with the id before
the extension as its name. -/
structure IsPayload (id body : String) (entry : List UInt8 × DirectoryItem) : Prop where
  id_ne : id ≠ ""
  name : entry.1 = Utf8.encode (id ++ ".json").toList
  item : entry.2 = .file (Utf8.encode body.toList)

/-- If the entry is a file with the name of a payload, it is one: its stem and its octets are
texts. -/
def IsReadable (entry : List UInt8 × DirectoryItem) : Prop :=
  ∀ octets, entry.2 = .file octets → NamesPayload entry.1 → ∃ id body, IsPayload id body entry

variable {path name : List UInt8} {item : DirectoryItem} {id body : String}
  {entry : List UInt8 × DirectoryItem}

theorem encode_fileName (id : String) :
    Utf8.encode (id ++ ".json").toList = Utf8.encode id.toList ++ dot :: payloadExtension := by
  have hextension : Utf8.encode ".json".toList = dot :: payloadExtension := by decide
  rw [String.toList_append, Utf8.encode, List.flatMap_append, ← hextension]
  rfl

theorem encode_eq_nil_iff {s : List Char} : Utf8.encode s = [] ↔ s = [] := by
  cases s <;> simp [Utf8.encode]

/-- The stem of a payload is the id of its train. -/
theorem IsPayload.payloadStem?_eq (h : IsPayload id body entry) :
    payloadStem? entry.1 = some (Utf8.encode id.toList) := by
  rw [payloadStem?_eq_some_iff, h.name, encode_fileName]
  refine ⟨fun hnil => h.id_ne ?_, rfl⟩
  exact String.toList_eq_nil_iff.mp (encode_eq_nil_iff.mp hnil)

theorem IsPayload.namesPayload (h : IsPayload id body entry) : NamesPayload entry.1 :=
  ⟨_, payloadStem?_eq_some_iff.mp h.payloadStem?_eq⟩

/-- **What an entry contributes** are the id and the text of a payload. -/
theorem payload?_eq_ok_some_iff :
    payload? path entry.1 entry.2 = .ok (some (id, body)) ↔ IsPayload id body entry := by
  constructor
  · intro h
    unfold payload? at h
    split at h
    · next octets stem hitem hstem =>
        obtain ⟨hne, hname⟩ := payloadStem?_eq_some_iff.mp hstem
        split at h
        · cases h
        · next ids hids =>
            split at h
            · cases h
            · next bodies hbodies =>
                obtain rfl := Utf8.decode?_eq_some_iff.mp hids
                obtain rfl := Utf8.decode?_eq_some_iff.mp hbodies
                obtain ⟨rfl, rfl⟩ := Prod.mk.inj (Option.some.inj (Except.ok.inj h))
                refine ⟨?_, ?_, ?_⟩
                · rintro hid
                  rw [String.ofList_eq_empty_iff] at hid
                  exact hne (encode_eq_nil_iff.mpr hid)
                · rw [encode_fileName, String.toList_ofList, hname]
                · rw [String.toList_ofList, hitem]
    · cases h
  · intro h
    have hstem := h.payloadStem?_eq
    have hid := Utf8.decode?_eq_some_iff.mpr (rfl : Utf8.encode id.toList = _)
    have hbody := Utf8.decode?_eq_some_iff.mpr (rfl : Utf8.encode body.toList = _)
    simp [payload?, h.item, hstem, hid, hbody]

/-- An entry stops the loading exactly if it is not readable. -/
theorem exists_payload?_eq_ok_iff (path : List UInt8) :
    (∃ found, payload? path entry.1 entry.2 = .ok found) ↔ IsReadable entry := by
  constructor
  · rintro ⟨found, hfound⟩ octets hitem ⟨stem, hstem⟩
    have hstem := payloadStem?_eq_some_iff.mpr hstem
    cases found with
    | some payload => exact ⟨payload.1, payload.2, payload?_eq_ok_some_iff.mp hfound⟩
    | none =>
        -- a file with the name of a payload is not passed over
        simp only [payload?, hitem, hstem] at hfound
        split at hfound
        · cases hfound
        · split at hfound <;> cases hfound
  · intro h
    by_cases hpayload : ∃ id body, IsPayload id body entry
    · obtain ⟨id, body, hpayload⟩ := hpayload
      exact ⟨_, payload?_eq_ok_some_iff.mpr hpayload⟩
    · refine ⟨none, ?_⟩
      unfold payload?
      split
      · next octets stem hitem hstem =>
          exact absurd (h octets hitem ⟨stem, payloadStem?_eq_some_iff.mp hstem⟩) hpayload
      · rfl

/-- Payloads of one train have one name. -/
theorem IsPayload.name_eq {body' : String} {entry' : List UInt8 × DirectoryItem}
    (h : IsPayload id body entry) (h' : IsPayload id body' entry') : entry.1 = entry'.1 :=
  h.name.trans h'.name.symm

/-- An entry has one text. -/
theorem IsPayload.body_eq {body' : String} (h : IsPayload id body entry)
    (h' : IsPayload id body' entry) : body = body' := by
  have hoctets := DirectoryItem.file.inj (h.item.symm.trans h'.item)
  exact String.toList_inj.mp (Utf8.encode_inj hoctets)

/-! ### All entries -/

/-- The payloads of a listing, in its order. -/
def payloads (path : List UInt8) (items : Listing) : List (String × String) :=
  items.filterMap fun entry => (payload? path entry.1 entry.2).toOption.join

variable {items items' : Listing} {s shelf : Shelf}

theorem mem_payloads_iff {p : String × String} :
    p ∈ payloads path items ↔ ∃ entry ∈ items, IsPayload p.1 p.2 entry := by
  have hjoin : ∀ entry : List UInt8 × DirectoryItem,
      (payload? path entry.1 entry.2).toOption.join = some p ↔ IsPayload p.1 p.2 entry := by
    intro entry
    rw [Option.join_eq_some_iff, toOption_eq_some_iff, payload?_eq_ok_some_iff]
  simp only [payloads, List.mem_filterMap, hjoin]

theorem payloads_perm (h : items.Perm items') : (payloads path items).Perm (payloads path items') :=
  h.filterMap _

/-- In a directory no train has two payloads. -/
theorem oneForEach_payloads (path : List UInt8) (hnames : (items.map Prod.fst).Nodup) :
    Shelf.OneForEach (payloads path items) := by
  rintro ⟨id, body⟩ hp ⟨id', body'⟩ hq heq
  obtain rfl : id = id' := heq
  obtain ⟨entry, hentry, hpayload⟩ := mem_payloads_iff.mp hp
  obtain ⟨entry', hentry', hpayload'⟩ := mem_payloads_iff.mp hq
  obtain rfl : entry = entry' :=
    List.inj_on_of_nodup_map hnames hentry hentry' (hpayload.name_eq hpayload')
  exact Prod.ext rfl (hpayload.body_eq hpayload')

/-! ### The loop over the entries -/

theorem fill_error {e : LoadError} (h : payload? path name item = .error e) (rest : Listing) :
    fill path s ((name, item) :: rest) = .error e := by
  rw [fill, h]
  rfl

theorem fill_skip (h : payload? path name item = .ok none) (rest : Listing) :
    fill path s ((name, item) :: rest) = fill path s rest := by
  rw [fill, h]
  rfl

theorem fill_payload {p : String × String} (h : payload? path name item = .ok (some p))
    (rest : Listing) : fill path s ((name, item) :: rest) = fill path (s.stock p) rest := by
  rw [fill, h]
  rfl

/-- The loop ends well exactly if all entries are readable, and then the payloads among them have
been put on the shelf. -/
theorem fill_eq_ok_iff :
    fill path s items = .ok shelf ↔
      (∀ entry ∈ items, IsReadable entry) ∧ shelf = (payloads path items).foldl Shelf.stock s := by
  induction items generalizing s with
  | nil => simp [fill, payloads, eq_comm]
  | cons entry rest ih =>
      obtain ⟨name, item⟩ := entry
      rw [List.forall_mem_cons, ← exists_payload?_eq_ok_iff path, payloads,
        List.filterMap_cons]
      cases hentry : payload? path name item with
      | error e => simp [fill_error hentry]
      | ok found =>
          cases found with
          | none =>
              rw [fill_skip hentry, ih]
              simp [payloads, Except.toOption]
          | some p =>
              rw [fill_payload hentry, ih]
              simp [payloads, Except.toOption]

/-- A directory can be loaded if it has a payload and everything that looks like one is one. -/
structure IsLoadable (items : Listing) : Prop where
  exists_payload : ∃ entry ∈ items, (∃ octets, entry.2 = .file octets) ∧ NamesPayload entry.1
  readable : ∀ entry ∈ items, IsReadable entry

theorem payloads_ne_nil_iff (path : List UInt8) (h : ∀ entry ∈ items, IsReadable entry) :
    payloads path items ≠ [] ↔
      ∃ entry ∈ items, (∃ octets, entry.2 = .file octets) ∧ NamesPayload entry.1 := by
  constructor
  · intro hne
    obtain ⟨p, hp⟩ := List.exists_mem_of_ne_nil _ hne
    obtain ⟨entry, hentry, hpayload⟩ := mem_payloads_iff.mp hp
    exact ⟨entry, hentry, ⟨_, hpayload.item⟩, hpayload.namesPayload⟩
  · rintro ⟨entry, hentry, ⟨octets, hitem⟩, hname⟩
    obtain ⟨id, body, hpayload⟩ := h entry hentry octets hitem hname
    have hp : (id, body) ∈ payloads path items := mem_payloads_iff.mpr ⟨entry, hentry, hpayload⟩
    exact List.ne_nil_of_mem hp

/-- What comes of loading a directory. -/
theorem load_eq_ok_iff (hnames : (items.map Prod.fst).Nodup) :
    load path (.ok items) = .ok shelf ↔
      IsLoadable items ∧ shelf = (payloads path items).foldl Shelf.stock .empty := by
  have hempty := Shelf.isEmpty_foldl_stock_iff (oneForEach_payloads path hnames)
  rw [load, bind_eq_ok_iff]
  constructor
  · rintro ⟨filled, hfill, h⟩
    obtain ⟨hreadable, rfl⟩ := fill_eq_ok_iff.mp hfill
    split at h
    · cases h
    · next hsome =>
        have hpayload := (payloads_ne_nil_iff path hreadable).mp (mt hempty.mpr hsome)
        exact ⟨⟨hpayload, hreadable⟩, (Except.ok.inj h).symm⟩
  · rintro ⟨⟨hpayload, hreadable⟩, rfl⟩
    have hsome := mt hempty.mp ((payloads_ne_nil_iff path hreadable).mpr hpayload)
    exact ⟨_, fill_eq_ok_iff.mpr ⟨hreadable, rfl⟩, if_neg hsome⟩

/-- The order in which the entries are listed makes no difference. -/
theorem load_perm (h : items.Perm items') (hnames : (items.map Prod.fst).Nodup) :
    load path (.ok items) = .ok shelf ↔ load path (.ok items') = .ok shelf := by
  have hnames' : (items'.map Prod.fst).Nodup := (h.map Prod.fst).nodup_iff.mp hnames
  have hshelf : (payloads path items).foldl Shelf.stock .empty =
      (payloads path items').foldl Shelf.stock .empty :=
    Shelf.foldl_stock_perm (payloads_perm h) (oneForEach_payloads path hnames) .empty
  have hloadable : IsLoadable items ↔ IsLoadable items' := by
    constructor
    · rintro ⟨⟨entry, hentry, hpayload⟩, hreadable⟩
      exact ⟨⟨entry, h.mem_iff.mp hentry, hpayload⟩,
        fun entry hentry => hreadable entry (h.mem_iff.mpr hentry)⟩
    · rintro ⟨⟨entry, hentry, hpayload⟩, hreadable⟩
      exact ⟨⟨entry, h.mem_iff.mpr hentry, hpayload⟩,
        fun entry hentry => hreadable entry (h.mem_iff.mp hentry)⟩
  rw [load_eq_ok_iff hnames, load_eq_ok_iff hnames', hshelf, hloadable]

/-- A train has the reply on the shelf that is its payload in the directory, and no other. -/
theorem get?_eq_some_iff_of_load (hnames : (items.map Prod.fst).Nodup)
    (hload : load path (.ok items) = .ok shelf) {reply : CannedReply} :
    shelf.get? id = some reply ↔
      ∃ body, reply = .body body ∧ ∃ entry ∈ items, IsPayload id body entry := by
  obtain ⟨-, rfl⟩ := (load_eq_ok_iff hnames).mp hload
  rw [Shelf.get?_foldl_stock_empty_iff (oneForEach_payloads path hnames)]
  simp only [mem_payloads_iff]

/-- **A directory may be listed in any order.** Its entries have different names. Whether it can be
loaded, and what is on the shelf then, is the same for every order. It can be loaded exactly if there
is a payload in it and every file with the extension of payloads has a text as its stem and a text as
its contents. Then a fetch of a train gives the contents of its file, whatever was fetched before,
and the empty payload, of a train that does not run, if there is no such file. No two files are
payloads of one train. -/
theorem load_in_any_order (path : List UInt8) {items : Listing}
    (hnames : (items.map Prod.fst).Nodup) :
    (∀ items', items.Perm items' →
      ∀ shelf, load path (.ok items) = .ok shelf ↔ load path (.ok items') = .ok shelf) ∧
    ((∃ shelf, load path (.ok items) = .ok shelf) ↔ IsLoadable items) ∧
    (∀ shelf, load path (.ok items) = .ok shelf → ∀ fetched id,
      (∀ entry ∈ items, ∀ body, IsPayload id body entry →
        ((shelf.asked fetched).serve id).2 = .replied (.ok body)) ∧
      ((∀ entry ∈ items, ∀ body, ¬IsPayload id body entry) →
        ((shelf.asked fetched).serve id).2 = .replied (.ok emptyPayload) ∧
          Journey.ofText id emptyPayload = .ok .notFound)) ∧
    ∀ entry ∈ items, ∀ entry' ∈ items, ∀ id body body',
      payload? path entry.1 entry.2 = .ok (some (id, body)) →
        payload? path entry'.1 entry'.2 = .ok (some (id, body')) → entry = entry' := by
  refine ⟨fun items' h shelf => load_perm h hnames, ?_, ?_, ?_⟩
  · constructor
    · rintro ⟨shelf, hload⟩
      exact ((load_eq_ok_iff hnames).mp hload).1
    · intro hloadable
      exact ⟨_, (load_eq_ok_iff hnames).mpr ⟨hloadable, rfl⟩⟩
  · intro shelf hload fetched id
    constructor
    · intro entry hentry body hpayload
      have hget := (get?_eq_some_iff_of_load hnames hload).mpr ⟨body, rfl, entry, hentry, hpayload⟩
      rw [Shelf.serve_asked, Shelf.ending, hget]
      rfl
    · intro hnone
      have hget : shelf.get? id = none := by
        refine Option.eq_none_iff_forall_ne_some.mpr fun reply hreply => ?_
        obtain ⟨body, -, entry, hentry, hpayload⟩ :=
          (get?_eq_some_iff_of_load hnames hload).mp hreply
        exact hnone entry hentry body hpayload
      rw [Shelf.serve_asked, Shelf.ending, hget]
      exact ⟨rfl, ofText_emptyPayload id⟩
  · intro entry hentry entry' hentry' id body body' hfound hfound'
    have hname := (payload?_eq_ok_some_iff.mp hfound).name_eq (payload?_eq_ok_some_iff.mp hfound')
    exact List.inj_on_of_nodup_map hnames hentry hentry' hname

/-- A directory with two payloads, the id of one of which ends like a file name. Next to them there
are a directory, and a file that is all extension and no text: they are passed over. -/
theorem load_in_any_order_hiddenFile :
    let hidden : List UInt8 × DirectoryItem := (Utf8.encode ".json".toList, .file [0xFF])
    let folder : List UInt8 × DirectoryItem := (Utf8.encode "2.json".toList, .directory)
    let once : List UInt8 × DirectoryItem :=
      (Utf8.encode "1.json".toList, .file (Utf8.encode "[]".toList))
    let twice : List UInt8 × DirectoryItem :=
      (Utf8.encode "1.json.json".toList, .file (Utf8.encode "[é".toList))
    let items : Listing := [hidden, twice, folder, once]
    let shelf : Shelf := ⟨[("1", .body "[]"), ("1.json", .body "[é")], 0⟩
    (items.map Prod.fst).Nodup ∧ items.Perm [once, folder, twice, hidden] ∧
      load [] (.ok items) = .ok shelf ∧ load [] (.ok [once, folder, twice, hidden]) = .ok shelf ∧
      IsPayload "1.json" "[é" twice ∧
      ((shelf.asked ["1", ""]).serve "1.json").2 = .replied (.ok "[é") ∧
      (∀ entry ∈ items, ∀ body, ¬IsPayload "2" body entry) ∧
      ((shelf.asked ["1", ""]).serve "2").2 = .replied (.ok "[]") := by
  intro hidden folder once twice items shelf
  have hnames : (items.map Prod.fst).Nodup := by decide
  have hturned : items.Perm [once, folder, twice, hidden] := (List.reverse_perm items).symm
  have hload : load [] (.ok items) = .ok shelf := by decide
  have htwice : IsPayload "1.json" "[é" twice := ⟨by decide, by decide, by decide⟩
  obtain ⟨horder, -, hfetch, -⟩ := load_in_any_order [] hnames
  have hfolder : ∀ entry ∈ items, entry.1 = Utf8.encode ("2" ++ ".json").toList →
      entry.2 = .directory := by decide
  have hnone : ∀ entry ∈ items, ∀ body, ¬IsPayload "2" body entry := by
    intro entry hentry body hpayload
    have hfile := hpayload.item
    rw [hfolder entry hentry hpayload.name] at hfile
    cases hfile
  refine ⟨hnames, hturned, hload, (horder _ hturned shelf).mp hload, htwice, ?_, hnone, ?_⟩
  · exact (hfetch shelf hload ["1", ""] "1.json").1 twice (by decide) "[é" htwice
  · exact ((hfetch shelf hload ["1", ""] "2").2 hnone).1

end Directory

end RailWatch
