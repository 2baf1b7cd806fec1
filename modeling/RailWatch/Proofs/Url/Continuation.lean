import Mathlib.Data.List.TakeWhile
import RailWatch.Url
/-!
# RailWatch.Proofs.Url.Continuation

Addresses that are written further.

Once an address of the web has got beyond its host and a slash stands at its end, `Closed`, nothing
that is written behind it can change what was read before. Its scheme, user, host and port stay, and
the rest goes into the path, the query and the fragment (`read?_append`). In the path the parts from
before are settled too, dots among them, and what comes later is resolved after them
(`resolve_append`).
-/

namespace RailWatch.Url

open Text

variable {s t y r : List Char} {p : Char → Bool} {kind : Kind}

/-! ### Texts that end with a slash -/

/-- The text ends with a slash. -/
def Closed (s : List Char) : Prop := ∃ front, s = front ++ ['/']

theorem Closed.ne_nil (h : Closed s) : s ≠ [] := by
  obtain ⟨front, rfl⟩ := h
  simp

theorem Closed.of_suffix (h : Closed s) (hsuffix : t <:+ s) (hne : t ≠ []) : Closed t := by
  obtain ⟨front, rfl⟩ := h
  obtain ⟨u, hu⟩ := hsuffix
  obtain ⟨t', c, rfl⟩ := (List.eq_nil_or_concat t).resolve_left hne
  rw [List.concat_eq_append, ← List.append_assoc] at hu
  obtain ⟨-, hc⟩ := List.append_inj' hu rfl
  exact ⟨t', by rw [List.concat_eq_append, hc]⟩

theorem Closed.append (h : Closed t) (s : List Char) : Closed (s ++ t) := by
  obtain ⟨front, rfl⟩ := h
  exact ⟨s ++ front, (List.append_assoc ..).symm⟩

theorem Closed.dropWhile_ne_nil (h : Closed s) (hp : p '/' = false) : s.dropWhile p ≠ [] := by
  obtain ⟨front, rfl⟩ := h
  intro hnil
  have hslash := List.dropWhile_eq_nil_iff.mp hnil '/' (by simp)
  rw [hp] at hslash
  cases hslash

theorem Closed.dropWhile (h : Closed s) (hp : p '/' = false) : Closed (s.dropWhile p) :=
  h.of_suffix (List.dropWhile_suffix p) (h.dropWhile_ne_nil hp)

theorem takeWhile_length_lt (h : Closed s) (hp : p '/' = false) :
    (s.takeWhile p).length < s.length := by
  have hpos := List.length_pos_iff.mpr (h.dropWhile_ne_nil hp)
  have hsplit := congrArg List.length (List.takeWhile_append_dropWhile (p := p) (l := s))
  rw [List.length_append] at hsplit
  omega

theorem dropWhile_append_of_ne_nil (h : s.dropWhile p ≠ []) :
    (s ++ y).dropWhile p = s.dropWhile p ++ y := by
  rw [List.dropWhile_append, if_neg (by simpa using h)]

theorem takeWhile_append_of_ne_nil (h : s.dropWhile p ≠ []) :
    (s ++ y).takeWhile p = s.takeWhile p := by
  rw [List.takeWhile_append, if_neg]
  intro hlength
  have hsplit := congrArg List.length (List.takeWhile_append_dropWhile (p := p) (l := s))
  rw [List.length_append] at hsplit
  exact h (List.length_eq_zero_iff.mp (by omega))

theorem head?_append_of_ne_nil (h : s ≠ []) : (s ++ y).head? = s.head? := by
  obtain ⟨c, t, rfl⟩ := List.exists_cons_of_ne_nil h
  rfl

/-! ### What is ignored -/

/-- A text without blanks at its end and without tabs and line breaks. -/
def tidy (s : List Char) : List Char :=
  ((s.reverse.dropWhile isEdge).reverse).filter fun c => !isDropped c

theorem trimEnd_sublist (s : List Char) : (s.reverse.dropWhile isEdge).reverse.Sublist s := by
  have hsuffix := (List.dropWhile_suffix isEdge (l := s.reverse)).sublist.reverse
  rwa [List.reverse_reverse] at hsuffix

theorem tidy_sublist (s : List Char) : (tidy s).Sublist s :=
  List.filter_sublist.trans (trimEnd_sublist s)

/-- Nothing is ignored in a text without tabs and line breaks and without a blank at its end. -/
theorem tidy_eq_self_iff :
    tidy s = s ↔ (∀ c ∈ s, isDropped c = false) ∧ ∀ c ∈ s.getLast?, isEdge c = false := by
  have hend : (s.reverse.dropWhile isEdge).reverse = s ↔ ∀ c ∈ s.getLast?, isEdge c = false := by
    rw [List.reverse_eq_iff, List.dropWhile_eq_self_iff, List.getLast?_eq_head?_reverse]
    cases s.reverse <;> simp
  rw [← hend]
  constructor
  · intro h
    have hkept : (tidy s).Sublist (s.reverse.dropWhile isEdge).reverse := List.filter_sublist
    rw [h] at hkept
    have htrim := (trimEnd_sublist s).eq_of_length_le hkept.length_le
    rw [tidy, htrim, List.filter_eq_self] at h
    exact ⟨by simpa using h, htrim⟩
  · intro ⟨hdropped, hs⟩
    rw [tidy, hs, List.filter_eq_self]
    simpa using hdropped

theorem Closed.filter (h : Closed s) : Closed (s.filter fun c => !isDropped c) := by
  obtain ⟨front, rfl⟩ := h
  rw [List.filter_append]
  exact Closed.append ⟨[], rfl⟩ _

theorem Closed.tidy_append (h : Closed s) (y : List Char) :
    tidy (s ++ y) = (s.filter fun c => !isDropped c) ++ tidy y := by
  obtain ⟨front, rfl⟩ := h
  have hend : (front ++ ['/']).reverse.dropWhile isEdge = (front ++ ['/']).reverse := by
    rw [List.reverse_append]
    rfl
  rw [tidy, List.reverse_append, List.dropWhile_append, hend, tidy]
  by_cases hblank : y.reverse.dropWhile isEdge = []
  · simp [hblank]
  · rw [if_neg (by simpa using hblank), List.reverse_append, List.reverse_reverse,
      List.filter_append]

theorem Closed.clean (h : Closed s) : Closed (clean s) := by
  have hstart := h.dropWhile (p := isEdge) (by decide)
  have htidy := hstart.tidy_append []
  rw [List.append_nil] at htidy
  show Closed (tidy (s.dropWhile isEdge))
  rw [htidy, show tidy [] = [] from rfl, List.append_nil]
  exact hstart.filter

theorem Closed.clean_append (h : Closed s) (y : List Char) :
    Url.clean (s ++ y) = Url.clean s ++ tidy y := by
  have hstart := h.dropWhile (p := isEdge) (by decide)
  have htidy := hstart.tidy_append []
  rw [List.append_nil] at htidy
  show tidy ((s ++ y).dropWhile isEdge) = tidy (s.dropWhile isEdge) ++ tidy y
  rw [dropWhile_append_of_ne_nil hstart.ne_nil, hstart.tidy_append, htidy,
    show tidy [] = [] from rfl, List.append_nil]

/-! ### Scheme, user, host and port -/

theorem splitScheme?_append {scheme : List Char} (h : splitScheme? s = some (scheme, r))
    (y : List Char) : splitScheme? (s ++ y) = some (scheme, r ++ y) ∧ r <:+ s := by
  cases s with
  | nil => cases h
  | cons c s =>
      simp only [splitScheme?, Option.ite_none_right_eq_some] at h
      obtain ⟨hletter, h⟩ := h
      split at h
      · next rest hrest =>
          obtain ⟨rfl, rfl⟩ := Prod.mk.inj (Option.some.inj h)
          have hne : (c :: s).dropWhile isSchemeChar ≠ [] := by simp [hrest]
          refine ⟨?_, ?_⟩
          · rw [List.cons_append, splitScheme?, if_pos hletter, ← List.cons_append,
              dropWhile_append_of_ne_nil hne, takeWhile_append_of_ne_nil hne, hrest]
            rfl
          · exact (List.suffix_cons ':' rest).trans (hrest ▸ List.dropWhile_suffix isSchemeChar)
      · cases h

theorem slash_endsHost : endsHost kind '/' = true := by
  simp [endsHost, isSlash]

theorem readUser?_append (h : Closed s) (y : List Char) :
    readUser? kind (s ++ y) = readUser? kind s := by
  have hslash : (!endsHost kind '/') = false := by simp [slash_endsHost]
  have hne := h.dropWhile_ne_nil (p := fun c => !endsHost kind c) hslash
  have hshort := takeWhile_length_lt h (p := fun c => !endsHost kind c) hslash
  have hshort' : (s.takeWhile fun c => !endsHost kind c).length < (s ++ y).length := by
    rw [List.length_append]
    omega
  simp only [readUser?, takeWhile_append_of_ne_nil hne, hshort, hshort']

/-- The user takes no more characters than stand before the path. -/
theorem readUser?_lt (h : Closed s) {user : List Char} {password : Option (List Char)} {n : Nat}
    (hread : readUser? kind s = some (user, password, n)) : n < s.length := by
  have hshort := takeWhile_length_lt h (p := fun c => !endsHost kind c) (by simp [slash_endsHost])
  simp only [readUser?] at hread
  generalize s.takeWhile (fun c => !endsHost kind c) = front at hread hshort
  split at hread
  · obtain ⟨-, -, rfl⟩ := by simpa using hread
    omega
  · next hat =>
      have hpos : 0 < front.length := by
        cases front with
        | nil => simp at hat
        | cons c front => simp
      split at hread
      · simp only [Option.ite_none_left_eq_some, Option.some.injEq, Prod.mk.injEq] at hread
        obtain ⟨-, -, -, rfl⟩ := hread
        omega
      · next huser =>
          simp only [Option.some.injEq, Prod.mk.injEq] at hread
          obtain ⟨-, -, rfl⟩ := hread
          rw [List.isEmpty_iff, ← List.length_eq_zero_iff] at huser
          rw [List.length_take] at huser ⊢
          omega

theorem splitHost_append {inBrackets : Bool} (h : (splitHost kind inBrackets s).2 ≠ []) :
    splitHost kind inBrackets (s ++ y) =
      ((splitHost kind inBrackets s).1, (splitHost kind inBrackets s).2 ++ y) := by
  induction s generalizing inBrackets with
  | nil => exact absurd rfl h
  | cons c s ih =>
      simp only [List.cons_append, splitHost] at h ⊢
      split
      · rfl
      · next hends =>
          rw [if_neg hends] at h
          rw [ih h]

/-- The host ends before the slash. -/
theorem closed_splitHost (kind : Kind) (h : Closed s) (inBrackets : Bool) :
    Closed (splitHost kind inBrackets s).2 := by
  obtain ⟨front, rfl⟩ := h
  induction front generalizing inBrackets with
  | nil =>
      rw [List.nil_append, splitHost, if_pos (by simp [slash_endsHost])]
      exact ⟨[], rfl⟩
  | cons c front ih =>
      rw [List.cons_append, splitHost]
      split
      · exact ⟨c :: front, rfl⟩
      · exact ih _

theorem readPort?_append {usual port : Option Nat} (h : Closed s)
    (hread : readPort? usual s = some (port, r)) :
    readPort? usual (s ++ y) = some (port, r ++ y) ∧ Closed r := by
  unfold readPort? at hread
  split at hread
  · next s' =>
      have hs' : Closed s' := by
        refine h.of_suffix (List.suffix_cons ':' s') ?_
        intro hnil
        obtain ⟨front, hfront⟩ := h
        rw [hnil] at hfront
        cases front <;> simp at hfront
      have hrest := hs'.dropWhile (p := isDigit) (by decide)
      have hdrop := dropWhile_append_of_ne_nil (y := y) hrest.ne_nil
      have htake := takeWhile_append_of_ne_nil (y := y) hrest.ne_nil
      have hhead := head?_append_of_ne_nil (y := y) hrest.ne_nil
      dsimp only [spanDigits] at hread
      split at hread
      · cases hread
      · next hvalid =>
          obtain ⟨hport, rfl⟩ := Prod.mk.inj (Option.some.inj hread)
          refine ⟨?_, hrest⟩
          simp only [List.cons_append, readPort?, spanDigits, hdrop, htake, hhead]
          rw [if_neg hvalid, hport]
  · next hcolon =>
      obtain ⟨rfl, rfl⟩ := Prod.mk.inj (Option.some.inj hread)
      refine ⟨?_, h⟩
      unfold readPort?
      split
      · next s' hs' =>
          obtain ⟨c, t, rfl⟩ := List.exists_cons_of_ne_nil h.ne_nil
          obtain ⟨rfl, -⟩ := List.cons.inj hs'
          exact absurd rfl (hcolon t)
      · rfl

theorem readHost?_append {usual : Option Nat} {hasUser : Bool} {host : List Char}
    {port : Option Nat} (h : Closed s)
    (hread : readHost? .web usual hasUser s = some (host, port, r)) :
    readHost? .web usual hasUser (s ++ y) = some (host, port, r ++ y) ∧ Closed r := by
  have hclosed := closed_splitHost .web h false
  simp only [readHost?, splitHost_append (y := y) hclosed.ne_nil, if_true, decide_true,
    Bool.true_or] at hread ⊢
  split at hread
  · cases hread
  · next htext =>
      simp only [Option.bind_eq_bind, Option.bind_eq_some_iff, Prod.exists, Option.pure_def,
        Option.some.injEq, Prod.mk.injEq] at hread
      obtain ⟨host', hhost, port', r', hport, rfl, rfl, rfl⟩ := hread
      obtain ⟨hport', hr⟩ := readPort?_append (y := y) hclosed hport
      rw [if_neg htext, hhost, hport']
      exact ⟨rfl, hr⟩

/-! ### Path, query and fragment -/

theorem splitAtFirst_of_not_mem {c : Char} (h : c ∉ s) (y : List Char) :
    splitAtFirst c (s ++ y) = (s ++ (splitAtFirst c y).1, (splitAtFirst c y).2) := by
  have hpass : ∀ d ∈ s, decide (d ≠ c) = true := by
    intro d hd
    simp only [ne_eq, decide_not, Bool.not_eq_true', decide_eq_false_iff_not]
    exact fun hdc => h (hdc ▸ hd)
  simp only [splitAtFirst, List.dropWhile_append_of_pos hpass, List.takeWhile_append_of_pos hpass]
  split <;> rfl

theorem not_mem_of_splitAtFirst {c : Char} (h : (splitAtFirst c s).2 = none) : c ∉ s := by
  unfold splitAtFirst at h
  split at h
  · next hnil =>
      intro hmem
      simpa using List.dropWhile_eq_nil_iff.mp hnil c hmem
  · cases h

theorem splitAtFirst_eq_self {c : Char} (h : c ∉ s) : splitAtFirst c s = (s, none) := by
  simpa [splitAtFirst] using splitAtFirst_of_not_mem h []

/-- What stands before a character is a first part of the text, in which it does not occur. -/
theorem splitAtFirst_front (c : Char) (s : List Char) :
    (splitAtFirst c s).1 <+: s ∧ c ∉ (splitAtFirst c s).1 := by
  by_cases hmem : c ∈ s
  · unfold splitAtFirst
    split
    · next hnil => exact absurd (List.dropWhile_eq_nil_iff.mp hnil c hmem) (by simp)
    · have hfront := List.takeWhile_prefix (fun d => decide (d ≠ c)) (l := s)
      refine ⟨hfront, fun hc => ?_⟩
      simpa using List.all_eq_true.mp List.all_takeWhile c hc
  · rw [splitAtFirst_eq_self hmem]
    exact ⟨List.prefix_rfl, hmem⟩

theorem Tail.of_append (hquery : (Tail.of kind s).query = none)
    (hfragment : (Tail.of kind s).fragment = none) (y : List Char) :
    Tail.of kind (s ++ y) =
      ⟨s ++ (Tail.of kind y).path, (Tail.of kind y).query, (Tail.of kind y).fragment⟩ := by
  have hhash : '#' ∉ s := not_mem_of_splitAtFirst (by simpa [Tail.of] using hfragment)
  have hmark : '?' ∉ s :=
    not_mem_of_splitAtFirst (by simpa [Tail.of, splitAtFirst_eq_self hhash] using hquery)
  simp only [Tail.of, splitAtFirst_of_not_mem hhash, splitAtFirst_of_not_mem hmark]

theorem Tail.path_front (kind : Kind) (s : List Char) : (Tail.of kind s).path <+: s :=
  (splitAtFirst_front '?' _).1.trans (splitAtFirst_front '#' s).1

theorem Tail.of_plain (hhash : '#' ∉ s) (hmark : '?' ∉ s) : Tail.of kind s = ⟨s, none, none⟩ := by
  simp [Tail.of, splitAtFirst_eq_self hhash, splitAtFirst_eq_self hmark]

/-- A text that is all path has neither a query nor a fragment. -/
theorem Tail.not_mem_of_path_eq (h : (Tail.of kind s).path = s) : '#' ∉ s ∧ '?' ∉ s := by
  obtain ⟨hfirst, hhash⟩ := splitAtFirst_front '#' s
  obtain ⟨hsecond, hmark⟩ := splitAtFirst_front '?' (splitAtFirst '#' s).1
  have hpath : (splitAtFirst '?' (splitAtFirst '#' s).1).1 = s := h
  rw [hpath] at hsecond hmark
  have hall : (splitAtFirst '#' s).1 = s := hfirst.sublist.eq_of_length_le hsecond.length_le
  rw [hall] at hhash
  exact ⟨hhash, hmark⟩

theorem withoutSlash_append (h : s ≠ []) :
    withoutSlash kind (s ++ y) = withoutSlash kind s ++ y := by
  obtain ⟨c, t, rfl⟩ := List.exists_cons_of_ne_nil h
  simp only [List.cons_append, withoutSlash]
  split <;> rfl

theorem Closed.withoutSlash (h : Closed s) :
    Url.withoutSlash kind s = [] ∨ Closed (Url.withoutSlash kind s) := by
  refine or_iff_not_imp_left.mpr (h.of_suffix ?_)
  obtain ⟨c, t, rfl⟩ := List.exists_cons_of_ne_nil h.ne_nil
  rw [Url.withoutSlash]
  split
  · exact List.suffix_cons c t
  · exact List.suffix_rfl

theorem pathOfHost_web (s : List Char) :
    pathOfHost .web s = .segments (segments .web (withoutSlash .web s)) := by
  simp [pathOfHost]

/-- An address with other text behind its host. -/
def withTail (b : Url) (path : List Char) (tail : Tail) : Url :=
  { b with
    path := .segments (segments .web (path ++ tail.path))
    query := tail.query
    fragment := tail.fragment }

theorem readAfterSlashes?_append {scheme : List Char} {b : Url} (h : Closed s)
    (hread : readAfterSlashes? .web scheme s = some b) (hquery : b.query = none)
    (hfragment : b.fragment = none) :
    ∃ path, (path = [] ∨ Closed path) ∧ b.path = .segments (segments .web path) ∧
      ∀ y, readAfterSlashes? .web scheme (s ++ y) = some (b.withTail path (Tail.of .web y)) := by
  simp only [readAfterSlashes?, Option.bind_eq_bind, Option.bind_eq_some_iff, Prod.exists,
    Option.pure_def, Option.some.injEq] at hread
  obtain ⟨user, password, n, huser, host, port, r, hhost, rfl⟩ := hread
  have hlt := readUser?_lt h huser
  have hdrop : Closed (s.drop n) :=
    h.of_suffix (List.drop_suffix n s) (by simpa using hlt)
  have hr := (readHost?_append (y := []) hdrop hhost).2
  have htail := Tail.of_append hquery hfragment
  have hpath : (Tail.of .web r).path = r := by
    simpa [Tail.of, splitAtFirst] using congrArg Tail.path (htail [])
  refine ⟨withoutSlash .web r, hr.withoutSlash, ?_, fun y => ?_⟩
  · rw [hpath, pathOfHost_web]
  · simp only [readAfterSlashes?, readUser?_append h, huser, Option.bind_eq_bind, Option.bind_some,
      List.drop_append_of_le_length hlt.le, (readHost?_append (y := y) hdrop hhost).1, htail,
      pathOfHost_web, withTail, withoutSlash_append hr.ne_nil]
    rfl

theorem scheme_of_readAfterSlashes? {scheme : List Char} {b : Url}
    (h : readAfterSlashes? kind scheme s = some b) : b.scheme = scheme := by
  simp only [readAfterSlashes?, Option.bind_eq_bind, Option.bind_eq_some_iff, Option.pure_def,
    Option.some.injEq] at h
  obtain ⟨_, -, _, -, rfl⟩ := h
  rfl

theorem scheme_of_readFile? {scheme : List Char} {b : Url} (h : readFile? scheme s = some b) :
    b.scheme = scheme := by
  have hhere : readFile?.here scheme s = b → b.scheme = scheme := by
    intro hb
    rw [← hb]
    rfl
  unfold readFile? at h
  split at h
  · split at h
    · unfold readFileOnHost? at h
      dsimp only at h
      split at h
      · obtain rfl := Option.some.inj h
        rfl
      · obtain ⟨_, -, hb⟩ := Option.bind_eq_some_iff.mp h
        obtain rfl := Option.some.inj hb
        rfl
    · exact hhere (Option.some.inj h)
  · exact hhere (Option.some.inj h)

/-- **What is written behind a closed address of the web comes after what was read before.** -/
theorem read?_append {b : Url} (h : Closed s) (hread : read? s = some b)
    (hweb : Kind.ofScheme b.scheme = .web) (hquery : b.query = none)
    (hfragment : b.fragment = none) :
    ∃ path, (path = [] ∨ Closed path) ∧ b.path = .segments (segments .web path) ∧
      ∀ y, read? (s ++ y) = some (b.withTail path (Tail.of .web (tidy y))) := by
  simp only [read?, Option.bind_eq_bind, Option.bind_eq_some_iff, Prod.exists] at hread
  obtain ⟨scheme, r, hscheme, hread⟩ := hread
  have hsuffix := (splitScheme?_append hscheme []).2
  cases hkind : Kind.ofScheme scheme with
  | web =>
      simp only [hkind] at hread
      have hne : r.dropWhile (isSlash .web) ≠ [] := by
        intro hnil
        rw [hnil] at hread
        cases hread
      have hclosed : Closed (r.dropWhile (isSlash .web)) :=
        h.clean.of_suffix ((List.dropWhile_suffix _).trans hsuffix) hne
      obtain ⟨path, hpath, hb, hmore⟩ := readAfterSlashes?_append hclosed hread hquery hfragment
      refine ⟨path, hpath, hb, fun y => ?_⟩
      simp only [read?, h.clean_append, (splitScheme?_append hscheme (tidy y)).1,
        Option.bind_eq_bind, Option.bind_some, hkind, dropWhile_append_of_ne_nil hne]
      exact hmore (tidy y)
  | file =>
      simp only [hkind] at hread
      rw [scheme_of_readFile? hread, hkind] at hweb
      cases hweb
  | other =>
      simp only [hkind] at hread
      have hscheme' : b.scheme = scheme := by
        split at hread
        · contradiction
        · contradiction
        · exact scheme_of_readAfterSlashes? hread
        · rw [← Option.some.inj hread]
          rfl
      rw [hscheme', hkind] at hweb
      cases hweb

/-! ### Segments -/

/-- Segments with more to come after them, resolved after those in `done`. -/
def climb (kind : Kind) (done : List (List Char)) : List (List Char) → List (List Char)
  | [] => done
  | s :: rest =>
    if isTwoDots s then climb kind (parent done) rest
    else if isDot s then climb kind done rest
    else
      let s := percentEncode inPath s
      climb kind (done ++ [if kind = .file && done.isEmpty then driveForm s else s]) rest

variable {done xs ys : List (List Char)}

/-- What is resolved before does not depend on what comes later. -/
theorem resolve_append (hys : ys ≠ []) :
    resolve kind done (xs ++ ys) = resolve kind (climb kind done xs) ys := by
  induction xs generalizing done with
  | nil => rfl
  | cons x xs ih =>
      have hmore : (xs ++ ys).isEmpty = false := by simp [hys]
      simp only [List.cons_append, resolve, climb, hmore, Bool.false_eq_true, if_false,
        List.append_nil]
      split
      · exact ih
      · split
        · exact ih
        · exact ih

/-- The last segment is empty if dots stand in its place. -/
theorem exists_resolve_eq (done : List (List Char)) (hxs : xs ≠ []) :
    ∃ front, resolve .web done xs = front ++
      [if isTwoDots (xs.getLast hxs) || isDot (xs.getLast hxs) then []
        else percentEncode inPath (xs.getLast hxs)] := by
  induction xs generalizing done with
  | nil => exact absurd rfl hxs
  | cons x xs ih =>
      cases xs with
      | nil =>
          by_cases htwo : isTwoDots x = true
          · exact ⟨parent done, by simp [resolve, htwo]⟩
          · by_cases hone : isDot x = true
            · exact ⟨done, by simp [resolve, htwo, hone]⟩
            · exact ⟨done, by simp [resolve, htwo, hone]⟩
      | cons x' xs =>
          rw [List.getLast_cons (List.cons_ne_nil x' xs), resolve]
          split
          · exact ih _ (List.cons_ne_nil x' xs)
          · split
            · exact ih _ (List.cons_ne_nil x' xs)
            · exact ih _ (List.cons_ne_nil x' xs)

variable {separator : Char → Bool}

/-- Up to a separator at its end, the parts of a text are settled. -/
theorem exists_splitAt_append (hslash : separator '/' = true) (h : Closed s) :
    ∃ xs, xs ≠ [] ∧
      ∀ y, Address.splitAt separator (s ++ y) = xs ++ Address.splitAt separator y := by
  obtain ⟨front, rfl⟩ := h
  induction front with
  | nil => exact ⟨[[]], by simp, fun y => by simp [Address.splitAt, hslash]⟩
  | cons c front ih =>
      obtain ⟨xs, hne, hxs⟩ := ih
      obtain ⟨x, xs, rfl⟩ := List.exists_cons_of_ne_nil hne
      by_cases hc : separator c = true
      · refine ⟨[] :: x :: xs, by simp, fun y => ?_⟩
        rw [List.cons_append, List.cons_append, Address.splitAt, if_pos hc, hxs y]
        rfl
      · refine ⟨(c :: x) :: xs, by simp, fun y => ?_⟩
        rw [List.cons_append, List.cons_append, Address.splitAt, if_neg hc, hxs y]
        rfl

/-- A text is its only part, or its last part is a shorter end of it. -/
theorem splitAt_cases (separator : Char → Bool) (s : List Char) :
    Address.splitAt separator s = [s] ∧ (∀ c ∈ s, separator c = false) ∨
      ∃ front z, front ≠ [] ∧ Address.splitAt separator s = front ++ [z] ∧ z <:+ s ∧ z ≠ s := by
  induction s with
  | nil => exact .inl ⟨rfl, nofun⟩
  | cons c s ih =>
      have hshort : ∀ {z}, z <:+ s → z ≠ c :: s := by
        intro z hz heq
        have := hz.length_le
        rw [heq, List.length_cons] at this
        omega
      by_cases hc : separator c = true
      · refine .inr ?_
        rcases ih with ⟨hparts, -⟩ | ⟨front, z, -, hparts, hz, -⟩
        · exact ⟨[[]], s, by simp, by simp [Address.splitAt, hc, hparts], List.suffix_cons c s,
            hshort List.suffix_rfl⟩
        · exact ⟨[] :: front, z, by simp, by simp [Address.splitAt, hc, hparts],
            hz.trans (List.suffix_cons c s), hshort hz⟩
      · rcases ih with ⟨hparts, hall⟩ | ⟨front, z, hne, hparts, hz, -⟩
        · exact .inl ⟨by simp [Address.splitAt, hc, hparts], by simp_all⟩
        · obtain ⟨x, front, rfl⟩ := List.exists_cons_of_ne_nil hne
          exact .inr ⟨(c :: x) :: front, z, by simp, by simp [Address.splitAt, hc, hparts],
            hz.trans (List.suffix_cons c s), hshort hz⟩

theorem splitAt_of_none (h : ∀ c ∈ s, separator c = false) :
    Address.splitAt separator s = [s] := by
  induction s with
  | nil => rfl
  | cons c s ih =>
      have hc : separator c = false := h c (by simp)
      simp [Address.splitAt, hc, ih fun d hd => h d (by simp [hd])]

/-- The last part is an end of the text, and all of it only if there is no separator. -/
theorem getLast_splitAt {z : List Char} (h : (Address.splitAt separator s).getLast? = some z) :
    z <:+ s ∧ (z = s → Address.splitAt separator s = [s] ∧ ∀ c ∈ s, separator c = false) := by
  rcases splitAt_cases separator s with hone | ⟨front, z', -, hparts, hz, hne⟩
  · rw [hone.1, List.getLast?_singleton, Option.some.injEq] at h
    exact ⟨h ▸ List.suffix_rfl, fun _ => hone⟩
  · rw [hparts, List.getLast?_concat, Option.some.injEq] at h
    exact ⟨h ▸ hz, fun heq => absurd (h.trans heq) hne⟩

theorem splitAt_ne_nil (separator : Char → Bool) (s : List Char) :
    Address.splitAt separator s ≠ [] := by
  rcases splitAt_cases separator s with ⟨hparts, -⟩ | ⟨front, z, -, hparts, -⟩
  · simp [hparts]
  · simp [hparts]

/-- The segments of a closed path are the same whatever comes after them. -/
theorem exists_segments_append (h : s = [] ∨ Closed s) :
    ∃ dirs, segments .web s = dirs ++ [[]] ∧
      ∀ y, segments .web (s ++ y) = resolve .web dirs (Address.splitAt (isSlash .web) y) := by
  rcases h with rfl | h
  · exact ⟨[], rfl, fun _ => rfl⟩
  · obtain ⟨xs, -, hxs⟩ := exists_splitAt_append (show isSlash .web '/' = true by decide) h
    refine ⟨climb .web [] xs, ?_, fun y => ?_⟩
    · have hs := hxs []
      rw [List.append_nil] at hs
      rw [segments, hs, resolve_append (splitAt_ne_nil _ _)]
      rfl
    · rw [segments, hxs y, resolve_append (splitAt_ne_nil _ _)]

end RailWatch.Url
