import Mathlib.Data.List.DropRight
import VisitorLink.Proofs.Service.Segments

/-!
# Reading a URL behind its base

Texts that go on behind the same base and a slash are read alike up to the slash. The path goes on
from the folder that the base leads to (`exists_read?`), unless a query or a fragment begins in the
base (`path_read?`). What is behind the slash is read as it is if no character of it is passed over
or ends the path (`kept_eq_self_iff`).
-/

namespace VisitorLink.Url

/-! ## Reading behind a slash -/

section Stops

variable {α : Type} {p : α → Bool} {c : α} {host? : List Char → Option String}

/-- Where the scan stops at a character, it takes nothing behind it. -/
theorem takeWhile_append_cons (stops : p c = false) (s t : List α) :
    (s ++ c :: t).takeWhile p = s.takeWhile p := by
  rw [List.takeWhile_append, List.takeWhile_cons_of_neg (by simp [stops]), List.append_nil]
  split
  case isTrue all => exact ((List.takeWhile_prefix p).eq_of_length all).symm
  case isFalse => rfl

/-- Where the scan stops at a character, all of what is behind is left. -/
theorem dropWhile_append_cons (stops : p c = false) (s t : List α) :
    (s ++ c :: t).dropWhile p = s.dropWhile p ++ c :: t := by
  rw [List.dropWhile_append, List.dropWhile_cons_of_neg (by simp [stops])]
  split
  case isTrue all => rw [List.isEmpty_iff.1 all, List.nil_append]
  case isFalse => rfl

/-- A character that the scan stops at is left. -/
theorem mem_dropWhile_iff (stops : p c = false) (s : List α) : c ∈ s.dropWhile p ↔ c ∈ s := by
  refine ⟨fun mem => (List.dropWhile_sublist p).subset mem, fun mem => ?_⟩
  obtain ⟨before, after, rfl⟩ := List.append_of_mem mem
  rw [dropWhile_append_cons stops]
  exact List.mem_append_right _ List.mem_cons_self

end Stops

/-- Whether a character is passed over at both ends of a URL. -/
def isOuter (c : Char) : Bool :=
  c.toNat ≤ 0x20

/-- Whether a character is not passed over within a URL. -/
def isInner (c : Char) : Bool :=
  c != '\t' && c != '\n' && c != '\r'

/-- What is left of the end of a URL. -/
def cleanedEnd (s : List Char) : List Char :=
  (s.rdropWhile isOuter).filter isInner

/-- What is behind a slash is cleaned at its end only. -/
theorem cleaned_append_slash (s t : List Char) :
    cleaned (s ++ '/' :: t) = (s.dropWhile isOuter).filter isInner ++ '/' :: cleanedEnd t := by
  have stops : isOuter '/' = false := by decide
  change List.filter isInner
    ((List.dropWhile isOuter (List.dropWhile isOuter (s ++ '/' :: t)).reverse).reverse) = _
  rw [dropWhile_append_cons stops, List.reverse_append, List.reverse_cons, List.append_assoc,
    List.singleton_append, dropWhile_append_cons stops, List.reverse_append, List.reverse_cons,
    List.reverse_reverse, List.append_assoc, List.singleton_append, List.filter_append,
    List.filter_cons_of_pos (by decide)]
  rfl

/-- Whether a character ends the part of a URL in front of the path. -/
def isEnd (c : Char) : Bool :=
  isSlash c || c == '?'

/-- The query of a URL, by what is behind the path. -/
def queryOf : List Char → Option String
  | [] => none
  | _ :: query => some (String.ofList (escaped isEscapedInQuery query))

/-- Reads what is behind the scheme of a URL. -/
def located? (host? : List Char → Option String) (isSecure : Bool) (rest : List Char) :
    Option Url :=
  let path := rest.dropWhile fun c => !isEnd c
  (server? host? isSecure (rest.takeWhile fun c => !isEnd c)).map fun server => {
    isSecure := isSecure
    host := server.1
    port := server.2
    path := normalPath (path.takeWhile (· != '?'))
    query := queryOf (path.dropWhile (· != '?')) }

/-- A URL is read in two steps, the scheme and what is behind it. -/
theorem read?_eq (host? : List Char → Option String) (text : String) :
    read? host? text = (scheme? (cleaned text.toList)).bind fun opened =>
      located? host? opened.1 ((opened.2.dropWhile isSlash).takeWhile (· != '#')) := by
  unfold read?
  rcases scheme? (cleaned text.toList) with _ | ⟨isSecure, rest⟩
  · rfl
  · generalize read : (rest.dropWhile isSlash).takeWhile (· != '#') = rest'
    simp only [Option.bind_eq_bind, Option.bind_some, read]
    change (server? host? isSecure (rest'.takeWhile fun c => !isEnd c)).bind _ =
      Option.map _ (server? host? isSecure (rest'.takeWhile fun c => !isEnd c))
    cases server? host? isSecure (rest'.takeWhile fun c => !isEnd c) <;> rfl

/-- The path of a URL, by its segments. -/
def rendered (ss : List (List Char)) : List String :=
  (ss.map (escaped isEscapedInPath)).map String.ofList

/-- A path has as many segments as it is made of. -/
theorem length_rendered (ss : List (List Char)) : (rendered ss).length = ss.length := by
  rw [rendered, List.length_map, List.length_map]

/-- The path of segments is made one by one. -/
theorem rendered_append (ss ts : List (List Char)) :
    rendered (ss ++ ts) = rendered ss ++ rendered ts := by
  rw [rendered, List.map_append, List.map_append]
  rfl

/-- The first segments of a path are those of the first ones. -/
theorem rendered_drop (n : Nat) (ss : List (List Char)) :
    rendered (ss.drop n) = (rendered ss).drop n := by
  rw [rendered, List.map_drop, List.map_drop]
  rfl

/-- A path goes on behind a slash from the place that the front of it leads to. -/
theorem exists_normalPath {front : List Char} (slash : ∀ c ∈ front.head?, isSlash c = true) :
    ∃ reached, ∀ t, normalPath (front ++ '/' :: t) = rendered (resolve reached (segments t)) := by
  cases front with
  | nil => exact ⟨[], fun _ => rfl⟩
  | cons c front =>
      obtain ⟨reached, leads⟩ := resolve_append [] (segments front)
      refine ⟨reached, fun t => ?_⟩
      rw [← leads (segments t) (List.splitOnP_ne_nil isSlash t)]
      have split : segments (front ++ '/' :: t) = segments front ++ segments t :=
        List.splitOnP_append_cons front t (by rfl)
      rw [← split, List.cons_append, normalPath]
      simp only [if_pos (slash c rfl)]
      rfl

/-- Behind the server of a URL without a query there is a slash, if anything. -/
theorem head_dropWhile_isEnd {s : List Char} (plain : '?' ∉ s) :
    ∀ c ∈ (s.dropWhile fun c => !isEnd c).head?, isSlash c = true := by
  intro c first
  have mem : c ∈ s :=
    (List.dropWhile_sublist _).subset (List.mem_of_mem_head? first)
  have ends := List.head?_dropWhile_not (fun c => !isEnd c) s
  rw [Option.mem_def.1 first] at ends
  have ends : isEnd c = true := by simpa using ends
  rw [isEnd, Bool.or_eq_true, beq_iff_eq] at ends
  exact ends.resolve_right fun same => plain (same ▸ mem)

/-- A URL with a slash behind its front is read with the path from there. -/
theorem located?_append_slash_eq (host? : List Char → Option String) (isSecure : Bool)
    (front t : List Char) :
    located? host? isSecure (front ++ '/' :: t) =
      let path := front.dropWhile (fun c => !isEnd c) ++ '/' :: t
      (server? host? isSecure (front.takeWhile fun c => !isEnd c)).map fun server => {
        isSecure := isSecure
        host := server.1
        port := server.2
        path := normalPath (path.takeWhile (· != '?'))
        query := queryOf (path.dropWhile (· != '?')) } := by
  rw [located?, takeWhile_append_cons (p := fun c => !isEnd c) (by decide),
    dropWhile_append_cons (p := fun c => !isEnd c) (by decide)]

/-- Behind the scheme, a URL is read on from a slash unless a query has begun before it. -/
theorem exists_located? {isSecure : Bool} {front : List Char} {home : Url}
    (reads : located? host? isSecure (front ++ ['/']) = some home) (plain : '?' ∉ front) :
    ∃ reached, ∀ t, located? host? isSecure (front ++ '/' :: t) = some { home with
      path := rendered (resolve reached (segments (t.takeWhile (· != '?'))))
      query := queryOf (t.dropWhile (· != '?')) } := by
  obtain ⟨reached, leads⟩ := exists_normalPath (head_dropWhile_isEnd plain)
  have inside : ∀ c ∈ front.dropWhile fun c => !isEnd c, (c != '?') = true := by
    intro c mem
    refine bne_iff_ne.2 fun same => plain ?_
    exact same ▸ (List.dropWhile_sublist _).subset mem
  rw [located?_append_slash_eq] at reads
  obtain ⟨server, found, rfl⟩ := Option.map_eq_some_iff.1 reads
  refine ⟨reached, fun t => ?_⟩
  rw [located?_append_slash_eq, found, Option.map_some]
  simp only [List.takeWhile_append_of_pos inside, List.dropWhile_append_of_pos inside]
  rw [List.takeWhile_cons_of_pos (by rfl), List.dropWhile_cons_of_pos (by rfl), leads]

/-- If the front asks a query, what is behind goes into it and not into the path. -/
theorem path_located? {isSecure : Bool} {front t : List Char} {home url : Url}
    (reads : located? host? isSecure (front ++ ['/']) = some home) (asks : '?' ∈ front)
    (reads' : located? host? isSecure (front ++ '/' :: t) = some url) : url.path = home.path := by
  have cut (t : List Char) (before : List Char) :
      (before ++ '?' :: t).takeWhile (· != '?') = before.takeWhile (· != '?') :=
    takeWhile_append_cons (by decide) before t
  have mem : '?' ∈ front.dropWhile fun c => !isEnd c := (mem_dropWhile_iff (by decide) _).2 asks
  obtain ⟨before, after, split⟩ := List.append_of_mem mem
  rw [located?_append_slash_eq] at reads reads'
  obtain ⟨server, found, rfl⟩ := Option.map_eq_some_iff.1 reads
  rw [found, Option.map_some] at reads'
  cases reads'
  simp only [split, List.append_assoc, List.cons_append]
  rw [cut, cut]

/-- Texts in front of a slash either have no scheme, whatever follows, or end it before. -/
theorem scheme?_cases (s : List Char) :
    (∀ t, scheme? (s ++ '/' :: t) = none) ∨
      ∃ isSecure before server, s = before ++ ':' :: server ∧ '?' ∉ before ∧ '#' ∉ before ∧
        ∀ t, scheme? (s ++ '/' :: t) = some (isSecure, server ++ '/' :: t) := by
  by_cases mem : ':' ∈ s
  · obtain ⟨before, server, rfl, fresh⟩ := List.eq_append_cons_of_mem mem
    have whole : ∀ c ∈ before, (c != ':') = true := fun c mem =>
      bne_iff_ne.2 fun same => fresh (same ▸ mem)
    have named {name : String} (isName : before.map Char.toLower = name.toList) {c : Char}
        (other : c.toLower ∉ name.toList) : c ∉ before :=
      fun mem => other (isName ▸ List.mem_map_of_mem mem)
    have opens (t : List Char) : scheme? (before ++ ':' :: server ++ '/' :: t) =
        if before.map Char.toLower = "http".toList then some (false, server ++ '/' :: t)
        else if before.map Char.toLower = "https".toList then some (true, server ++ '/' :: t)
        else none := by
      rw [List.append_assoc, List.cons_append, scheme?]
      simp only [List.takeWhile_append_of_pos whole, List.dropWhile_append_of_pos whole]
      rw [List.takeWhile_cons_of_neg (by decide), List.dropWhile_cons_of_neg (by decide),
        List.append_nil]
      rfl
    by_cases http : before.map Char.toLower = "http".toList
    · refine .inr ⟨false, before, server, rfl, named http (by decide), named http (by decide), ?_⟩
      exact fun t => (opens t).trans (if_pos http)
    by_cases https : before.map Char.toLower = "https".toList
    · refine .inr ⟨true, before, server, rfl, named https (by decide), named https (by decide), ?_⟩
      exact fun t => (opens t).trans ((if_neg http).trans (if_pos https))
    · exact .inl fun t => (opens t).trans ((if_neg http).trans (if_neg https))
  · have whole : ∀ c ∈ s, (c != ':') = true := fun c mem' =>
      bne_iff_ne.2 fun same => mem (same ▸ mem')
    refine .inl fun t => ?_
    have other (name : String) (slash : '/' ∉ name.toList) :
        ((s ++ '/' :: t).takeWhile (· != ':')).map Char.toLower ≠ name.toList := by
      intro same
      refine slash (same ▸ List.mem_map_of_mem (a := '/') (f := Char.toLower) ?_)
      rw [List.takeWhile_append_of_pos whole, List.takeWhile_cons_of_pos (by decide)]
      exact List.mem_append_right _ List.mem_cons_self
    rw [scheme?]
    simp only [if_neg (other "http" (by decide)), if_neg (other "https" (by decide))]

/-- What is left of the end of a URL up to the fragment. -/
def unfragmented (t : List Char) : List Char :=
  (cleanedEnd t).takeWhile (· != '#')

/-- The path at the end of a URL. -/
def kept (t : List Char) : List Char :=
  (unfragmented t).takeWhile (· != '?')

/-- Texts that go on behind the same base and a slash differ in what is behind the slash only. -/
theorem exists_front {base : List Char} {home : Url}
    (reads : read? host? (String.ofList (base ++ ['/'])) = some home) :
    ∃ isSecure front, ('?' ∈ front ↔ '?' ∈ base) ∧ ('#' ∈ front ↔ '#' ∈ base) ∧
      ∀ t, read? host? (String.ofList (base ++ '/' :: t)) =
        located? host? isSecure ((front ++ '/' :: cleanedEnd t).takeWhile (· != '#')) := by
  have opens (t : List Char) : read? host? (String.ofList (base ++ '/' :: t)) =
      (scheme? ((base.dropWhile isOuter).filter isInner ++ '/' :: cleanedEnd t)).bind fun opened =>
        located? host? opened.1 ((opened.2.dropWhile isSlash).takeWhile (· != '#')) := by
    rw [read?_eq, String.toList_ofList, cleaned_append_slash]
  rcases scheme?_cases ((base.dropWhile isOuter).filter isInner) with
    none | ⟨isSecure, before, server, split, noQuery, noFragment, named⟩
  · rw [opens, none] at reads
    cases reads
  have located (t : List Char) : read? host? (String.ofList (base ++ '/' :: t)) =
      located? host? isSecure
        (((server ++ '/' :: cleanedEnd t).dropWhile isSlash).takeWhile (· != '#')) := by
    rw [opens, named]
    rfl
  have some : server.dropWhile isSlash ≠ [] := by
    intro none
    rw [located, List.dropWhile_append, if_pos (List.isEmpty_iff.2 none)] at reads
    cases reads
  have same {c : Char} (outer : isOuter c = false) (inner : isInner c = true)
      (slash : isSlash c = false) (colon : c ≠ ':') (fresh : c ∉ before) :
      c ∈ server.dropWhile isSlash ↔ c ∈ base := by
    rw [mem_dropWhile_iff slash, ← mem_dropWhile_iff outer base]
    have kept : c ∈ (base.dropWhile isOuter).filter isInner ↔ c ∈ base.dropWhile isOuter :=
      List.mem_filter.trans (and_iff_left inner)
    rw [← kept, split, List.mem_append, List.mem_cons]
    exact ⟨fun mem => .inr (.inr mem), fun mem =>
      (mem.resolve_left fresh).resolve_left colon⟩
  refine ⟨isSecure, server.dropWhile isSlash,
    same (by decide) (by decide) (by decide) (by decide) noQuery,
    same (by decide) (by decide) (by decide) (by decide) noFragment, fun t => ?_⟩
  rw [located, List.dropWhile_append, if_neg (by simpa using some)]

/-- A URL leads on from the folder of its base, if no query or fragment begins in the base. -/
theorem exists_read? {base : List Char} {home : Url}
    (reads : read? host? (String.ofList (base ++ ['/'])) = some home) (noQuery : '?' ∉ base)
    (noFragment : '#' ∉ base) :
    ∃ reached, home.path.dropLast = rendered reached ∧
      ∀ t, read? host? (String.ofList (base ++ '/' :: t)) = some { home with
        path := rendered (resolve reached (segments (kept t)))
        query := queryOf ((unfragmented t).dropWhile (· != '?')) } := by
  obtain ⟨isSecure, front, query, fragment, opens⟩ := exists_front reads
  have whole : ∀ c ∈ front, (c != '#') = true := fun c mem =>
    bne_iff_ne.2 fun same => noFragment (fragment.1 (same ▸ mem))
  have located (t : List Char) : read? host? (String.ofList (base ++ '/' :: t)) =
      located? host? isSecure (front ++ '/' :: unfragmented t) := by
    rw [opens, List.takeWhile_append_of_pos whole, List.takeWhile_cons_of_pos (by decide)]
    rfl
  obtain ⟨reached, leads⟩ :=
    exists_located? ((located []).symm.trans reads) (mt query.1 noQuery)
  have leads (t : List Char) := (located t).trans (leads (unfragmented t))
  have ends : resolve reached (segments (kept [])) = reached ++ [[]] :=
    resolve_of_no_dots (List.forall_mem_singleton.2 (by decide)) reached
  have path : home.path = rendered (resolve reached (segments (kept []))) :=
    congrArg Url.path (Option.some.inj (reads.symm.trans (leads [])))
  refine ⟨reached, ?_, leads⟩
  rw [path, ends, rendered_append]
  exact List.dropLast_concat

/-- Behind a query or a fragment nothing belongs to the path. -/
theorem path_read? {base t : List Char} {home url : Url}
    (reads : read? host? (String.ofList (base ++ ['/'])) = some home)
    (cut : '?' ∈ base ∨ '#' ∈ base)
    (reads' : read? host? (String.ofList (base ++ '/' :: t)) = some url) :
    url.path = home.path := by
  obtain ⟨isSecure, front, query, fragment, opens⟩ := exists_front reads
  rw [opens] at reads reads'
  by_cases sharp : '#' ∈ front
  · obtain ⟨before, after, rfl⟩ := List.append_of_mem sharp
    have cut (t : List Char) : (before ++ '#' :: after ++ '/' :: t).takeWhile (· != '#') =
        before.takeWhile (· != '#') := by
      rw [List.append_assoc]
      exact takeWhile_append_cons (by decide) _ _
    rw [cut] at reads reads'
    rw [Option.some.inj (reads.symm.trans reads')]
  · have whole : ∀ c ∈ front, (c != '#') = true := fun c mem =>
      bne_iff_ne.2 fun same => sharp (same ▸ mem)
    rw [List.takeWhile_append_of_pos whole, List.takeWhile_cons_of_pos (by decide)] at reads reads'
    exact path_located? reads (query.2 (cut.resolve_right (mt fragment.2 sharp))) reads'

/-! ## Ends that are kept -/

/-- Nothing is added when the fragment is left out. -/
theorem unfragmented_sublist (t : List Char) : (unfragmented t).Sublist t :=
  (List.takeWhile_sublist _).trans
    (List.filter_sublist.trans (List.rdropWhile_prefix isOuter t).sublist)

/-- Nothing is added when the query is left out. -/
theorem kept_sublist (t : List Char) : (kept t).Sublist t :=
  (List.takeWhile_sublist _).trans (unfragmented_sublist t)

/-- Nothing at the end of a URL is missing from its path if no character is passed over or ends the
path. -/
theorem kept_eq_self_iff (t : List Char) :
    kept t = t ↔ (∀ c ∈ t, isInner c = true ∧ c ≠ '#' ∧ c ≠ '?') ∧
      ∀ c ∈ t.getLast?, isOuter c = false := by
  constructor
  · refine fun same => ⟨fun c mem => ?_, fun c last => ?_⟩
    · rw [← same] at mem
      have notQuery := List.mem_takeWhile_imp mem
      have mem := (List.takeWhile_sublist _).subset mem
      have notFragment := List.mem_takeWhile_imp mem
      have inner := (List.mem_filter.1 ((List.takeWhile_sublist _).subset mem)).2
      exact ⟨inner, bne_iff_ne.1 notFragment, bne_iff_ne.1 notQuery⟩
    · -- A blank at the end would be missing, so that what is kept would be too short.
      obtain ⟨before, rfl⟩ := List.getLast?_eq_some_iff.1 last
      by_contra outer
      have outer : isOuter c = true := eq_true_of_ne_false outer
      have shorter : kept (before ++ [c]) = kept before := by
        rw [kept, unfragmented, cleanedEnd, List.rdropWhile_concat_pos _ _ _ outer]
        rfl
      have bound := (kept_sublist before).length_le
      rw [← shorter, same, List.length_append] at bound
      exact Nat.not_succ_le_self _ bound
  · rintro ⟨plain, last⟩
    have ends : t.rdropWhile isOuter = t := by
      refine List.rdropWhile_eq_self_iff.2 fun some => ?_
      simpa using last _ (List.getLast?_eq_getLast_of_ne_nil some)
    have inner : t.filter isInner = t := List.filter_eq_self.2 fun c mem => (plain c mem).1
    have noFragment : t.takeWhile (· != '#') = t :=
      List.takeWhile_eq_self_iff.2 fun c mem => bne_iff_ne.2 (plain c mem).2.1
    have noQuery : t.takeWhile (· != '?') = t :=
      List.takeWhile_eq_self_iff.2 fun c mem => bne_iff_ne.2 (plain c mem).2.2
    rw [kept, unfragmented, cleanedEnd, ends, inner, noFragment, noQuery]

end VisitorLink.Url
