import VisitorLink.Proofs.Service.Bases
import VisitorLink.Service.Request

/-!
# Routes

A route is a way from a base through texts, each behind a slash. A server that reads the URL finds
the texts in it if it comes upon one segment for each of them, in their order, and nothing else.

Main statement: the URL of a route leads through its texts exactly if the base is a folder, every
text is a segment that stands for itself, and the last one does not end in a blank
(`leadsThrough_iff`). The argument weighs the texts against the segments that are read: what a
slash, a dot segment or an escape takes away is missing in the end. Every call to the service has a
route of its own (`Request.url_ofCall`).
-/

namespace VisitorLink.Url

variable {host? : List Char → Option String} {pieces : List (List Char)} {t : List Char}

/-- If what is read behind a place stands for pieces one by one, then nothing at the end was passed
over, and no segment stands for a folder. -/
theorem kept_of_stands {reached : List (List Char)} (split : '/' :: t = joined pieces)
    (stands : ((resolve reached (segments (kept t))).drop reached.length).map decoded =
      pieces.map bytes) :
    kept t = t ∧ ∀ s ∈ segments t, isDots s = false := by
  -- The pieces weigh no more than what stands for them, and on the way there nothing is added.
  have heavy := weight_le_of_decoded stands
  have resolved := weight_resolve reached.length reached (segments (kept t))
  rw [List.drop_length, weight_nil, weight_segments] at resolved
  have shorter := length_bytes_le_of_sublist (kept_sublist t)
  have total : (bytes t).length + 1 = weight pieces := by
    rw [← length_bytes_joined, ← split, length_bytes_cons, Nat.add_comm]
    rfl
  have same : kept t = t := eq_of_sublist (kept_sublist t) (by omega)
  rw [same] at resolved heavy
  have noDots : (segments t).countP isDots = 0 := by omega
  exact ⟨same, fun s mem => eq_false_of_ne_true (List.countP_eq_zero.1 noDots s mem)⟩

/-- If what is read behind a place stands for pieces one by one, then they are what is read. -/
theorem whole_of_stands {reached : List (List Char)} (split : '/' :: t = joined pieces)
    (stands : ((resolve reached (segments (kept t))).drop reached.length).map decoded =
      pieces.map bytes) :
    kept t = t ∧ ∀ piece ∈ pieces,
      (∀ c ∈ piece, isSlash c = false) ∧ isDots piece = false ∧ decoded piece = bytes piece := by
  obtain ⟨same, noDots⟩ := kept_of_stands split stands
  rw [same, resolve_of_no_dots noDots, List.drop_left, segments_of_joined split] at stands
  have count : (pieces.flatMap segments).length = pieces.length := by
    rw [← List.length_map decoded, stands, List.length_map]
  have noSlash := no_slash_of_length count
  rw [segments_of_joined split, flatMap_segments_of_no_slash noSlash] at noDots
  rw [flatMap_segments_of_no_slash noSlash] at stands
  exact ⟨same, fun piece mem =>
    ⟨noSlash piece mem, noDots piece mem, List.map_inj_left.1 stands piece mem⟩⟩

/-! ## Ways through segments -/

/-- That a text makes one segment of a path, which stands for the text itself. -/
structure IsSegment (s : List Char) : Prop where
  whole : ∀ c ∈ s, isSlash c = false ∧ isInner c = true ∧ c ≠ '#' ∧ c ≠ '?'
  notDots : isDots s = false
  literal : holdsEscape s = false

/-- That a character means nothing in a URL, in neither case, wherever it stands. -/
@[mk_iff]
structure IsPlain (c : Char) : Prop where
  whole : isSlash c = false ∧ isInner c = true ∧ c ≠ '#' ∧ c ≠ '?'
  visible : isOuter c = false
  percent : c ≠ '%'
  lowerPercent : c.toLower ≠ '%'
  lowerDot : c.toLower ≠ '.'

instance (c : Char) : Decidable (IsPlain c) :=
  decidable_of_iff' _ (isPlain_iff c)

theorem IsPlain.of_isAlphanum {c : Char} (alphanum : c.isAlphanum = true) : IsPlain c := by
  have table : ∀ n : Fin 128,
      (Char.ofNat n.val).isAlphanum = true → IsPlain (Char.ofNat n.val) := by
    decide
  have named := table ⟨c.toNat, Text.toNat_lt_of_isAlphanum alphanum⟩
  rw [Char.ofNat_toNat] at named
  exact named alphanum

theorem IsSegment.of_isPlain {s : List Char} (plain : ∀ c ∈ s, IsPlain c) : IsSegment s := by
  refine ⟨fun c mem => (plain c mem).whole, ?_,
    holdsEscape_of_no_percent fun c mem => (plain c mem).percent⟩
  cases s with
  | nil => rfl
  | cons c s =>
      have first := plain c List.mem_cons_self
      exact isDots_cons first.lowerDot first.lowerPercent s

/-- Letters and digits make a segment. -/
theorem IsSegment.of_isAlphanum {s : List Char} (alphanum : s.all Char.isAlphanum = true) :
    IsSegment s :=
  .of_isPlain fun c mem => .of_isAlphanum (List.all_eq_true.1 alphanum c mem)

/-- Segments in their normal form stand for what they stand for. -/
theorem map_decoded_rendered (ss : List (List Char)) :
    (rendered ss).map (fun s => decoded s.toList) = ss.map decoded := by
  rw [rendered, List.map_map, List.map_map]
  refine List.map_congr_left fun s _ => ?_
  simp only [Function.comp, String.toList_ofList, decoded_escaped]

/-- Behind a folder, a URL that leads through segments for all pieces was made of segments. -/
theorem isSegment_of_leads {base : List Char} {home : Url} {ss : List String}
    (readsHome : read? host? (String.ofList (base ++ ['/'])) = some home)
    (split : '/' :: t = joined pieces) (several : 1 < pieces.length)
    (reads : read? host? (String.ofList (base ++ '/' :: t)) =
      some { home with path := home.path.dropLast ++ ss, query := none })
    (stands : ss.map (fun s => decoded s.toList) = pieces.map bytes) :
    ('?' ∉ base ∧ '#' ∉ base) ∧ (∀ piece ∈ pieces, IsSegment piece) ∧
      ∀ c ∈ t.getLast?, isOuter c = false := by
  have plain : ¬ ('?' ∈ base ∨ '#' ∈ base) := by
    intro cut
    have count := congrArg List.length stands
    have path := congrArg List.length (path_read? readsHome cut reads)
    rw [List.length_map, List.length_map] at count
    rw [List.length_append, List.length_dropLast, count] at path
    omega
  obtain ⟨reached, here, leads⟩ := exists_read? readsHome (mt .inl plain) (mt .inr plain)
  have path : home.path.dropLast ++ ss = rendered (resolve reached (segments (kept t))) :=
    congrArg Url.path (Option.some.inj (reads.symm.trans (leads t)))
  have read : ss = rendered ((resolve reached (segments (kept t))).drop reached.length) := by
    rw [rendered_drop, ← path, here, ← length_rendered, List.drop_left]
  rw [read, map_decoded_rendered] at stands
  obtain ⟨same, whole⟩ := whole_of_stands split stands
  obtain ⟨unbroken, last⟩ := (kept_eq_self_iff t).1 same
  rw [forall_mem_joined (by decide) split] at unbroken
  refine ⟨⟨mt .inl plain, mt .inr plain⟩, fun piece mem => ?_, last⟩
  obtain ⟨noSlash, noDots, literal⟩ := whole piece mem
  exact ⟨fun c inside => ⟨noSlash c inside, unbroken piece mem c inside⟩, noDots,
    (decoded_eq_bytes_iff piece).1 literal⟩

theorem leads_of_isSegment {base : List Char} {home : Url}
    (readsHome : read? host? (String.ofList (base ++ ['/'])) = some home) (noQuery : '?' ∉ base)
    (noFragment : '#' ∉ base) (split : '/' :: t = joined pieces)
    (segment : ∀ piece ∈ pieces, IsSegment piece) (last : ∀ c ∈ t.getLast?, isOuter c = false) :
    read? host? (String.ofList (base ++ '/' :: t)) =
      some { home with path := home.path.dropLast ++ rendered pieces, query := none } := by
  obtain ⟨reached, here, leads⟩ := exists_read? readsHome noQuery noFragment
  have unbroken : ∀ c ∈ t, isInner c = true ∧ c ≠ '#' ∧ c ≠ '?' :=
    (forall_mem_joined (by decide) split).2 fun piece mem c inside =>
      ((segment piece mem).whole c inside).2
  have same : kept t = t := (kept_eq_self_iff t).2 ⟨unbroken, last⟩
  have noAsking : (unfragmented t).dropWhile (· != '?') = [] :=
    List.dropWhile_eq_nil_iff.2 fun c mem =>
      bne_iff_ne.2 (unbroken c ((unfragmented_sublist t).subset mem)).2.2
  have noSlash : ∀ piece ∈ pieces, ∀ c ∈ piece, isSlash c = false := fun piece mem c inside =>
    ((segment piece mem).whole c inside).1
  have noDots : ∀ piece ∈ pieces, isDots piece = false := fun piece mem =>
    (segment piece mem).notDots
  rw [leads, same, noAsking, segments_of_joined split, flatMap_segments_of_no_slash noSlash,
    resolve_of_no_dots noDots, rendered_append, here]
  rfl

/-- A URL that goes on from a base through texts, with a slash in front of each. -/
def behind (base : String) (texts : List String) : String :=
  texts.foldl (fun url text => url ++ "/" ++ text) base

theorem toList_behind (base : String) (texts : List String) :
    (behind base texts).toList = base.toList ++ joined (texts.map String.toList) := by
  induction texts generalizing base with
  | nil => exact (List.append_nil _).symm
  | cons text texts ih =>
      rw [behind, List.foldl_cons]
      refine (ih _).trans ?_
      rw [String.toList_append, String.toList_append, List.append_assoc, List.append_assoc]
      rfl

/-- That a base can be read as a folder. -/
structure IsFolder (host? : List Char → Option String) (base : String) : Prop where
  readable : (read? host? (base ++ "/")).isSome = true
  noQuery : '?' ∉ base.toList
  noFragment : '#' ∉ base.toList

/-- That a URL leads from the folder of a base through segments that stand for texts, one for each,
and asks for nothing else. -/
def LeadsThrough (host? : List Char → Option String) (base : String) (texts : List String)
    (url : String) : Prop :=
  ∃ home segments, read? host? (base ++ "/") = some home ∧
    read? host? url = some { home with path := home.path.dropLast ++ segments, query := none } ∧
    segments.map (fun s => decoded s.toList) = texts.map fun text => text.toUTF8.data.toList

/-- A URL behind a base leads through texts exactly if each of them is a segment, and the last one
does not end in a blank. -/
theorem leadsThrough_iff {base : String} {texts : List String} (several : 1 < texts.length) :
    LeadsThrough host? base texts (behind base texts) ↔ IsFolder host? base ∧
      (∀ text ∈ texts, IsSegment text.toList) ∧
        ∀ last ∈ texts.getLast?, ∀ c ∈ last.toList.getLast?, isOuter c = false := by
  obtain ⟨text, texts, rfl⟩ := List.exists_cons_of_length_pos (Nat.lt_of_succ_lt several)
  let pieces := (text :: texts).map String.toList
  let t := text.toList ++ joined (texts.map String.toList)
  have split : '/' :: t = joined pieces := rfl
  have url : behind base (text :: texts) = String.ofList (base.toList ++ '/' :: t) := by
    rw [← String.toList_inj, toList_behind, String.toList_ofList]
    rfl
  have folder : base ++ "/" = String.ofList (base.toList ++ ['/']) := by
    rw [← String.toList_inj, String.toList_append]
    exact String.toList_ofList.symm
  have outer : (∀ c ∈ t.getLast?, isOuter c = false) ↔
      ∀ last ∈ (text :: texts).getLast?, ∀ c ∈ last.toList.getLast?, isOuter c = false := by
    rw [forall_last_joined (by decide) split, List.getLast?_map]
    simp
  have represented : (text :: texts).map (fun text => text.toUTF8.data.toList) =
      pieces.map bytes := by
    rw [List.map_map]
    exact List.map_congr_left fun text _ => by
      rw [Function.comp, ← toUTF8_ofList, String.ofList_toList]
  rw [LeadsThrough, folder, url, represented, ← outer]
  constructor
  · rintro ⟨home, ss, readsHome, reads, stands⟩
    have count : 1 < pieces.length := (List.length_map _).symm ▸ several
    obtain ⟨⟨noQuery, noFragment⟩, segment, last⟩ :=
      isSegment_of_leads readsHome split count reads stands
    refine ⟨⟨?_, noQuery, noFragment⟩, fun text mem => segment _ (List.mem_map_of_mem mem), last⟩
    rw [folder, readsHome]
    rfl
  · rintro ⟨⟨readable, noQuery, noFragment⟩, segment, last⟩
    have segment : ∀ piece ∈ pieces, IsSegment piece := List.forall_mem_map.2 segment
    obtain ⟨home, readsHome⟩ := Option.isSome_iff_exists.1 readable
    rw [folder] at readsHome
    refine ⟨home, rendered pieces, readsHome,
      leads_of_isSegment readsHome noQuery noFragment split segment last, ?_⟩
    rw [map_decoded_rendered]
    exact List.map_congr_left fun piece mem =>
      (decoded_eq_bytes_iff piece).2 (segment piece mem).literal

end VisitorLink.Url

/-! ## Routes of calls -/

namespace VisitorLink.Request

/-- The texts from a visitor to what a call is about. -/
def steps : ServiceCall → List String
  | .fetchVisitor _ => []
  | .connectWallet _ _ => ["wallet", "connect"]
  | .linkWallet _ _ => ["wallet"]
  | .unlinkWallet _ address _ => ["wallet", address]
  | .setPrimaryWallet _ address => ["wallet", address, "primary"]
  | .logIn _ => ["login"]
  | .logOut _ => ["logout"]
  | .startSession _ _ => ["session", "start"]
  | .recordPage _ _ => ["session", "page"]
  | .heartbeat _ => ["session", "heartbeat"]
  | .endSession _ => ["session", "end"]

/-- The texts from the base to what a call is about. -/
def route (call : ServiceCall) : List String :=
  "user" :: call.visitor :: steps call

theorem toList_path (call : ServiceCall) :
    (path call).toList = Url.joined ((steps call).map String.toList) := by
  cases call <;> simp [path, steps, Url.joined]

/-- The URL of a request goes along the route of the call. -/
theorem url_ofCall (baseUrl : String) (call : ServiceCall) :
    (ofCall baseUrl call).url = Url.behind (base baseUrl) (route call) := by
  change base baseUrl ++ "/user/" ++ call.visitor ++ path call = _
  rw [← String.toList_inj, Url.toList_behind, String.toList_append, toList_path]
  simp [route, Url.joined]

/-- A request keeps to the route of the call if the base is a folder and every text of the route is
a segment, the last one without a blank at its end. -/
theorem leadsThrough_ofCall_iff (host? : List Char → Option String) (baseUrl : String)
    (call : ServiceCall) :
    Url.LeadsThrough host? (base baseUrl) (route call) (ofCall baseUrl call).url ↔
      Url.IsFolder host? (base baseUrl) ∧ (∀ text ∈ route call, Url.IsSegment text.toList) ∧
        ∀ last ∈ (route call).getLast?, ∀ c ∈ last.toList.getLast?, Url.isOuter c = false := by
  rw [url_ofCall]
  exact Url.leadsThrough_iff (Nat.lt_of_lt_of_le Nat.one_lt_two (Nat.le_add_left ..))

end VisitorLink.Request
