import Mathlib.Data.List.Basic
import VisitorLink.Proofs.Service.Escapes

/-!
# Segments of a path

The segments of a path are weighed by their bytes, with one more for a slash in front of each. The
reader never makes them heavier, and every segment that stands for a folder is missed in the end
(`weight_resolve`). Pieces with slashes in front of them are the segments of what they are joined to
if no piece has a slash of its own (`flatMap_segments_of_no_slash`).
-/

namespace VisitorLink.Url

/-! ## Weighing segments -/

/-- The bytes of segments, with a slash in front of each. -/
def weight : List (List Char) → Nat
  | [] => 0
  | s :: ss => (bytes s).length + 1 + weight ss

@[simp] theorem weight_nil : weight [] = 0 := rfl

@[simp] theorem weight_cons (s : List Char) (ss : List (List Char)) :
    weight (s :: ss) = (bytes s).length + 1 + weight ss := rfl

/-- Weights of segments add up. -/
@[simp] theorem weight_append (ss ts : List (List Char)) :
    weight (ss ++ ts) = weight ss + weight ts := by
  induction ss with
  | nil => exact (Nat.zero_add _).symm
  | cons s ss ih => rw [List.cons_append, weight_cons, weight_cons, ih, ← Nat.add_assoc]

/-- Leaving segments out makes them no heavier. -/
theorem weight_le_of_sublist {ss ts : List (List Char)} (sublist : ss.Sublist ts) :
    weight ss ≤ weight ts := by
  induction sublist with
  | slnil => exact Nat.le_refl _
  | cons s _ ih => rw [weight_cons]; omega
  | cons_cons s _ ih => rw [weight_cons, weight_cons]; omega

/-- The bytes of a character come first. -/
theorem length_bytes_cons (c : Char) (s : List Char) :
    (bytes (c :: s)).length = (String.utf8EncodeChar c).length + (bytes s).length := by
  rw [bytes_cons, List.length_append]

/-- Bytes add up. -/
theorem length_bytes_append (s t : List Char) :
    (bytes (s ++ t)).length = (bytes s).length + (bytes t).length := by
  rw [bytes, List.flatMap_append, List.length_append]
  rfl

/-- Leaving characters out takes bytes away at most. -/
theorem length_bytes_le_of_sublist {s t : List Char} (sublist : s.Sublist t) :
    (bytes s).length ≤ (bytes t).length := by
  induction sublist with
  | slnil => exact Nat.le_refl _
  | cons c _ ih => rw [length_bytes_cons]; omega
  | cons_cons c _ ih => rw [length_bytes_cons, length_bytes_cons]; omega

/-- Whatever is left out of a text is missed in its bytes. -/
theorem eq_of_sublist {s t : List Char} (sublist : s.Sublist t)
    (full : (bytes t).length ≤ (bytes s).length) : s = t := by
  induction sublist with
  | slnil => rfl
  | cons c sublist ih =>
      have some := length_utf8EncodeChar_pos c
      have bound := length_bytes_le_of_sublist sublist
      rw [length_bytes_cons] at full
      omega
  | cons_cons c sublist ih =>
      rw [length_bytes_cons, length_bytes_cons] at full
      rw [ih (by omega)]

/-! ## Segments -/

/-- Slashes of both kinds are one byte long. -/
theorem length_utf8EncodeChar_of_isSlash {c : Char} (slash : isSlash c = true) :
    (String.utf8EncodeChar c).length = 1 := by
  rw [isSlash, Bool.or_eq_true, beq_iff_eq, beq_iff_eq] at slash
  rcases slash with rfl | rfl <;> rfl

/-- A slash closes an empty segment. -/
theorem segments_cons_of_isSlash {c : Char} (slash : isSlash c = true) (s : List Char) :
    segments (c :: s) = [] :: segments s := by
  rw [segments, List.splitOnP_cons_eq_if_modifyHead, if_pos slash]
  rfl

/-- Any other character belongs to the first segment. -/
theorem segments_cons_of_not_isSlash {c : Char} (inside : isSlash c = false) (s : List Char) :
    ∃ first rest, segments s = first :: rest ∧ segments (c :: s) = (c :: first) :: rest := by
  obtain ⟨first, rest, same⟩ := List.exists_cons_of_ne_nil (List.splitOnP_ne_nil isSlash s)
  refine ⟨first, rest, same, ?_⟩
  rw [segments, List.splitOnP_cons_eq_if_modifyHead, if_neg (by simp [inside]), same]
  rfl

/-- No byte is lost in splitting, if a slash is counted for every segment. -/
theorem weight_segments (s : List Char) : weight (segments s) = (bytes s).length + 1 := by
  induction s with
  | nil => rfl
  | cons c s ih =>
      cases slash : isSlash c with
      | true =>
          rw [segments_cons_of_isSlash slash, weight_cons, ih, length_bytes_cons,
            length_utf8EncodeChar_of_isSlash slash]
          have empty : (bytes []).length = 0 := rfl
          omega
      | false =>
          obtain ⟨first, rest, same, split⟩ := segments_cons_of_not_isSlash slash s
          rw [same, weight_cons] at ih
          rw [split, weight_cons, length_bytes_cons, length_bytes_cons]
          omega

/-- There is one segment more than there are slashes. -/
theorem length_segments (s : List Char) : (segments s).length = s.countP isSlash + 1 := by
  induction s with
  | nil => rfl
  | cons c s ih =>
      cases slash : isSlash c with
      | true =>
          rw [segments_cons_of_isSlash slash, List.length_cons, ih, List.countP_cons_of_pos slash]
      | false =>
          obtain ⟨first, rest, same, split⟩ := segments_cons_of_not_isSlash slash s
          rw [split, List.countP_cons_of_neg (by simp [slash]), ← ih, same]
          rfl

/-- A text without slashes is one segment. -/
theorem segments_of_no_slash {s : List Char} (whole : ∀ c ∈ s, isSlash c = false) :
    segments s = [s] := by
  induction s with
  | nil => rfl
  | cons c s ih =>
      obtain ⟨first, rest, same, split⟩ :=
        segments_cons_of_not_isSlash (whole c List.mem_cons_self) s
      rw [ih fun d mem => whole d (List.mem_cons_of_mem c mem)] at same
      cases same
      exact split

/-! ## Resolving dots -/

/-- Whether a segment stands for a folder. -/
def isDots (segment : List Char) : Bool :=
  isDot segment || isDoubleDot segment

/-- Segments that stand for folders start with a dot or an escape. -/
theorem isDots_cons {c : Char} (dot : c.toLower ≠ '.') (percent : c.toLower ≠ '%')
    (s : List Char) : isDots (c :: s) = false := by
  have other {name : String} {d : Char} {rest : List Char} (starts : name.toList = d :: rest)
      (ne : c.toLower ≠ d) : String.ofList ((c :: s).map Char.toLower) ≠ name := by
    rintro rfl
    rw [String.toList_ofList, List.map_cons] at starts
    exact ne (List.cons.inj starts).1
  rw [isDots, isDot, isDoubleDot, List.contains_eq_mem, List.contains_eq_mem, Bool.or_eq_false_iff,
    decide_eq_false_iff_not, decide_eq_false_iff_not]
  simp only [List.mem_cons, List.not_mem_nil, or_false, not_or]
  exact ⟨⟨other rfl dot, other rfl percent⟩,
    other rfl dot, other rfl dot, other rfl percent, other rfl percent⟩

/-- Segments without dots are kept. -/
theorem resolve_of_no_dots {ss : List (List Char)} (plain : ∀ s ∈ ss, isDots s = false)
    (read : List (List Char)) : resolve read ss = read ++ ss := by
  fun_induction resolve read ss with
  | case1 read => exact (List.append_nil _).symm
  | case2 read last up => simp [isDots, up] at plain
  | case3 read last up dot => simp [isDots, dot] at plain
  | case4 => rfl
  | case5 read s rest some up ih => simp [isDots, up] at plain
  | case6 read s rest some up dot ih => simp [isDots, dot] at plain
  | case7 read s rest some up dot ih =>
      rw [ih fun t mem => plain t (List.mem_cons_of_mem s mem), List.append_assoc]
      rfl

/-- A segment that others follow goes up, stays or goes down. -/
theorem resolve_cons {s : List Char} {rest : List (List Char)} (more : rest ≠ [])
    (read : List (List Char)) :
    resolve read (s :: rest) =
      if isDoubleDot s then resolve read.dropLast rest
      else if isDot s then resolve read rest
      else resolve (read ++ [s]) rest := by
  cases rest with
  | nil => exact absurd rfl more
  | cons next rest => rw [resolve]; exact nofun

/-- Where the segments lead that others follow. -/
theorem resolve_append (read ss : List (List Char)) :
    ∃ reached, ∀ rest, rest ≠ [] → resolve read (ss ++ rest) = resolve reached rest := by
  induction ss generalizing read with
  | nil => exact ⟨read, fun _ _ => rfl⟩
  | cons s ss ih =>
      obtain ⟨reached, leads⟩ := ih
        (if isDoubleDot s then read.dropLast else if isDot s then read else read ++ [s])
      refine ⟨reached, fun rest more => ?_⟩
      rw [List.cons_append, resolve_cons (List.append_ne_nil_of_right_ne_nil ss more),
        ← leads rest more]
      split
      · rfl
      · split <;> rfl

/-- A segment that stands for a folder has a byte at least. -/
theorem length_bytes_of_isDots {s : List Char} (dots : isDots s = true) :
    0 < (bytes s).length := by
  cases s with
  | nil => cases dots
  | cons c s =>
      rw [length_bytes_cons]
      exact Nat.add_pos_left (length_utf8EncodeChar_pos c) _

/-- What is behind the first segments does not get heavier, and every segment that stands for a
folder is missed. -/
theorem weight_resolve (n : Nat) (read ss : List (List Char)) :
    weight ((resolve read ss).drop n) + ss.countP isDots ≤ weight (read.drop n) + weight ss := by
  have above (read : List (List Char)) : weight (read.dropLast.drop n) ≤ weight (read.drop n) :=
    weight_le_of_sublist ((List.dropLast_sublist read).drop n)
  have behind (read : List (List Char)) (s : List Char) :
      weight ((read ++ [s]).drop n) ≤ weight (read.drop n) + ((bytes s).length + 1) := by
    rw [List.drop_append, weight_append]
    exact Nat.add_le_add_left (weight_le_of_sublist (List.drop_sublist _ [s])) _
  have empty : (bytes []).length = 0 := rfl
  fun_induction resolve read ss with
  | case1 read => exact Nat.le_refl _
  | case2 read last up =>
      have dots : isDots last = true := by rw [isDots, up, Bool.or_true]
      have some := length_bytes_of_isDots dots
      have left := behind read.dropLast []
      have fewer := above read
      rw [List.countP_cons_of_pos dots, weight_cons, List.countP_nil, weight_nil]
      omega
  | case3 read last up dot =>
      have dots : isDots last = true := by rw [isDots, dot, Bool.true_or]
      have some := length_bytes_of_isDots dots
      have left := behind read []
      rw [List.countP_cons_of_pos dots, weight_cons, List.countP_nil, weight_nil]
      omega
  | case4 read last up dot =>
      have plain : ¬ isDots last = true := by simp [isDots, up, dot]
      have left := behind read last
      rw [List.countP_cons_of_neg plain, weight_cons, List.countP_nil, weight_nil]
      omega
  | case5 read s rest more up ih =>
      have dots : isDots s = true := by rw [isDots, up, Bool.or_true]
      have fewer := above read
      rw [List.countP_cons_of_pos dots, weight_cons]
      omega
  | case6 read s rest more up dot ih =>
      have dots : isDots s = true := by rw [isDots, dot, Bool.true_or]
      rw [List.countP_cons_of_pos dots, weight_cons]
      omega
  | case7 read s rest more up dot ih =>
      have plain : ¬ isDots s = true := by simp [isDots, up, dot]
      have left := behind read s
      rw [List.countP_cons_of_neg plain, weight_cons]
      omega

/-! ## Pieces behind slashes -/

variable {pieces : List (List Char)} {t : List Char}

/-- The text of segments, each with a slash in front. -/
def joined (pieces : List (List Char)) : List Char :=
  pieces.flatMap fun piece => '/' :: piece

theorem joined_cons (piece : List Char) (pieces : List (List Char)) :
    joined (piece :: pieces) = '/' :: piece ++ joined pieces :=
  List.flatMap_cons

/-- The text of segments weighs as much as they do. -/
theorem length_bytes_joined (pieces : List (List Char)) :
    (bytes (joined pieces)).length = weight pieces := by
  induction pieces with
  | nil => rfl
  | cons piece pieces ih =>
      have slash : (String.utf8EncodeChar '/').length = 1 := rfl
      rw [joined_cons, length_bytes_append, length_bytes_cons, ih, weight_cons, slash,
        Nat.add_comm 1]

/-- Segments behind a text are split after it. -/
theorem segments_append_joined (s : List Char) (pieces : List (List Char)) :
    segments (s ++ joined pieces) = segments s ++ pieces.flatMap segments := by
  induction pieces generalizing s with
  | nil => rw [joined, List.flatMap_nil, List.flatMap_nil, List.append_nil, List.append_nil]
  | cons piece pieces ih =>
      rw [joined_cons, List.flatMap_cons]
      exact (List.splitOnP_append_cons s _ (by rfl)).trans (congrArg _ (ih piece))

/-- A condition that a slash meets holds of the text exactly if it holds of the pieces. -/
theorem forall_mem_joined {P : Char → Prop} (slash : P '/') (split : '/' :: t = joined pieces) :
    (∀ c ∈ t, P c) ↔ ∀ piece ∈ pieces, ∀ c ∈ piece, P c := by
  have whole : (∀ c ∈ t, P c) ↔ ∀ c ∈ joined pieces, P c := by
    rw [← split, List.forall_mem_cons]
    exact (and_iff_right slash).symm
  rw [whole]
  constructor
  · exact fun all piece mem c inside =>
      all c (List.mem_flatMap.2 ⟨piece, mem, List.mem_cons_of_mem _ inside⟩)
  · intro all c mem
    obtain ⟨piece, mem, inside⟩ := List.mem_flatMap.1 mem
    rcases List.mem_cons.1 inside with rfl | inside
    · exact slash
    · exact all piece mem c inside

/-- A slash in front does not change the last character of a text, but where it is the only one. -/
theorem forall_last_cons {P : Char → Prop} (slash : P '/') (s : List Char) :
    (∀ c ∈ ('/' :: s).getLast?, P c) ↔ ∀ c ∈ s.getLast?, P c := by
  cases s with
  | nil => simpa using slash
  | cons c s => rw [List.getLast?_cons_cons]

/-- The text ends as its last piece does. -/
theorem forall_last_joined {P : Char → Prop} (slash : P '/') (split : '/' :: t = joined pieces) :
    (∀ c ∈ t.getLast?, P c) ↔ ∀ last ∈ pieces.getLast?, ∀ c ∈ last.getLast?, P c := by
  rw [← forall_last_cons slash, split]
  rcases pieces.eq_nil_or_concat with rfl | ⟨before, last, rfl⟩
  · cases split
  · rw [List.concat_eq_append, joined, List.flatMap_append, List.flatMap_singleton,
      List.getLast?_append_of_ne_nil _ (List.cons_ne_nil _ _), forall_last_cons slash,
      List.getLast?_concat]
    simp

/-- The text is split into the segments of its pieces. -/
theorem segments_of_joined (split : '/' :: t = joined pieces) :
    segments t = pieces.flatMap segments := by
  have same := segments_append_joined [] pieces
  rw [List.nil_append, ← split, segments_cons_of_isSlash (by rfl)] at same
  exact (List.cons.inj same).2

/-- A slash within a piece makes for a segment more. -/
theorem length_flatMap_segments (pieces : List (List Char)) :
    (pieces.flatMap segments).length = pieces.flatten.countP isSlash + pieces.length := by
  induction pieces with
  | nil => rfl
  | cons piece pieces ih =>
      rw [List.flatMap_cons, List.length_append, ih, length_segments, List.flatten_cons,
        List.countP_append, List.length_cons]
      omega

/-- Pieces that make no more segments than there are pieces have no slashes. -/
theorem no_slash_of_length (same : (pieces.flatMap segments).length = pieces.length) :
    ∀ piece ∈ pieces, ∀ c ∈ piece, isSlash c = false := by
  rw [length_flatMap_segments] at same
  have none : pieces.flatten.countP isSlash = 0 := by omega
  exact fun piece mem c inside =>
    eq_false_of_ne_true (List.countP_eq_zero.1 none c (List.mem_flatten.2 ⟨piece, mem, inside⟩))

/-- Pieces without slashes are the segments. -/
theorem flatMap_segments_of_no_slash (whole : ∀ piece ∈ pieces, ∀ c ∈ piece, isSlash c = false) :
    pieces.flatMap segments = pieces := by
  induction pieces with
  | nil => rfl
  | cons piece pieces ih =>
      rw [List.flatMap_cons, segments_of_no_slash (whole piece List.mem_cons_self),
        ih fun other mem => whole other (List.mem_cons_of_mem piece mem)]
      rfl

/-- Segments stand for no more bytes than they weigh. -/
theorem weight_le_of_decoded {ss : List (List Char)} (stands : ss.map decoded = pieces.map bytes) :
    weight pieces ≤ weight ss := by
  induction ss generalizing pieces with
  | nil =>
      cases List.map_eq_nil_iff.1 stands.symm
      exact Nat.le_refl _
  | cons s ss ih =>
      obtain ⟨piece, rest, rfl, same, stands⟩ := List.map_eq_cons_iff.1 stands.symm
      have bound := length_decoded_le s
      have fewer := ih stands.symm
      rw [← same] at bound
      rw [weight_cons, weight_cons]
      omega

end VisitorLink.Url
