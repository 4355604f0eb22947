import AnnotatedSql.Proofs.Query.Piece
import AnnotatedSql.Proofs.Query.Shape

/-!
# The numbers of a query that is built for one call

A query that is built for one call has the numbers from one on, each once and in this order, and
binds one value for each. A marker has a number for every value that it binds: an empty list binds
none and is a null.
-/

set_option autoImplicit false

namespace AnnotatedSql

/-- Pieces stand for a token, for lists of some lengths. -/
inductive Piece.StandFor (count : String → ℕ) : Token → List Piece → Prop
  /-- Literal text stands for itself. -/
  | literal (text : String) : StandFor count (.literal text) [.text text]
  /-- A scalar has one placeholder. -/
  | scalar (name : String) (number : ℕ) :
      StandFor count (.marker ⟨name, .scalar⟩) [.placeholder number]
  /-- An empty list is a null, without a placeholder. -/
  | null {name : String} (empty : count name = 0) :
      StandFor count (.marker ⟨name, .list⟩) [.text "NULL"]
  /-- Any other list has one placeholder for each element, with commas between them. -/
  | list {name : String} {numbers : List ℕ} (length_eq : numbers.length = count name)
      (ne_nil : numbers ≠ []) :
      StandFor count (.marker ⟨name, .list⟩)
        ((numbers.map Piece.placeholder).intersperse (.text ", "))

namespace BoundQuery

/-- The pieces that a marker gives way to after so many values, for lists of some lengths. -/
def markerPieces (count : String → ℕ) (before : ℕ) (m : Marker) : List Piece :=
  match m.multiplicity with
  | .scalar => [.placeholder (before + 1)]
  | .list => Piece.listing (List.range' (before + 1) (count m.name))

/-- The pieces of tokens after so many values, for lists of some lengths: a group of them for each
token. -/
def piecesFrom (count : String → ℕ) (before : ℕ) : List Token → List (List Piece)
  | [] => []
  | .literal text :: rest => [.text text] :: piecesFrom count before rest
  | .marker m :: rest =>
    markerPieces count before m :: piecesFrom count (before + m.width count) rest

section Pieces

variable (count : String → ℕ) (before : ℕ)

/-- The pieces of a marker are written as its text. -/
theorem writeAll_markerPieces (style : PlaceholderStyle) (m : Marker) :
    Piece.writeAll style (markerPieces count before m) = markerText style count before m := by
  obtain ⟨name, multiplicity⟩ := m
  cases multiplicity with
  | scalar =>
    exact (Piece.writeAll_singleton style _).trans (style.render_eq_numbered _).symm
  | list =>
    simp only [markerPieces, markerText, Piece.writeAll_listing, listText_eq_listing,
      List.range'_eq_map_range]

/-- The numbers of a marker are the next ones, one for each value that it binds. -/
theorem numbers_markerPieces (m : Marker) :
    Piece.numbers (markerPieces count before m) = List.range' (before + 1) (m.width count) := by
  obtain ⟨name, multiplicity⟩ := m
  cases multiplicity with
  | scalar => rfl
  | list => exact Piece.numbers_listing _

/-- The pieces of a marker stand for it. -/
theorem standFor_markerPieces (m : Marker) :
    Piece.StandFor count (.marker m) (markerPieces count before m) := by
  obtain ⟨name, multiplicity⟩ := m
  cases multiplicity with
  | scalar => exact .scalar name (before + 1)
  | list =>
    simp only [markerPieces, Piece.listing]
    split
    · next hnone => exact .null (List.range'_eq_nil_iff.mp hnone)
    · next hsome => exact .list List.length_range' hsome

variable (tokens : List Token)

/-- The pieces of tokens are written as their texts. -/
theorem map_writeAll_piecesFrom (style : PlaceholderStyle) :
    (piecesFrom count before tokens).map (Piece.writeAll style) =
      textsFrom style count before tokens := by
  induction tokens generalizing before with
  | nil => rfl
  | cons token rest ih =>
    cases token with
    | literal text =>
      simp only [piecesFrom, textsFrom, List.map_cons, Piece.writeAll_singleton, ih]
      rfl
    | marker m =>
      simp only [piecesFrom, textsFrom, List.map_cons, writeAll_markerPieces, ih]

/-- The numbers of tokens are the next ones, one for each value that they bind. -/
theorem numbers_piecesFrom :
    Piece.numbers (piecesFrom count before tokens).flatten =
      List.range' (before + 1) (widthOf count tokens) := by
  induction tokens generalizing before with
  | nil => rfl
  | cons token rest ih =>
    cases token with
    | literal text => exact ih before
    | marker m =>
      have hwidth : widthOf count (.marker m :: rest) = m.width count + widthOf count rest := rfl
      rw [piecesFrom, List.flatten_cons, Piece.numbers_append, numbers_markerPieces, ih, hwidth,
        ← List.range'_append_1, Nat.add_right_comm]

/-- The pieces of each token stand for it. -/
theorem standFor_piecesFrom :
    List.Forall₂ (Piece.StandFor count) tokens (piecesFrom count before tokens) := by
  induction tokens generalizing before with
  | nil => exact .nil
  | cons token rest ih =>
    cases token with
    | literal text => exact .cons (.literal text) (ih before)
    | marker m => exact .cons (standFor_markerPieces count before m) (ih _)

end Pieces

/-- A scalar binds one value, a list as many as it has elements. -/
theorem sum_width (count : String → ℕ) (markers : List Marker) :
    (markers.map (Marker.width count)).sum =
      (markers.filter fun m => m.multiplicity = .scalar).length +
        ((markers.filter fun m => m.multiplicity = .list).map fun m => count m.name).sum := by
  induction markers with
  | nil => rfl
  | cons m rest ih =>
    obtain ⟨name, multiplicity⟩ := m
    cases multiplicity with
    | scalar =>
      simp only [List.map_cons, List.sum_cons, ih, List.filter_cons, decide_true, if_true,
        List.length_cons, reduceCtorEq, decide_false, Bool.false_eq_true, if_false, Marker.width]
      omega
    | list =>
      simp only [List.map_cons, List.sum_cons, ih, List.filter_cons, decide_true, if_true,
        reduceCtorEq, decide_false, Bool.false_eq_true, if_false, Marker.width]
      omega

/-- A query of tokens is numbered in order, where groups of pieces stand for the tokens. -/
structure NumberedInOrder (style : PlaceholderStyle) (given : String → Option Value)
    (tokens : List Token) (groups : List (List Piece)) (q : BoundQuery) : Prop where
  /-- The text is written from the pieces. -/
  sql_eq : q.sql = Piece.writeAll style groups.flatten
  /-- The pieces stand for the tokens, group by group. -/
  stand : List.Forall₂ (Piece.StandFor (lengthOf given)) tokens groups
  /-- There is one number for each value, from one on. -/
  numbers_eq : Piece.numbers groups.flatten = List.range' 1 q.parameters.length
  /-- The values are those of the tokens, one after the other. -/
  parameters_eq : q.parameters = tokens.flatMap (boundBy given)
  /-- There is one value for each scalar and one for each element of each list. -/
  length_eq : q.parameters.length =
    ((Token.markers tokens).filter fun m => m.multiplicity = .scalar).length +
      (((Token.markers tokens).filter fun m => m.multiplicity = .list).map
        fun m => lengthOf given m.name).sum

/-- The query that is built for one call, of values that can all be read. -/
theorem assembleDynamic_eq (s : Statement) (style : PlaceholderStyle)
    {values : List (String × Value)}
    (hreadable : ∀ m ∈ Token.markers s.tokens, Readable (values.lookup ·) m) :
    assembleDynamic s values style =
      .ok ⟨Piece.writeAll style (piecesFrom (lengthOf (values.lookup ·)) 0 s.tokens).flatten,
        s.tokens.flatMap (boundBy (values.lookup ·))⟩ := by
  rw [assembleDynamic, assembleFrom_eq style 0 (fun _ => rfl) hreadable, Piece.writeAll_flatten,
    map_writeAll_piecesFrom]
  rfl

/-- A query that is built for one call, of values that can all be read, is numbered in order. -/
theorem assembleDynamic_numberedInOrder (s : Statement) (style : PlaceholderStyle)
    {values : List (String × Value)}
    (hreadable : ∀ m ∈ Token.markers s.tokens, Readable (values.lookup ·) m) :
    ∃ q groups, assembleDynamic s values style = .ok q ∧
      NumberedInOrder style (values.lookup ·) s.tokens groups q := by
  have hlength := length_flatMap_boundBy hreadable
  refine ⟨_, _, assembleDynamic_eq s style hreadable, rfl, standFor_piecesFrom _ 0 s.tokens, ?_,
    rfl, ?_⟩
  · rw [numbers_piecesFrom, hlength]
  · rw [hlength]
    exact sum_width _ (Token.markers s.tokens)

/-- A scalar that comes twice, a list of two elements and an empty one: four placeholders and four
values. -/
theorem assembleDynamic_numberedInOrder_mixed :
    ∃ (s : Statement) (values : List (String × Value)) (q : BoundQuery)
      (groups : List (List Piece)),
      s.tokens = [.marker ⟨"a", .scalar⟩, .literal " in (", .marker ⟨"ids", .list⟩,
        .literal ") or (", .marker ⟨"none", .list⟩, .literal ") = ", .marker ⟨"a", .scalar⟩] ∧
      assembleDynamic s values .dollar = .ok q ∧
      q.sql = "$1 in ($2, $3) or (NULL) = $4" ∧
      Piece.numbers groups.flatten = [1, 2, 3, 4] ∧
      q.parameters = [.int 7, .text "x", .none, .int 7] ∧
      NumberedInOrder .dollar (values.lookup ·) s.tokens groups q := by
  let s : Statement :=
    { name := "pick"
      kind := .query
      parameters := []
      tokens := [.marker ⟨"a", .scalar⟩, .literal " in (", .marker ⟨"ids", .list⟩,
        .literal ") or (", .marker ⟨"none", .list⟩, .literal ") = ", .marker ⟨"a", .scalar⟩]
      doc := ""
      block := none }
  let values : List (String × Value) :=
    [("a", .int 7), ("ids", .tuple [.text "x", .none]), ("none", .list [])]
  have hreadable : ∀ m ∈ Token.markers s.tokens, Readable (values.lookup ·) m :=
    List.forall_mem_cons.mpr ⟨.scalar rfl, List.forall_mem_cons.mpr ⟨.list rfl rfl rfl,
      List.forall_mem_cons.mpr ⟨.list rfl rfl rfl, List.forall_mem_singleton.mpr (.scalar rfl)⟩⟩⟩
  have hassemble : assembleDynamic s values .dollar =
      .ok ⟨"$1 in ($2, $3) or (NULL) = $4", [.int 7, .text "x", .none, .int 7]⟩ := by rfl
  obtain ⟨q, groups, hok, hnumbered⟩ := assembleDynamic_numberedInOrder s .dollar hreadable
  obtain rfl := Except.ok.inj (hok.symm.trans hassemble)
  exact ⟨s, values, _, groups, rfl, hok, rfl, hnumbered.numbers_eq, rfl, hnumbered⟩

end BoundQuery

end AnnotatedSql
