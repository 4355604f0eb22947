import AnnotatedSql.Proofs.Query.Filling
import Mathlib.Data.List.Basic

/-!
# Pieces of a query

The text of a query is written from pieces: text that stays and numbered placeholders. What a
query asks for is what comes of its pieces when each placeholder gives way to the value that is
bound at its number.
-/

set_option autoImplicit false

namespace AnnotatedSql

/-- A piece of the text of a query. -/
inductive Piece where
  /-- Text that stays. -/
  | text (text : String)
  /-- The placeholder of a number. -/
  | placeholder (number : ℕ)
  deriving DecidableEq, Repr

namespace Piece

/-- A piece as it is written. -/
def write (style : PlaceholderStyle) : Piece → String
  | text s => s
  | placeholder number => style.numbered number

/-- The text that pieces make. -/
def writeAll (style : PlaceholderStyle) (pieces : List Piece) : String :=
  String.join (pieces.map (write style))

/-- The text of a piece that stays. -/
def text? : Piece → Option String
  | text s => some s
  | placeholder _ => none

/-- The number of a placeholder. -/
def number? : Piece → Option ℕ
  | text _ => none
  | placeholder number => some number

/-- The numbers of the placeholders among pieces, in order. -/
def numbers (pieces : List Piece) : List ℕ :=
  pieces.filterMap number?

/-- A piece with the value that is bound at its number in place of a placeholder. The first number
is one. -/
def fill? (bound : List Value) : Piece → Option (String ⊕ Value)
  | text s => some (.inl s)
  | placeholder 0 => none
  | placeholder (number + 1) => bound[number]?.map .inr

/-- The placeholders of some numbers, with commas between them. For no numbers it is a null. -/
def listing (numbers : List ℕ) : List Piece :=
  if numbers = [] then [text "NULL"] else (numbers.map placeholder).intersperse (text ", ")

section Writing

variable (style : PlaceholderStyle)

/-- The first of some pieces is written before the others. -/
theorem writeAll_cons (piece : Piece) (pieces : List Piece) :
    writeAll style (piece :: pieces) = piece.write style ++ writeAll style pieces := by
  rw [writeAll, List.map_cons, String.join_cons]
  rfl

/-- One piece is written as it is. -/
theorem writeAll_singleton (piece : Piece) : writeAll style [piece] = piece.write style := by
  rw [writeAll_cons]
  exact String.append_empty

/-- Pieces are written one after the other. -/
theorem writeAll_append (first last : List Piece) :
    writeAll style (first ++ last) = writeAll style first ++ writeAll style last := by
  rw [writeAll, List.map_append, String.join_append]
  rfl

/-- Groups of pieces are written one after the other. -/
theorem writeAll_flatten (groups : List (List Piece)) :
    writeAll style groups.flatten = String.join (groups.map (writeAll style)) := by
  induction groups with
  | nil => rfl
  | cons group rest ih =>
    rw [List.flatten_cons, writeAll_append, ih, List.map_cons, String.join_cons]

/-- Placeholders with commas between them are written as a text. -/
theorem writeAll_intersperse (numbers : List ℕ) :
    writeAll style ((numbers.map placeholder).intersperse (text ", ")) =
      String.intercalate ", " (numbers.map style.numbered) := by
  induction numbers with
  | nil => rfl
  | cons number rest ih =>
    cases rest with
    | nil => exact writeAll_singleton style (placeholder number)
    | cons next rest =>
      simp only [List.map_cons] at ih
      simp only [List.map_cons, List.intersperse_cons_cons,
        writeAll_cons style (placeholder number), writeAll_cons style (text ", "), ih,
        String.intercalate_cons_cons, String.append_assoc]
      rfl

/-- A listing is written as the placeholders of its numbers. -/
theorem writeAll_listing (numbers : List ℕ) :
    writeAll style (listing numbers) = AnnotatedSql.listing style numbers := by
  unfold listing AnnotatedSql.listing
  cases numbers with
  | nil => exact writeAll_singleton style (text "NULL")
  | cons number rest => exact writeAll_intersperse style (number :: rest)

end Writing

section Numbers

/-- Groups of pieces have the numbers of the first group before those of the others. -/
theorem numbers_append (first last : List Piece) :
    numbers (first ++ last) = numbers first ++ numbers last :=
  List.filterMap_append

/-- Placeholders with commas between them have their numbers. -/
theorem numbers_intersperse (list : List ℕ) :
    numbers ((list.map placeholder).intersperse (text ", ")) = list := by
  induction list with
  | nil => rfl
  | cons number rest ih =>
    cases rest with
    | nil => rfl
    | cons next rest => exact congrArg (number :: ·) ih

/-- A listing has its numbers, and no other. -/
theorem numbers_listing (list : List ℕ) : numbers (listing list) = list := by
  unfold listing
  split
  · next hnone =>
    rw [hnone]
    rfl
  · exact numbers_intersperse list

end Numbers

end Piece

end AnnotatedSql
