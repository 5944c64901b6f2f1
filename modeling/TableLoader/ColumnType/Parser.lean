/-
# Reading column types

A type is a name, a wrapper's name with a type between round brackets, a decimal
type with its parameters, or a time with a time zone between single quotes. The
text between the brackets reaches to the last closing one and is read in the
same way; blanks around a type carry no meaning. Everything else is a type of
unknown kind.

Key definitions: `enclosed?`, `ColumnType.ofChars`, `ColumnType.parse`.
-/
import TableLoader.ColumnType
import TableLoader.Text.Blank

namespace TableLoader
namespace ColumnType

/-- What stands between `front` and a closing bracket at the end. -/
def enclosed? (front s : List Char) : Option (List Char) :=
  if front.isPrefixOf s then
    let rest := s.drop front.length
    if rest.getLast? = some ')' then some rest.dropLast else none
  else none

/-- A name and an opening bracket. -/
def opening (name : String) : List Char := name.toList ++ ['(']

/-- The wrapper that a text begins with, and the text of the type inside. -/
def wrapper? (s : List Char) : Option (Wrapper × List Char) :=
  [Wrapper.nullable, .lowCardinality, .array].findSome? fun w =>
    (enclosed? (opening w.name) s).map (w, ·)

/-- The text is a decimal type with parameters on one line. -/
def isDecimal (s : List Char) : Bool :=
  ["Decimal", "Decimal32", "Decimal64", "Decimal128", "Decimal256"].any fun name =>
    ((enclosed? (opening name) s).map fun body => !body.contains '\n').getD false

/-- The text is a time with a time zone. -/
def isZonedTime (s : List Char) : Bool :=
  ((enclosed? ("DateTime('".toList) s).map fun body =>
    body.getLast? == some '\'' && !body.dropLast.contains '\'').getD false

/-- The kind of a plain type. -/
def plainType (s : List Char) : PlainType :=
  match PlainType.named.find? (·.name.toList = s) with
  | some type => type
  | none => if isDecimal s then .decimal else if isZonedTime s then .dateTime else .unknown

theorem length_lt_of_enclosed? {front s body : List Char} (h : enclosed? front s = some body) :
    body.length < s.length := by
  unfold enclosed? at h
  split at h
  · simp only [Option.ite_none_right_eq_some, Option.some.injEq] at h
    obtain ⟨hlast, rfl⟩ := h
    have hne : s.drop front.length ≠ [] := by
      intro hnil
      rw [hnil] at hlast
      simp at hlast
    have := List.length_pos_iff.mpr hne
    simp only [List.length_dropLast, List.length_drop] at this ⊢
    omega
  · cases h

theorem length_lt_of_wrapper? {s body : List Char} {w : Wrapper} (h : wrapper? s = some (w, body)) :
    body.length < s.length := by
  obtain ⟨v, -, hv⟩ := List.exists_of_findSome?_eq_some h
  obtain ⟨b, hb, hpair⟩ := Option.map_eq_some_iff.mp hv
  cases hpair
  exact length_lt_of_enclosed? hb

theorem length_trim_le (s : List Char) : (Text.trim s).length ≤ s.length := by
  simp only [Text.trim, Text.trimWhere, List.length_reverse]
  have h1 := (List.dropWhile_sublist Text.isBlank (l := s)).length_le
  have h2 := (List.dropWhile_sublist Text.isBlank
    (l := (s.dropWhile Text.isBlank).reverse)).length_le
  simp only [List.length_reverse] at h2
  omega

/-- The type that characters stand for. -/
def ofChars (s : List Char) : ColumnType :=
  let t := Text.trim s
  match h : wrapper? t with
  | some (w, body) =>
    have : body.length < s.length :=
      Nat.lt_of_lt_of_le (length_lt_of_wrapper? h) (length_trim_le s)
    .wrapped w (String.ofList t) (ofChars body)
  | none => .plain (plainType t) (String.ofList t)
termination_by s.length

/-- The type that a text stands for. -/
def parse (s : String) : ColumnType := ofChars s.toList

end ColumnType
end TableLoader
