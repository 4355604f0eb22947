import AnnotatedSql.Operation.Basic
import AnnotatedSql.Proofs.Operation.Signature
import AnnotatedSql.Proofs.Query.Static

/-!
# Which statements can be made into operations

An operation is made of a statement that has a signature and whose first line has a number that
fits. Its query and its checks cannot be in the way once the parameters fit the body.
-/

set_option autoImplicit false

namespace AnnotatedSql

namespace Operation

/-- The greatest number of a first line. -/
def lastLine : ℤ := 2147483647

/-- The number of a line that comes after the start of a text is at most too great. -/
theorem lineFault?_of_pos {line : ℤ} (hpos : 1 ≤ line) :
    lineFault? line =
      if lastLine < line then
        some (.plain .overflow "Python int too large to convert to C int")
      else none := by
  have hlow : ¬ line < -2147483648 := by omega
  have hneg : ¬ line < 0 := by omega
  unfold lineFault? lastLine
  by_cases hhigh : 2147483647 < line <;> simp [hlow, hneg, hhigh]

/-- The fixed query is there as soon as there is one for a statement without lists. -/
theorem fixedQuery_ok {s : Statement} {query : Except Failure StaticQuery}
    (hquery : s.isDynamic = false → ∃ q, query = .ok q) :
    ∃ static, fixedQuery s query = .ok static := by
  unfold fixedQuery
  cases hdynamic : s.isDynamic with
  | true => exact ⟨none, rfl⟩
  | false =>
    obtain ⟨q, hq⟩ := hquery hdynamic
    exact ⟨some q, by simp [hq, Except.map]⟩

/-- What an operation that is made consists of. -/
theorem build_eq_ok_iff {s : Statement} {style : Slot PlaceholderStyle}
    {query : Except Failure StaticQuery} {checkTypes : Except Failure (Slot Bool)}
    {adapter : Slot Adapter} {op : Operation} :
    build s style query checkTypes adapter = .ok op ↔
      ∃ signature static checked, Signature.ofStatement s = .ok signature ∧
        fixedQuery s query = .ok static ∧ checkTypes = .ok checked ∧
        (s.block.bind fun b => lineFault? b.startLine) = none ∧
        op = { statement := s, signature, style, static, checkTypes := checked, adapter } := by
  unfold build
  simp only [Outcome.bind_eq_ok_iff, Outcome.mapError_eq_ok_iff]
  cases s.block.bind fun b => lineFault? b.startLine with
  | some fault => simp
  | none => simp [eq_comm]

/-- With a query and checks at hand, an operation can be made when there is a signature and the
first line is no fault. -/
theorem build_ok_iff {s : Statement} {style : Slot PlaceholderStyle}
    {query : Except Failure StaticQuery} {checked : Slot Bool} {adapter : Slot Adapter}
    (hquery : s.isDynamic = false → ∃ q, query = .ok q) :
    (∃ op, build s style query (.ok checked) adapter = .ok op) ↔
      (∃ g, Signature.ofStatement s = .ok g) ∧
        (s.block.bind fun b => lineFault? b.startLine) = none := by
  constructor
  · rintro ⟨op, hop⟩
    obtain ⟨g, _, _, hg, _, _, hline, _⟩ := build_eq_ok_iff.mp hop
    exact ⟨⟨g, hg⟩, hline⟩
  · rintro ⟨⟨g, hg⟩, hline⟩
    obtain ⟨static, hstatic⟩ := fixedQuery_ok hquery
    exact ⟨_, build_eq_ok_iff.mpr ⟨g, static, checked, hg, hstatic, rfl, hline, rfl⟩⟩

/-- With a query and checks at hand, making an operation fails foreign when its signature does,
or when there is one and the first line is a fault. -/
theorem failsForeign_build_iff {s : Statement} {style : Slot PlaceholderStyle}
    {query : Except Failure StaticQuery} {checked : Slot Bool} {adapter : Slot Adapter}
    (hquery : s.isDynamic = false → ∃ q, query = .ok q) :
    FailsForeign (build s style query (.ok checked) adapter) ↔
      FailsForeign ((Signature.ofStatement s).mapError SignatureError.failure) ∨
        (∃ g, Signature.ofStatement s = .ok g) ∧
          ∃ fault, (s.block.bind fun b => lineFault? b.startLine) = some fault ∧
            fault.kind.isLibrary = false := by
  obtain ⟨static, hstatic⟩ := fixedQuery_ok hquery
  unfold build
  rw [failsForeign_bind, hstatic]
  simp only [Outcome.mapError_eq_ok_iff]
  cases s.block.bind fun b => lineFault? b.startLine with
  | some fault => simp [Bind.bind, Except.bind]
  | none => simp [Bind.bind, Except.bind]

end Operation

end AnnotatedSql
