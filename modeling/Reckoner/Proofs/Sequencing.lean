/-!
# Steps that may fail

Two steps one after the other succeed if both do, and fail with the first
failure.  These equivalences take computations apart that stop at their first
fault.
-/

namespace Reckoner

variable
    {Fault First Second : Type}
    {first : Except Fault First}
    {next : First → Except Fault Second}

theorem bind_eq_ok_iff {result : Second} :
    first.bind next = .ok result ↔
      ∃ value, first = .ok value ∧ next value = .ok result := by
  cases first with
  | error fault => simp [Except.bind]
  | ok value => simp [Except.bind]

theorem bind_eq_error_iff {fault : Fault} :
    first.bind next = .error fault ↔
      first = .error fault ∨
        ∃ value, first = .ok value ∧ next value = .error fault := by
  cases first with
  | error earlier => simp [Except.bind]
  | ok value => simp [Except.bind]

theorem map_eq_ok_iff {change : First → Second} {result : Second} :
    first.map change = .ok result ↔
      ∃ value, first = .ok value ∧ change value = result := by
  cases first with
  | error fault => simp [Except.map]
  | ok value => simp [Except.map]

theorem bind_bind {Third : Type} {last : Second → Except Fault Third} :
    (first.bind next).bind last =
      first.bind fun value => (next value).bind last := by
  cases first <;> rfl

end Reckoner
