/-!
# Deadlines

Work under a limit of time either finishes in time, and then its result counts whatever it is, or is
given up. The work is looked at first and the clock second, so that work which finishes at the very
end of its time is in time. Where a limit is optional, zero stands for no limit.
-/

namespace DocumentProtocol

namespace Deadline

variable {Result : Type}

/-- What has come, at some time, of work that began earlier: its result, or another if late. -/
def within (limit since now : Nat) (late : Result) (result? : Option Result) : Option Result :=
  match result? with
  | some result => some result
  | none => if since + limit ≤ now then some late else none

def withinOptional (limit since now : Nat) (late : Result) (result? : Option Result) :
    Option Result :=
  if limit = 0 then result? else within limit since now late result?

/-- Whether a wait that began at some time is over its limit, which zero removes. -/
def hasPassed (limit since now : Nat) : Bool := limit ≠ 0 && since + limit ≤ now

variable {limit since now : Nat} {late result : Result} {result? : Option Result}

theorem within_eq_some_iff :
    within limit since now late result? = some result ↔
      result? = some result ∨ result? = none ∧ since + limit ≤ now ∧ late = result := by
  cases result? <;> simp [within]

theorem map_within {Other : Type} (change : Result → Other) :
    (within limit since now late result?).map change =
      within limit since now (change late) (result?.map change) := by
  cases result? with
  | none => simp [within, apply_ite]
  | some result => rfl

theorem within_eq_none_iff :
    within limit since now late result? = none ↔ result? = none ∧ now < since + limit := by
  cases result? <;> simp [within]

theorem map_withinOptional {Other : Type} (change : Result → Other) :
    (withinOptional limit since now late result?).map change =
      withinOptional limit since now (change late) (result?.map change) := by
  unfold withinOptional
  split
  · rfl
  · exact map_within change

theorem withinOptional_eq_some_iff :
    withinOptional limit since now late result? = some result ↔
      result? = some result ∨ result? = none ∧ hasPassed limit since now = true ∧
        late = result := by
  unfold withinOptional
  split
  · rename_i unlimited
    simp [hasPassed, unlimited]
  · rename_i limited
    rw [within_eq_some_iff]
    simp [hasPassed, limited]

theorem withinOptional_eq_none_iff :
    withinOptional limit since now late result? = none ↔
      result? = none ∧ hasPassed limit since now = false := by
  unfold withinOptional
  split
  · rename_i unlimited
    simp [hasPassed, unlimited]
  · rename_i limited
    rw [within_eq_none_iff]
    simp [hasPassed, limited]

section Related

variable {Other : Type} {related : Result → Other → Prop} {otherLate : Other}
  {other? : Option Other}

/-- What comes of work under the same limit is related if the results are. -/
theorem rel_within (limit since now : Nat) (lates : related late otherLate)
    (results : Option.Rel related result? other?) :
    Option.Rel related (within limit since now late result?)
      (within limit since now otherLate other?) := by
  cases results with
  | some result => exact .some result
  | none =>
      simp only [within]
      split
      · exact .some lates
      · exact .none

theorem rel_withinOptional (limit since now : Nat) (lates : related late otherLate)
    (results : Option.Rel related result? other?) :
    Option.Rel related (withinOptional limit since now late result?)
      (withinOptional limit since now otherLate other?) := by
  unfold withinOptional
  split
  · exact results
  · exact rel_within limit since now lates results

end Related

end Deadline

end DocumentProtocol
