/-
# ListExpansion.Proofs.Record -- records that grow step by step

What is recorded of a sequence of steps (searches, events) is made up of what each step
adds.  If what a step may add is fixed by the steps before it, then the whole record is:
`exists_additions` says so of any record, and is used where the steps are calls or moves.
-/
import Mathlib.Data.List.Induction

namespace ListExpansion

set_option autoImplicit false

variable {α β ε : Type}

/-- If each step adds the events of something that is due then, the record after all steps is
the events of a list of such things, one for each step and in its place. -/
theorem exists_additions (shown : List α → List ε) (events : β → List ε)
    (due : List α → α → β → Prop)
    (grows : ∀ before step, ∃ added, due before step added ∧
      shown (before ++ [step]) = shown before ++ events added)
    (unique : ∀ before step one other, due before step one → due before step other → one = other)
    (steps : List α) :
    ∃ additions : List β, additions.length = steps.length ∧
      shown steps = shown [] ++ additions.flatMap events ∧
      (∀ before step after, steps = before ++ step :: after → ∀ added,
        additions[before.length]? = some added ↔ due before step added) ∧
      ∀ added ∈ additions, ∃ before step after,
        steps = before ++ step :: after ∧ due before step added := by
  induction steps using List.reverseRecOn with
  | nil => exact ⟨[], rfl, by simp, fun before step after split_ => by simp at split_, nofun⟩
  | append_singleton steps last ih =>
      obtain ⟨additions, length, shows, places, members⟩ := ih
      obtain ⟨added, dueNow, showsNow⟩ := grows steps last
      refine ⟨additions ++ [added], by simp [length], by simp [showsNow, shows], ?_, ?_⟩
      · intro before step after split_ other
        -- The step asked about is the last one, or it was there before.
        rcases List.eq_nil_or_concat after with rfl | ⟨later, final, rfl⟩
        · obtain ⟨rfl, same⟩ := List.append_inj' split_ rfl
          cases same
          rw [← length, List.getElem?_concat_length, Option.some.injEq]
          exact ⟨fun same => same ▸ dueNow, unique _ _ _ _ dueNow⟩
        · rw [List.concat_eq_append, ← List.cons_append, ← List.append_assoc] at split_
          obtain ⟨rfl, -⟩ := List.append_inj' split_ rfl
          have within : before.length < additions.length := by simp [length]
          rw [List.getElem?_append_left within]
          exact places before step later rfl other
      · intro other member
        rcases List.mem_append.1 member with earlier | now
        · obtain ⟨before, step, after, rfl, due⟩ := members other earlier
          exact ⟨before, step, after ++ [last], by simp, due⟩
        · obtain rfl := List.mem_singleton.1 now
          exact ⟨steps, last, [], rfl, dueNow⟩

end ListExpansion
