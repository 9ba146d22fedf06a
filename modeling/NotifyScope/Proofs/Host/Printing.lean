import NotifyScope.Proofs.Host.Keeps

/-
  What a system prints.  Its standard output gets longer by
  whatever is written to it, and nothing else that a program
  asks for shows there.

  Key definitions include:
    * `Host.Printing`

  Main declarations:
    * `Host.Printing.talking`
    * `InMemory.printing`
-/

namespace NotifyScope

variable {σ δ : Type}

/- A list that stays the same gets longer by nothing. -/
theorem Keeps.grows
    {α : Type}
    {view : σ → List δ}
    {program : StateM σ α}
    (hProgram : Keeps (.same view) program) :
    Keeps (.grows view) program := by
  intro state
  have hSame :
      view (program.run state).2 = view state :=
    hProgram state
  exact ⟨[], (List.append_nil _).trans hSame.symm⟩

namespace Host

variable [Host (StateM σ)]

/- What was printed so far can be read off a state. -/
structure Printing
    (printed : σ → Text) : Prop where
  looking : Looking (.same printed)
  saving : Saving (.same printed)
  complain :
    ∀ text,
      Keeps (.same printed) (complain text : StateM σ _)
  output :
    ∀ text state,
      printed ((output text : StateM σ _).run state).2 =
        printed state ++ text.toList

namespace Printing

variable {printed : σ → Text}
variable (hPrint : Printing printed)
include hPrint

theorem looking_grows :
    Looking (.grows printed) where
  info path := (hPrint.looking.info path).grows
  read path := (hPrint.looking.read path).grows
  entries path :=
    (hPrint.looking.entries path).grows
  canonical path :=
    (hPrint.looking.canonical path).grows
  workingDirectory :=
    hPrint.looking.workingDirectory.grows
  homeDirectory :=
    hPrint.looking.homeDirectory.grows
  environment name :=
    (hPrint.looking.environment name).grows
  isTerminal := hPrint.looking.isTerminal.grows
  input := hPrint.looking.input.grows
  clock := hPrint.looking.clock.grows

theorem saving_grows :
    Saving (.grows printed) where
  write path data :=
    (hPrint.saving.write path data).grows
  copy source path :=
    (hPrint.saving.copy source path).grows

/- What was printed is never taken back. -/
theorem talking :
    Talking (.grows printed) where
  output text := fun state =>
    ⟨text.toList, (hPrint.output text state).symm⟩
  complain text :=
    (hPrint.complain text).grows

end Printing

end Host

/- Changing the disk of a system prints nothing. -/
theorem InMemory.output_change
    (edit : Disk → Location → Except HostError Disk) :
    Keeps (.same fun world : World => world.output.toList)
      (change edit) := by
  intro world
  rw [run_change]
  cases edit world.disk world.directory <;> rfl

/- A system in memory prints into its output. -/
theorem InMemory.printing :
    Host.Printing fun world : World => world.output.toList where
  looking := looking _
  saving :=
    { write := fun _ _ => output_change _
      copy := fun _ _ => output_change _ }
  complain _ := fun _ => rfl
  output _ _ := String.toList_append

end NotifyScope
