import NotifyScope.Host.Memory

/-
  What programs may do to the state of a system.  A frame
  says what may happen to it, such as that the files stay as
  they are, or that more is printed.  A program keeps within
  a frame if the parts that it is made of do, and what it
  asks the system for decides which frames those are.

  Key definitions include:
    * `Frame`
    * `Keeps`
    * `Task.Keeps`
    * `Task.Yields`
    * `Host.Looking`
    * `Host.Talking`
    * `Host.Saving`

  Main declarations:
    * `Keeps.bind`
    * `Keeps.foldlM`
    * `Task.Keeps.bind`
    * `InMemory.looking`
    * `InMemory.talking`
-/

namespace NotifyScope

variable {σ δ α β : Type}

------------------------------------------------------------
-- Frames
------------------------------------------------------------

/-
  What may happen to a state.  It may stay as it is, and one
  thing may happen after the other.
-/
structure Frame (σ : Type) where
  Allows : σ → σ → Prop
  refl : ∀ state, Allows state state
  trans :
    ∀ {first second third},
      Allows first second →
        Allows second third → Allows first third

namespace Frame

/- Whatever does not show in a view may happen. -/
def same
    (view : σ → δ) : Frame σ where
  Allows before after := view after = view before
  refl _ := rfl
  trans hFirst hSecond := hSecond.trans hFirst

/- A list may get longer. -/
def grows
    (view : σ → List δ) : Frame σ where
  Allows before after := view before <+: view after
  refl _ := List.prefix_rfl
  trans hFirst hSecond := hFirst.trans hSecond

end Frame

variable {frame : Frame σ}

------------------------------------------------------------
-- Programs
------------------------------------------------------------

/- Whatever the state, the program keeps within the frame. -/
def Keeps
    (frame : Frame σ)
    (program : StateM σ α) : Prop :=
  ∀ state, frame.Allows state (program.run state).2

/- Whether the piece of work succeeds or not. -/
def Task.Keeps
    (frame : Frame σ)
    (task : Task (StateM σ) α) : Prop :=
  NotifyScope.Keeps frame task.run

/- Whatever the state, the work succeeds only with such. -/
def Task.Yields
    (good : α → Prop)
    (task : Task (StateM σ) α) : Prop :=
  ∀ state a, (task.run.run state).1 = .ok a → good a

theorem keeps_pure
    (a : α) :
    Keeps frame (pure a : StateM σ α) :=
  fun state => frame.refl state

theorem Keeps.bind
    {program : StateM σ α}
    {next : α → StateM σ β}
    (hProgram : Keeps frame program)
    (hNext : ∀ a, Keeps frame (next a)) :
    Keeps frame (program >>= next) :=
  fun state => frame.trans (hProgram state) (hNext _ _)

/- A loop keeps a frame if each of its steps does. -/
theorem Keeps.foldlM
    {step : β → α → StateM σ β}
    (hStep : ∀ b a, Keeps frame (step b a))
    (list : List α)
    (b : β) :
    Keeps frame (list.foldlM step b) := by
  induction list generalizing b with
  | nil => exact keeps_pure b
  | cons a rest ih =>
      rw [List.foldlM_cons]
      exact (hStep b a).bind fun b => ih b

theorem Keeps.forIn
    {step : α → StateM σ Unit}
    (hStep : ∀ a, Keeps frame (step a))
    (list : List α) :
    Keeps frame
      (forIn list PUnit.unit fun a _ => do
        step a
        pure (ForInStep.yield PUnit.unit)) := by
  induction list with
  | nil => exact keeps_pure _
  | cons a rest ih =>
      rw [List.forIn_cons, bind_assoc]
      exact (hStep a).bind fun _ => ih

------------------------------------------------------------
-- Work That Can Fail
------------------------------------------------------------

namespace Task

theorem keeps_pure
    (a : α) :
    Keeps frame (pure a : Task (StateM σ) α) :=
  fun state => frame.refl state

theorem keeps_throw
    (failure : Failure) :
    Keeps frame (throw failure : Task (StateM σ) α) :=
  fun state => frame.refl state

/- What is known already can be a failure. -/
theorem keeps_mk_pure
    (result : Except Failure α) :
    Keeps frame
      (ExceptT.mk (pure result) : Task (StateM σ) α) :=
  fun state => frame.refl state

theorem Keeps.bind
    {task : Task (StateM σ) α}
    {next : α → Task (StateM σ) β}
    (hTask : Keeps frame task)
    (hNext : ∀ a, Keeps frame (next a)) :
    Keeps frame (task >>= next) := by
  unfold Keeps
  rw [ExceptT.run_bind]
  refine NotifyScope.Keeps.bind hTask fun result => ?_
  cases result with
  | error failure => exact NotifyScope.keeps_pure _
  | ok a => exact hNext a

/- Where two steps of work lead from a state. -/
theorem run_bind
    (task : Task (StateM σ) α)
    (next : α → Task (StateM σ) β)
    (state : σ) :
    (task >>= next).run.run state =
      match task.run.run state with
      | (.error failure, after) => (.error failure, after)
      | (.ok a, after) => (next a).run.run after := by
  rw [ExceptT.run_bind, StateT.run_bind]
  rcases task.run.run state with ⟨result, after⟩
  cases result <;> rfl

/- Work that cannot fail leads where the program does. -/
theorem run_lift
    (program : StateM σ α)
    (state : σ) :
    (liftM program : Task (StateM σ) α).run.run state =
      (.ok (program.run state).1, (program.run state).2) :=
  rfl

/- What follows has to keep a frame only if it is reached. -/
theorem Keeps.bind_of_yields
    {task : Task (StateM σ) α}
    {next : α → Task (StateM σ) β}
    {good : α → Prop}
    (hTask : Keeps frame task)
    (hGood : Yields good task)
    (hNext : ∀ a, good a → Keeps frame (next a)) :
    Keeps frame (task >>= next) := by
  intro state
  have hAfter := hTask state
  have hResult := hGood state
  change frame.Allows state ((task >>= next).run.run state).2
  rw [run_bind]
  rcases hRun : task.run.run state with ⟨result, after⟩
  rw [hRun] at hAfter hResult
  cases result with
  | error failure => exact hAfter
  | ok a =>
      exact frame.trans hAfter (hNext a (hResult a rfl) after)

/- Of what work gives, nothing may be known. -/
theorem yields_something
    (task : Task (StateM σ) α) :
    Yields (fun _ => True) task :=
  fun _ _ _ => trivial

theorem Yields.bind
    {task : Task (StateM σ) α}
    {next : α → Task (StateM σ) β}
    {good : α → Prop}
    {fine : β → Prop}
    (hTask : Yields good task)
    (hNext : ∀ a, good a → Yields fine (next a)) :
    Yields fine (task >>= next) := by
  intro state b hOk
  have hResult := hTask state
  rw [run_bind] at hOk
  rcases hRun : task.run.run state with ⟨result, after⟩
  rw [hRun] at hOk hResult
  cases result with
  | error failure => cases hOk
  | ok a => exact hNext a (hResult a rfl) after b hOk

/- Work that cannot fail. -/
theorem Keeps.lift
    {program : StateM σ α}
    (hProgram : NotifyScope.Keeps frame program) :
    Keeps frame (liftM program : Task (StateM σ) α) :=
  NotifyScope.Keeps.bind hProgram fun _ =>
    NotifyScope.keeps_pure _

theorem Keeps.forIn
    {step : α → Task (StateM σ) Unit}
    (hStep : ∀ a, Keeps frame (step a))
    (list : List α) :
    Keeps frame
      (forIn list PUnit.unit fun a _ => do
        step a
        pure (ForInStep.yield PUnit.unit)) := by
  induction list with
  | nil => exact keeps_pure _
  | cons a rest ih =>
      rw [List.forIn_cons, bind_assoc]
      exact (hStep a).bind fun _ => ih

end Task

------------------------------------------------------------
-- Systems
------------------------------------------------------------

namespace Host

variable [Host (StateM σ)]

/- Looking around in the system is within a frame. -/
structure Looking
    (frame : Frame σ) : Prop where
  info : ∀ path, Keeps frame (info path : StateM σ _)
  read : ∀ path, Keeps frame (read path : StateM σ _)
  entries : ∀ path, Keeps frame (entries path : StateM σ _)
  canonical :
    ∀ path, Keeps frame (canonical path : StateM σ _)
  workingDirectory :
    Keeps frame (workingDirectory : StateM σ _)
  homeDirectory : Keeps frame (homeDirectory : StateM σ _)
  environment :
    ∀ name, Keeps frame (environment name : StateM σ _)
  isTerminal : Keeps frame (isTerminal : StateM σ _)
  input : Keeps frame (input : StateM σ _)
  clock : Keeps frame (clock : StateM σ _)

/- Writing to the console is within a frame. -/
structure Talking
    (frame : Frame σ) : Prop where
  output : ∀ text, Keeps frame (output text : StateM σ _)
  complain : ∀ text, Keeps frame (complain text : StateM σ _)

/- Changing files is within a frame. -/
structure Saving
    (frame : Frame σ) : Prop where
  write :
    ∀ path data, Keeps frame (write path data : StateM σ _)
  copy :
    ∀ source path, Keeps frame (copy source path : StateM σ _)

------------------------------------------------------------
-- Questions
------------------------------------------------------------

section Looking

variable (hLook : Looking frame)
include hLook

theorem keeps_isThere
    (path : Path) :
    Keeps frame (isThere path : StateM σ Bool) :=
  (hLook.info path).bind fun result => by
    cases result <;> exact keeps_pure _

theorem keeps_isFile
    (path : Path) :
    Keeps frame (isFile path : StateM σ Bool) :=
  (hLook.info path).bind fun result => by
    cases result <;> exact keeps_pure _

theorem keeps_isDirectory
    (path : Path) :
    Keeps frame (isDirectory path : StateM σ Bool) :=
  (hLook.info path).bind fun result => by
    cases result <;> exact keeps_pure _

theorem keeps_readText
    (path : Path) :
    Keeps frame (readText path : StateM σ _) :=
  (hLook.read path).bind fun result => by
    cases result <;> exact keeps_pure _

end Looking

/- An attempt fails where the system refuses. -/
omit [Host (StateM σ)] in
theorem run_attempt
    (context : String)
    (action : StateM σ (Except HostError α))
    (state : σ) :
    (attempt context action).run.run state =
      ((action.run state).1.mapError (·.failure context),
        (action.run state).2) := by
  unfold attempt
  rw [Task.run_bind, Task.run_lift]
  rcases action.run state with ⟨result, after⟩
  cases result <;> rfl

omit [Host (StateM σ)] in
theorem keeps_attempt
    {action : StateM σ (Except HostError α)}
    (context : String)
    (hAction : Keeps frame action) :
    Task.Keeps frame (attempt context action) :=
  (Task.Keeps.lift hAction).bind fun result => by
    cases result with
    | ok value => exact Task.keeps_pure _
    | error error => exact Task.keeps_throw _

end Host

------------------------------------------------------------
-- Systems in Memory
------------------------------------------------------------

namespace InMemory

/- Nothing changes as a system in memory is looked at. -/
theorem looking
    (frame : Frame World) :
    Host.Looking frame where
  info _ := frame.refl
  read _ := frame.refl
  entries _ := frame.refl
  canonical _ := frame.refl
  workingDirectory := frame.refl
  homeDirectory := frame.refl
  environment _ := frame.refl
  isTerminal := frame.refl
  input := frame.refl
  clock := frame.refl

/- A disk is changed if nothing speaks against it. -/
theorem run_change
    (edit : Disk → Location → Except HostError Disk)
    (world : World) :
    (change edit).run world =
      match edit world.disk world.directory with
      | .error error => (.error error, world)
      | .ok disk => (.ok (), { world with disk }) := by
  unfold change
  rw [StateT.run_bind, StateT.run_get, pure_bind]
  cases edit world.disk world.directory <;> rfl

/- The files are no part of what the console shows. -/
theorem talking :
    Host.Talking
      (Frame.same fun world : World =>
        (world.disk, world.directory)) where
  output _ := fun _ => rfl
  complain _ := fun _ => rfl

end InMemory

end NotifyScope
