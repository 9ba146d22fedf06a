import NotifyScope.Proofs.Host.Keeps

/-
  Two programs side by side.  They agree in a view if, from
  states that look the same in it, they give related results
  and leave states that look the same again.  What does not
  show in the view may be done by one of the two alone.

  Key definitions include:
    * `Agree`
    * `Task.Related`
    * `Task.Agree`
    * `Host.Decided`

  Main declarations:
    * `Agree.bind`
    * `Task.Agree.bind`
    * `Task.Agree.skip_left`
    * `InMemory.decided`
-/

namespace NotifyScope

variable {σ δ α β γ ε : Type}
variable {view : σ → δ}

------------------------------------------------------------
-- Programs
------------------------------------------------------------

/- From states of the same view to results that are related. -/
def Agree
    (view : σ → δ)
    (rel : α → β → Prop)
    (left : StateM σ α)
    (right : StateM σ β) : Prop :=
  ∀ first second, view first = view second →
    rel (left.run first).1 (right.run second).1 ∧
      view (left.run first).2 = view (right.run second).2

theorem agree_pure
    {rel : α → β → Prop}
    {a : α}
    {b : β}
    (hRel : rel a b) :
    Agree view rel (pure a) (pure b) :=
  fun _ _ hView => ⟨hRel, hView⟩

namespace Agree

variable {rel : α → β → Prop}
variable {fine : γ → ε → Prop}

theorem bind
    {left : StateM σ α}
    {right : StateM σ β}
    {next : α → StateM σ γ}
    {other : β → StateM σ ε}
    (hFirst : Agree view rel left right)
    (hNext : ∀ a b, rel a b →
      Agree view fine (next a) (other b)) :
    Agree view fine (left >>= next) (right >>= other) := by
  intro first second hView
  rcases hFirst first second hView with ⟨hRel, hAfter⟩
  exact hNext _ _ hRel _ _ hAfter

end Agree

------------------------------------------------------------
-- Work That Can Fail
------------------------------------------------------------

namespace Task

/- The same failure, or results that are related. -/
inductive Related
    (rel : α → β → Prop) :
    Except Failure α → Except Failure β → Prop where
  | error
      (failure : Failure) :
      Related rel (.error failure) (.error failure)
  | ok
      {a : α}
      {b : β}
      (hRel : rel a b) :
      Related rel (.ok a) (.ok b)

/- One result follows from the other if it is a function. -/
theorem map_of_related
    {change : α → β}
    {left : Except Failure α}
    {right : Except Failure β}
    (hRelated : Related (fun a b => b = change a) left right) :
    right = left.map change := by
  cases hRelated with
  | error failure => rfl
  | ok hRel => exact congrArg Except.ok hRel

/- Both pieces of work fail in the same way, or none does. -/
def Agree
    (view : σ → δ)
    (rel : α → β → Prop)
    (left : Task (StateM σ) α)
    (right : Task (StateM σ) β) : Prop :=
  NotifyScope.Agree view (Related rel) left.run right.run

variable {rel : α → β → Prop}
variable {fine : γ → ε → Prop}

theorem agree_pure
    {a : α}
    {b : β}
    (hRel : rel a b) :
    Agree view rel (pure a) (pure b) :=
  NotifyScope.agree_pure (.ok hRel)

theorem agree_throw
    (failure : Failure) :
    Agree view rel (throw failure) (throw failure) :=
  NotifyScope.agree_pure (.error failure)

namespace Agree

theorem bind
    {left : Task (StateM σ) α}
    {right : Task (StateM σ) β}
    {next : α → Task (StateM σ) γ}
    {other : β → Task (StateM σ) ε}
    (hFirst : Agree view rel left right)
    (hNext : ∀ a b, rel a b →
      Agree view fine (next a) (other b)) :
    Agree view fine (left >>= next) (right >>= other) := by
  unfold Agree
  rw [ExceptT.run_bind, ExceptT.run_bind]
  refine NotifyScope.Agree.bind hFirst ?_
  intro _ _ hRel
  cases hRel with
  | error failure =>
      exact NotifyScope.agree_pure (.error failure)
  | ok hRel => exact hNext _ _ hRel

theorem lift
    {left : StateM σ α}
    {right : StateM σ β}
    (hBoth : NotifyScope.Agree view rel left right) :
    Agree view rel (liftM left) (liftM right) :=
  hBoth.bind fun _ _ hRel =>
    NotifyScope.agree_pure (.ok hRel)

/- What does not show can come first on one side alone. -/
theorem skip_left
    {silent : StateM σ γ}
    {next : γ → Task (StateM σ) α}
    {right : Task (StateM σ) β}
    (hSilent : Keeps (.same view) silent)
    (hNext : ∀ c, Agree view rel (next c) right) :
    Agree view rel (liftM silent >>= next) right :=
  fun first second hView =>
    hNext _ _ second ((hSilent first).trans hView)

theorem skip_right
    {left : Task (StateM σ) α}
    {silent : StateM σ γ}
    {next : γ → Task (StateM σ) β}
    (hSilent : Keeps (.same view) silent)
    (hNext : ∀ c, Agree view rel left (next c)) :
    Agree view rel left (liftM silent >>= next) :=
  fun first second hView =>
    hNext _ first _ (hView.trans (hSilent second).symm)

end Agree

end Task

------------------------------------------------------------
-- Systems
------------------------------------------------------------

namespace Host

/- Attempts of the same fail in the same way. -/
theorem agree_attempt
    {action : StateM σ (Except HostError α)}
    (context : String)
    (hAction : Agree view Eq action action) :
    Task.Agree view Eq (attempt context action)
      (attempt context action) := by
  refine (Task.Agree.lift hAction).bind ?_
  rintro result _ rfl
  cases result with
  | ok value => exact Task.agree_pure rfl
  | error error => exact Task.agree_throw _

/-
  What the system does with files depends on the view, in
  which nothing else shows.
-/
structure Decided
    [Host (StateM σ)]
    (view : σ → δ) : Prop where
  looking : Looking (.same view)
  talking : Talking (.same view)
  info :
    ∀ path,
      Agree view Eq (info path : StateM σ _) (info path)
  read :
    ∀ path,
      Agree view Eq (read path : StateM σ _) (read path)
  write :
    ∀ path data,
      Agree view Eq (write path data : StateM σ _)
        (write path data)
  copy :
    ∀ source path,
      Agree view Eq (copy source path : StateM σ _)
        (copy source path)

end Host

namespace InMemory

/- What a system in memory does with files depends on. -/
def files
    (world : World) : Disk × Location :=
  (world.disk, world.directory)

theorem agree_ask
    (question : Disk → Location → Except HostError α) :
    Agree files Eq (ask question) (ask question) := by
  intro first second hView
  rcases Prod.ext_iff.mp hView with
    ⟨hDisk, hDirectory⟩
  dsimp only [files] at hDisk hDirectory
  refine ⟨?_, hView⟩
  change question first.disk first.directory =
    question second.disk second.directory
  rw [hDisk, hDirectory]

theorem agree_change
    (edit : Disk → Location → Except HostError Disk) :
    Agree files Eq (change edit) (change edit) := by
  intro first second hView
  rcases Prod.ext_iff.mp hView with
    ⟨hDisk, hDirectory⟩
  dsimp only [files] at hDisk hDirectory
  rw [run_change, run_change, hDisk, hDirectory]
  cases edit second.disk second.directory with
  | error error => exact ⟨rfl, hView⟩
  | ok disk => exact ⟨rfl, rfl⟩

/- The disk and the current directory decide all of it. -/
theorem decided :
    Host.Decided files where
  looking := looking _
  talking := talking
  info _ := agree_ask _
  read _ := agree_ask _
  write _ _ := agree_change _
  copy _ _ := agree_change _

end InMemory

end NotifyScope
