import Mathlib.Tactic.SplitIfs
import NotifyScope.Inputs
import NotifyScope.Proofs.Host.Keeps

/-
  What a run does before it rewrites anything.  It finds and
  reads the settings file, the list of inputs, the files below
  directories and the ignore files, and does nothing to the
  system but look at it.

  Main declarations:
    * `Settings.keeps_load`
    * `Search.keeps_discover`
    * `Inputs.keeps_resolve`
-/

namespace NotifyScope

variable {σ : Type}
variable {frame : Frame σ}
variable [Host (StateM σ)]
variable (hLook : Host.Looking frame)

include hLook

------------------------------------------------------------
-- Settings
------------------------------------------------------------

namespace SettingsSearch

theorem keeps_firstThere?
    (paths : List Path) :
    Keeps frame (firstThere? paths : StateM σ _) := by
  induction paths with
  | nil => exact keeps_pure _
  | cons path rest ih =>
      refine (Host.keeps_isThere hLook path).bind ?_
      intro isThere
      cases isThere with
      | true => exact keeps_pure _
      | false => exact ih

theorem keeps_find?
    (start : Path) :
    Keeps frame (find? start : StateM σ _) := by
  refine (keeps_firstThere? hLook _).bind fun found => ?_
  cases found with
  | some path => exact keeps_pure _
  | none =>
      refine hLook.homeDirectory.bind fun home => ?_
      cases home with
      | none => exact keeps_pure _
      | some home => exact keeps_firstThere? hLook _

theorem keeps_here :
    Keeps frame (here : StateM σ _) :=
  hLook.workingDirectory.bind fun _ => keeps_pure _

theorem keeps_inputDirectory?
    (input : Path) :
    Keeps frame (inputDirectory? input : StateM σ _) := by
  refine (Host.keeps_isDirectory hLook input).bind ?_
  intro isDirectory
  cases isDirectory <;> exact keeps_pure _

theorem keeps_start
    (options : Options) :
    Keeps frame (start options : StateM σ _) := by
  unfold start
  split
  · exact keeps_pure _
  · exact keeps_here hLook
  · refine (keeps_inputDirectory? hLook _).bind ?_
    intro directory
    cases directory with
    | some directory => exact keeps_pure _
    | none => exact keeps_here hLook

end SettingsSearch

namespace FileSettings

theorem keeps_load
    (path : Path) :
    Task.Keeps frame (load path : Task (StateM σ) _) := by
  refine
    (Host.keeps_attempt _ (Host.keeps_readText hLook path)).bind
      fun text => ?_
  cases parse? text with
  | none => exact Task.keeps_throw _
  | some settings => exact Task.keeps_pure _

end FileSettings

namespace Settings

theorem keeps_path?
    (options : Options) :
    Task.Keeps frame (path? options : Task (StateM σ) _) := by
  unfold path?
  split
  · exact Task.keeps_pure _
  · split
    · refine
        (Task.Keeps.lift
          (SettingsSearch.keeps_start hLook options)).bind
            fun start => ?_
      exact Task.Keeps.lift
        (SettingsSearch.keeps_find? hLook start)
    · refine
        (Task.Keeps.lift
          (Host.keeps_isThere hLook _)).bind fun isThere => ?_
      cases isThere with
      | true => exact Task.keeps_pure _
      | false => exact Task.keeps_throw _

/- The settings of a run are read and nothing else. -/
theorem keeps_load
    (options : Options) :
    Task.Keeps frame (load options : Task (StateM σ) _) := by
  refine (keeps_path? hLook options).bind fun path => ?_
  cases path with
  | none => exact Task.keeps_mk_pure _
  | some path =>
      refine (FileSettings.keeps_load hLook path).bind ?_
      exact fun settings => Task.keeps_mk_pure _

end Settings

------------------------------------------------------------
-- Ignore Files
------------------------------------------------------------

namespace IgnoreRules

theorem keeps_readPatterns
    (root path : Path) :
    Keeps frame (readPatterns root path : StateM σ _) :=
  (hLook.read path).bind fun result => by
    cases result <;> exact keeps_pure _

theorem keeps_firstLine?
    (path : Path) :
    Keeps frame (firstLine? path : StateM σ _) := by
  refine (hLook.read path).bind fun result => ?_
  cases result with
  | error error => exact keeps_pure _
  | ok content =>
      dsimp only
      split <;> exact keeps_pure _

theorem keeps_dataDirectory?
    (directory : Path) :
    Keeps frame (dataDirectory? directory : StateM σ _) := by
  refine (Host.keeps_isFile hLook _).bind fun isFile => ?_
  cases isFile with
  | false => exact keeps_pure _
  | true =>
      refine (keeps_firstLine? hLook _).bind fun line => ?_
      dsimp only
      split
      · split
        · refine (keeps_firstLine? hLook _).bind fun line => ?_
          split
          · split <;> exact keeps_pure _
          · exact keeps_pure _
        · exact keeps_pure _
      · exact keeps_pure _

theorem keeps_readLevel
    (directory : Path)
    (isAbove : Bool) :
    Keeps frame
      (readLevel directory isAbove : StateM σ _) := by
  unfold readLevel
  refine (Host.keeps_isThere hLook _).bind fun isThere => ?_
  refine (Host.keeps_isThere hLook _).bind fun other => ?_
  refine (keeps_readPatterns hLook _ _).bind fun general => ?_
  refine (keeps_readPatterns hLook _ _).bind fun git => ?_
  refine (keeps_dataDirectory? hLook _).bind fun data => ?_
  cases data with
  | none => exact keeps_pure _
  | some data =>
      exact (keeps_readPatterns hLook _ _).bind fun _ =>
        keeps_pure _

theorem keeps_configuredFile?
    (home : Option Text)
    (path : Path) :
    Keeps frame (configuredFile? home path : StateM σ _) :=
  (hLook.read path).bind fun result => by
    cases result <;> exact keeps_pure _

theorem keeps_userFilePath? :
    Keeps frame (userFilePath? : StateM σ _) := by
  unfold userFilePath?
  refine hLook.homeDirectory.bind fun home => ?_
  refine (hLook.environment _).bind fun chosen => ?_
  extract_lets config behind
  clear_value config
  have hBehind : ∀ first, Keeps frame (behind first) := by
    intro first
    dsimp only [behind]
    split
    · exact keeps_pure _
    · split
      · refine (keeps_configuredFile? hLook _ _).bind ?_
        intro second
        split <;> exact keeps_pure _
      · exact keeps_pure _
  cases home with
  | none => exact hBehind none
  | some home =>
      exact (keeps_configuredFile? hLook _ _).bind hBehind

theorem keeps_readUserFile :
    Keeps frame (readUserFile : StateM σ _) := by
  refine (keeps_userFilePath? hLook).bind fun path => ?_
  cases path with
  | none => exact keeps_pure _
  | some path =>
      refine hLook.workingDirectory.bind fun directory => ?_
      refine (keeps_readPatterns hLook _ path).bind ?_
      exact fun reading => keeps_pure _

theorem keeps_enter
    (rules : IgnoreRules)
    (directory : Path) :
    Keeps frame (rules.enter directory : StateM σ _) :=
  (keeps_readLevel hLook directory false).bind fun _ =>
    keeps_pure _

theorem keeps_readAbove
    (directories : List Path)
    (rules : IgnoreRules)
    (complaints : List String) :
    Keeps frame
      (readAbove directories rules complaints :
        StateM σ _) := by
  induction directories generalizing rules complaints with
  | nil => exact keeps_pure _
  | cons directory rest ih =>
      exact (keeps_readLevel hLook directory true).bind
        fun _ => ih _ _

theorem keeps_start
    (directory : Path) :
    Keeps frame (start directory : StateM σ _) := by
  refine (keeps_readUserFile hLook).bind fun user => ?_
  refine (hLook.canonical directory).bind fun base => ?_
  cases base with
  | error error => exact keeps_pure _
  | ok base => exact keeps_readAbove hLook _ _ _

end IgnoreRules

------------------------------------------------------------
-- Searches
------------------------------------------------------------

namespace Search

/-
  A walk keeps within a frame however deep the directories are
  nested, by induction on the fuel.
-/
theorem keeps_walk
    (search : Search)
    (fuel depth : Nat)
    (rules : IgnoreRules)
    (directory : Path)
    (discovery : Discovery) :
    Keeps frame
      (search.walk fuel depth rules directory discovery :
        StateM σ _) := by
  induction fuel
    generalizing depth rules directory discovery with
  | zero => exact keeps_pure _
  | succ fuel ih =>
      unfold walk
      extract_lets behind
      have hBehind : ∀ rules, Keeps frame (behind rules) := by
        intro rules
        dsimp only [behind]
        split
        · exact keeps_pure _
        · refine (hLook.entries directory).bind fun found => ?_
          cases found with
          | error error => exact keeps_pure _
          | ok entries =>
              refine Keeps.foldlM (fun discovery entry => ?_) _ _
              split_ifs
              · exact keeps_pure _
              · exact ih _ _ _ _
              · refine (Host.keeps_isFile hLook _).bind ?_
                intro isFile
                cases isFile <;> exact keeps_pure _
              · exact keeps_pure _
      split
      · exact (IgnoreRules.keeps_enter hLook rules _).bind hBehind
      · exact (keeps_pure _).bind hBehind

theorem keeps_visit
    (search : Search)
    (discovery : Discovery)
    (path : Path) :
    Keeps frame
      (search.visit discovery path : StateM σ _) := by
  unfold visit
  refine (Host.keeps_isFile hLook path).bind fun isFile => ?_
  split
  · exact keeps_pure _
  · refine (Host.keeps_isDirectory hLook path).bind ?_
    intro isDirectory
    split
    · exact keeps_pure _
    · split
      · exact keeps_pure _
      · split
        · refine (IgnoreRules.keeps_start hLook path).bind ?_
          exact fun start => keeps_walk hLook _ _ _ _ _ _
        · exact keeps_walk hLook _ _ _ _ _ _

/- Searching for files is looking at the system. -/
theorem keeps_discover
    (search : Search)
    (paths : List Path) :
    Keeps frame (search.discover paths : StateM σ _) :=
  Keeps.foldlM (keeps_visit hLook search) paths {}

end Search

------------------------------------------------------------
-- Inputs
------------------------------------------------------------

theorem FileList.keeps_load
    (path : Path) :
    Task.Keeps frame (load path : Task (StateM σ) _) :=
  (Host.keeps_attempt _
    (Host.keeps_readText hLook path)).bind fun _ =>
      Task.keeps_pure _

namespace Inputs

theorem keeps_names
    (options : Options) :
    Task.Keeps frame
      (names options : Task (StateM σ) _) := by
  unfold names
  split
  · exact Task.keeps_pure _
  · exact (FileList.keeps_load hLook _).bind fun _ =>
      Task.keeps_pure _

/- Finding the files of a run is looking at the system. -/
theorem keeps_resolve
    (options : Options)
    (settings : Settings) :
    Task.Keeps frame
      (resolve options settings : Task (StateM σ) _) := by
  refine (keeps_names hLook options).bind fun names => ?_
  dsimp only
  split
  · split
    · exact Task.keeps_throw _
    · exact Task.Keeps.lift (Search.keeps_discover hLook _ _)
  · exact Task.keeps_pure _

end Inputs

end NotifyScope
