import FlowConsole.Proofs.Command.Authorization
import FlowConsole.Proofs.Command.RecordSource
import FlowConsole.Proofs.Restconf.AnyPath
/-!
The menu and the commands.

Each action of the menu that calls the controller has a command that does the same. The two are
dispatched apart; what holds them together is that either one is an action of the harness with its
report shown after it.
-/
namespace FlowConsole

open Record (Builtin)
open Restconf (Session)
open Restconf.Session (SameButPath)

/-! ## A line of the menu -/

namespace Menu

/-- How a rendering stands in the output: with a line end after it, or not at all if it is empty. -/
def printed (rendering : String) : String :=
  if rendering = "" then "" else rendering ++ "\n"

section

variable {h : Harness} {d : Display} {session next : Session} {line : String} {action : Action}
  (hkey : Action.ofKey? line = some action)
include hkey

end

end Menu

/-! ## A command -/

namespace Command

/-- What a command prints of a report: the menu's text, or nothing in a quiet run. -/
def Settings.shown (settings : Settings) (report : Harness.Report) : String :=
  if settings.quiet then ""
  else Menu.printed (Report.reportText settings.format settings.color report)

namespace Running

section

variable {α : Type} (settings : Settings)

end

/-! ## Side by side -/

theorem bareStart_isFile (b : Builtin) : bareStart.files.isFile b.name = false := by
  have hname : b.name.isEmpty = false ∧ '\x00' ∉ b.name.toList ∧
      Files.Path.isAbsolute b.name = false ∧ Files.Path.namesDirectory b.name = false ∧
      Files.Path.components b.name = [b.name] ∧ b.name ≠ "." ∧ b.name ≠ ".." ∧
      ¬ b.name.utf8ByteSize > Files.Tree.longestName := by
    cases b <;> decide
  obtain ⟨hne, hnul, hrelative, hfile, hcomponents, hdot, hdots, hshort⟩ := hname
  have hroot : bareStart.files.root.at? [] = some (.directory []) := rfl
  have hwalk : Files.Tree.walk bareStart.files.root true Files.Tree.linkLimit [] [b.name] =
      .ok { path := [b.name], node := none } := by
    rw [Files.Tree.walk, hroot]
    simp [hdot, hdots, hshort]
  have hplace : bareStart.files.place true b.name = .ok { path := [b.name], node := none } := by
    unfold Files.Tree.place
    simp only [hne, hnul, hrelative, hfile, hcomponents, Bool.or_false, Bool.false_eq_true, if_false]
    rw [show bareStart.files.current = [] from rfl, hwalk]
  unfold Files.Tree.isFile Files.Tree.find
  rw [hplace]
  rfl

end Running

end Command

end FlowConsole
