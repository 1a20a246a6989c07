import FlowConsole.Command.Flag
import FlowConsole.Proofs.Config.Environment
/-!
The variables that stand in for flags, where a configuration is loaded.

Their names begin as those of settings do, so all of them are read as settings as well. None of them
is the setting of a field, though: `profile` is not `profiles`, and whatever such a variable holds
stays under its own key.
-/
namespace FlowConsole.Command.Flag

open Files (Tree)

def environmentNames : List String :=
  everywhere.filterMap environmentName?

theorem mem_environmentNames_iff {name : String} :
    name ∈ environmentNames ↔ ∃ f : Flag, f.environmentName? = some name := by
  rw [environmentNames, List.mem_filterMap]
  constructor
  · rintro ⟨f, -, hname⟩
    exact ⟨f, hname⟩
  · rintro ⟨f, hname⟩
    refine ⟨f, ?_, hname⟩
    cases f with
    | force => cases hname
    | _ => decide

theorem isSetting_of_mem_environmentNames {name : String} (h : name ∈ environmentNames) :
    Environment.isSetting name = false := by
  obtain ⟨f, hname⟩ := mem_environmentNames_iff.mp h
  cases f <;> cases hname <;> decide

/-- A configuration is the same in environments that differ in the variables of flags alone. -/
theorem load_ignores_flags (tree : Tree) (path : String) {environment environment' : Environment}
    (h : environment.filter (fun v => !environmentNames.contains v.1) =
      environment'.filter fun v => !environmentNames.contains v.1) :
    Config.load tree path environment = Config.load tree path environment' :=
  Config.load_eq_of_filter_not_contains tree path
    (fun _ hname => isSetting_of_mem_environmentNames hname) h

/-- A setting between variables of flags, whose values look like settings as well. -/
def noisy : Environment :=
  [("CABLEFLOW_OUTPUT", "[json"), ("CABLEFLOW_PROFILE", "\x7bprofiles = \x7b\x7d\x7d"),
    ("CABLEFLOW_PROFILES__LAB__PORT", "9000"), ("CABLEFLOW_TIMEOUT", "soon")]

theorem load_ignores_noise :
    noisy.filter (fun v => !environmentNames.contains v.1) =
        [("CABLEFLOW_PROFILES__LAB__PORT", "9000")] ∧
      Config.load (.empty []) "/config.toml" noisy =
        Config.load (.empty []) "/config.toml" [("CABLEFLOW_PROFILES__LAB__PORT", "9000")] := by
  have hfilter : noisy.filter (fun v => !environmentNames.contains v.1) =
      [("CABLEFLOW_PROFILES__LAB__PORT", "9000")] := by decide
  exact ⟨hfilter, load_ignores_flags (.empty []) "/config.toml" hfilter⟩

end FlowConsole.Command.Flag
