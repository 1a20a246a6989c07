import FlowConsole.Proofs.Command.Traffic
import FlowConsole.Proofs.TwoRuns
/-!
How results are shown, and what is done.

Two runs whose options differ in how results are shown do the same: they make the same calls, leave
the same files and end alike. Only what they print may differ, and a quiet run of most commands
prints nothing.
-/
namespace FlowConsole

/-- The commands whose only output is a result. -/
inductive Command.IsSilenceable : Command → Prop
  | topology : IsSilenceable .topology
  | flows (command : Command.Flows) : IsSilenceable (.flows command)
  | stats : IsSilenceable .stats
  | cmts (command : Command.Cmts) : IsSilenceable (.cmts command)
  | fixtures (command : Command.Fixtures) : IsSilenceable (.fixtures command)
  | configShow : IsSilenceable (.config .show)

namespace Command

/-! ## What is left of options and settings -/

/-- Options without what they say about showing results. Of the output only whether there is a
format is kept: without one the configured one must be good. -/
def Options.work (o : Options) : Options :=
  { o with output := o.output.map fun _ => .table, color := .auto, quiet := false }

def Settings.work (s : Settings) : Settings :=
  { s with format := .table, color := false, quiet := false }

/-- Whether two states of runs are the same but for what has been printed. -/
structure Effects.SameWork (e e' : Effects) : Prop where
  files : e.files = e'.files
  controller : e.controller = e'.controller

theorem Effects.SameWork.refl (e : Effects) : e.SameWork e := ⟨rfl, rfl⟩

/-- Whether nothing has been printed on output from one state of a run to another. -/
def Effects.SameOutput (before after : Effects) : Prop := after.output = before.output

instance : IsPreorder Effects Effects.SameOutput where
  refl _ := rfl
  trans _ _ _ h h' := h'.trans h

/-- Whether two parts of runs do the same work: they end alike, and leave files and controller
alike. -/
abbrev Running.SameWork {α : Type} (x x' : Running α) : Prop := Agrees Effects.SameWork Eq x x'

section

variable {o o' : Options} (h : o.work = o'.work)
include h

theorem Options.field_eq {α : Type} (field : Options → α)
    (hfield : ∀ o : Options, field o.work = field o) : field o = field o' := by
  rw [← hfield o, h, hfield]

theorem Options.format_matches (configured : String) :
    Matches (fun _ _ => True) (o.format configured) (o'.format configured) := by
  have houtput : o.output.isSome = o'.output.isSome :=
    Options.field_eq h (·.output.isSome) fun o => by simp [work]
  unfold format
  cases ho : o.output with
  | none =>
      rw [ho, Option.isSome_none, eq_comm, Option.isSome_eq_false_iff,
        Option.isNone_iff_eq_none] at houtput
      rw [houtput]
      exact (matches_refl _).mono fun _ _ _ => trivial
  | some f =>
      rw [ho, Option.isSome_some, eq_comm, Option.isSome_iff_exists] at houtput
      obtain ⟨f', hf'⟩ := houtput
      rw [hf']
      exact .ok trivial

theorem Options.controller_eq (c : Harness.Settings) : o.controller c = o'.controller c := by
  unfold controller login?
  rw [field_eq h host fun _ => rfl, field_eq h port fun _ => rfl,
    field_eq h username fun _ => rfl, field_eq h password fun _ => rfl,
    field_eq h noAuth fun _ => rfl, field_eq h timeout fun _ => rfl,
    field_eq h node fun _ => rfl, field_eq h table fun _ => rfl]

theorem Settings.ofConfig_sameWork (c : Config) (environment : Environment) :
    Matches (fun chosen chosen' => chosen.work = chosen'.work) (ofConfig c o environment)
      (ofConfig c o' environment) := by
  unfold ofConfig
  rw [Options.field_eq h (·.profile) fun _ => rfl, Options.field_eq h (·.fixturesDir) fun _ => rfl,
    Options.field_eq h (·.extension) fun _ => rfl, Options.field_eq h (·.yes) fun _ => rfl]
  cases c.profile? o'.profile with
  | none => exact .error _
  | some selected =>
      obtain ⟨name, p⟩ := selected
      refine (matches_refl _).bind ?_
      rintro base _ rfl
      rw [Options.controller_eq h]
      refine (matches_refl _).bind ?_
      rintro controller _ rfl
      exact (Options.format_matches h _).bind fun _ _ _ => .ok rfl

end

section

variable {chosen chosen' : Settings} (h : chosen.work = chosen'.work)
include h

theorem Settings.field_eq {α : Type} (field : Settings → α)
    (hfield : ∀ s : Settings, field s.work = field s) : field chosen = field chosen' := by
  rw [← hfield chosen, h, hfield]

theorem Settings.controller_eq : chosen.controller = chosen'.controller :=
  field_eq h controller fun _ => rfl

theorem Settings.scan_eq (files : Files.Tree) :
    Running.scan chosen files = Running.scan chosen' files :=
  field_eq h (Running.scan · files) fun _ => rfl

end

namespace Running

/-! ## Steps -/

/-- Whether a part of a run does nothing but print. -/
def Prints (x : Running Unit) : Prop := ∀ e, (x e).1 = .ok () ∧ (x e).2.SameWork e

theorem prints_print (text : String) : Prints (print text) := fun _ => ⟨rfl, ⟨rfl, rfl⟩⟩

theorem prints_notify (text : String) : Prints (notify text) := fun _ => ⟨rfl, ⟨rfl, rfl⟩⟩

theorem prints_pure : Prints (pure ()) := fun e => ⟨rfl, .refl e⟩

theorem prints_printResult (quiet : Bool) (text : String) : Prints (printResult quiet text) := by
  unfold printResult
  split
  · exact prints_pure
  · exact prints_print _

/-- The notice that there are no switches takes the place of an empty table only, but it is a thing
that is printed too. -/
theorem prints_statistics (settings : Settings) (switches : List Record.SwitchCounters) : Prints
    (if switches.isEmpty && settings.format == .table && !settings.quiet then
      notify "No switches reported flow statistics\n"
    else printResult settings.quiet (Report.statisticsText settings.format switches)) := by
  split
  · exact prints_notify _
  · exact prints_printResult _ _

theorem Prints.sameWork {x x' : Running Unit} (h : Prints x) (h' : Prints x') : SameWork x x' := by
  intro e e' he
  obtain ⟨hresult, hstate⟩ := h e
  obtain ⟨hresult', hstate'⟩ := h' e'
  refine ⟨?_, hstate.files.trans (he.files.trans hstate'.files.symm),
    hstate.controller.trans (he.controller.trans hstate'.controller.symm)⟩
  rw [hresult, hresult']
  exact .ok rfl

theorem printResult_sameWork (quiet quiet' : Bool) (text text' : String) :
    SameWork (printResult quiet text) (printResult quiet' text') :=
  (prints_printResult quiet text).sameWork (prints_printResult quiet' text')

theorem set_sameWork {e e' : Effects} (he : e.SameWork e') :
    SameWork (set e : Running Unit) (set e') := fun _ _ _ => ⟨.ok rfl, he⟩

section

variable {α : Type}

theorem ofExcept_sameWork (r : Except Error α) : SameWork (ofExcept r) (ofExcept r) := by
  cases r with
  | ok a => exact agrees_pure rfl
  | error e => exact agrees_throw e

theorem ofConfig_sameWork (s : Surroundings) (r : Except Config.Error α) :
    SameWork (ofConfig s r) (ofConfig s r) := by
  refine agrees_get_bind fun e e' he => ?_
  rw [he.files]
  exact ofExcept_sameWork _

theorem onSession_sameWork {chosen chosen' : Settings}
    (h : chosen.controller = chosen'.controller) (action : Harness.Action α) :
    SameWork (onSession chosen action) (onSession chosen' action) := by
  intro e e' he
  dsimp only [onSession]
  rw [h, he.controller]
  exact ⟨matches_refl _, he.files, rfl⟩

theorem record_sameWork (h : Harness) (argument : String) :
    SameWork (record h argument) (record h argument) := by
  refine agrees_get_bind fun e e' he => ?_
  rw [he.files]
  split
  · split
    · exact agrees_throw _
    · split
      · exact agrees_pure rfl
      · exact agrees_throw _
  · exact ofExcept_sameWork _

end

theorem namingProfile_sameWork {x x' : Running Unit} (h : SameWork x x') (profile : String) :
    SameWork (namingProfile profile x) (namingProfile profile x') := fun e e' he =>
  ⟨(h e e' he).1.mapError _, (h e e' he).2⟩

/-! ## With settings -/

section

variable {chosen chosen' : Settings} (h : chosen.work = chosen'.work)
include h

theorem fixtures_sameWork (c : Fixtures) : SameWork (fixtures chosen c) (fixtures chosen' c) := by
  refine agrees_get_bind fun e e' he => ?_
  rw [he.files, Settings.scan_eq h]
  refine (ofExcept_sameWork _).bind_eq fun store => ?_
  cases c with
  | list => exact printResult_sameWork _ _ _ _
  | «show» name =>
      dsimp only
      split
      · exact printResult_sameWork _ _ _ _
      · exact agrees_throw _

theorem change_sameWork (harness : Harness)
    (operation : Json.Value → Restconf.Action Restconf.Outcome) (argument : String) :
    SameWork (change harness chosen operation argument)
      (change harness chosen' operation argument) := by
  refine (record_sameWork harness argument).bind_eq fun v => ?_
  exact (onSession_sameWork (Settings.controller_eq h) _).bind_eq fun _ =>
    printResult_sameWork _ _ _ _

theorem flows_sameWork (harness : Harness) (c : Flows) :
    SameWork (flows harness chosen c) (flows harness chosen' c) := by
  have hcontroller := Settings.controller_eq h
  cases c with
  | list => exact (onSession_sameWork hcontroller _).bind_eq fun _ => printResult_sameWork _ _ _ _
  | add argument => exact change_sameWork h harness _ argument
  | addSeveral =>
      exact (onSession_sameWork hcontroller _).bind_eq fun _ => printResult_sameWork _ _ _ _
  | update argument => exact change_sameWork h harness _ argument
  | remove argument => exact change_sameWork h harness _ argument
  | removeAll =>
      have hsweep : SameWork
          (onSession chosen harness.removeAllFlows >>= fun removals =>
            printResult chosen.quiet (Report.removalsText chosen.format chosen.color removals))
          (onSession chosen' harness.removeAllFlows >>= fun removals =>
            printResult chosen'.quiet
              (Report.removalsText chosen'.format chosen'.color removals)) :=
        (onSession_sameWork hcontroller _).bind_eq fun _ => printResult_sameWork _ _ _ _
      unfold flows
      rw [Settings.field_eq h Settings.yes fun _ => rfl]
      dsimp only
      split
      · exact (agrees_throw _).bind_eq fun _ => hsweep
      · exact hsweep

theorem cmts_sameWork (harness : Harness) (c : Cmts) :
    SameWork (cmts harness chosen c) (cmts harness chosen' c) := by
  cases c with
  | add argument => exact change_sameWork h harness _ argument
  | remove argument => exact change_sameWork h harness _ argument

theorem topology_sameWork : SameWork (topology chosen) (topology chosen') :=
  (onSession_sameWork (Settings.controller_eq h) _).bind_eq fun _ => printResult_sameWork _ _ _ _

theorem statistics_sameWork : SameWork (statistics chosen) (statistics chosen') :=
  (onSession_sameWork (Settings.controller_eq h) _).bind_eq fun switches =>
    (prints_statistics chosen switches).sameWork (prints_statistics chosen' switches)

theorem menu_sameWork (s : Surroundings) (harness : Harness) :
    SameWork (menu s harness chosen) (menu s harness chosen') := by
  intro e e' he
  dsimp only [menu]
  rw [Settings.controller_eq h, he.controller]
  generalize Harness.connect chosen'.controller e'.controller = session
  obtain ⟨herror, hsession⟩ := Prod.mk.inj
    ((Menu.run_result harness { format := chosen.format, color := chosen.color } session
      s.input).trans (Menu.run_result harness _ session s.input).symm)
  rw [herror, hsession]
  exact ⟨matches_refl _, he.files, rfl⟩

theorem onController_sameWork (s : Surroundings) (harness : Harness) (c : Command) :
    SameWork (onController s harness chosen c) (onController s harness chosen' c) := by
  cases c with
  | menu => exact menu_sameWork h s harness
  | topology => exact topology_sameWork h
  | flows c => exact flows_sameWork h harness c
  | stats => exact statistics_sameWork h
  | cmts c => exact cmts_sameWork h harness c
  | fixtures _ | config _ | completions _ => exact agrees_throw _

theorem withSettings_sameWork (s : Surroundings) (c : Command) :
    SameWork (withSettings s c chosen) (withSettings s c chosen') := by
  refine agrees_get_bind fun e e' he => ?_
  have hstore : storeOf chosen c e.files = storeOf chosen' c e'.files := by
    unfold storeOf
    rw [Settings.scan_eq h, he.files]
  rw [hstore, Settings.field_eq h Settings.profile fun _ => rfl, Settings.controller_eq h]
  exact namingProfile_sameWork (onController_sameWork h s _ c) _

end

/-! ## A whole command -/

section

variable {o o' : Options} (h : o.work = o'.work) (s : Surroundings)
include h

theorem settings_sameWork :
    Agrees Effects.SameWork (fun chosen chosen' => chosen.work = chosen'.work) (settings s o)
      (settings s o') := by
  intro e e' he
  rw [settings_apply, settings_apply, he.files]
  refine ⟨Matches.mapError ?_ _, he⟩
  refine (matches_refl _).bind ?_
  rintro c _ rfl
  exact Settings.ofConfig_sameWork h c _

omit h in
theorem initialise_sameWork (quiet quiet' force : Bool) :
    SameWork (initialise s quiet force) (initialise s quiet' force) := by
  have hnotice : ∀ (notice : String) (quiet : Bool),
      Prints (if !quiet then notify notice else pure ()) := by
    intro notice quiet
    split
    · exact prints_notify _
    · exact prints_pure
  have hwritten : ∀ {e e' : Effects}, e.SameWork e' →
      ∀ (files : Files.Tree) (r : Except Config.Error Unit) (notice : String), SameWork
        (do set { e with files }; ofConfig s r; if !quiet then notify notice)
        (do set { e' with files }; ofConfig s r; if !quiet' then notify notice) := by
    intro e e' he files r notice
    have hset : Effects.SameWork { e with files } { e' with files } := ⟨rfl, he.controller⟩
    refine (set_sameWork hset).bind_eq fun _ => ?_
    exact (ofConfig_sameWork s r).bind_eq fun _ =>
      (hnotice notice quiet).sameWork (hnotice notice quiet')
  unfold initialise
  refine agrees_get_bind fun e e' he => ?_
  rw [he.files]
  dsimp only
  generalize Config.save .starter s.configPath e'.files = saved
  split
  · exact (agrees_throw _).bind_eq fun _ => hwritten he saved.2 saved.1 _
  · exact hwritten he saved.2 saved.1 _

theorem configuration_sameWork (c : Configuration) :
    SameWork (configuration s o c) (configuration s o' c) := by
  cases c with
  | init force => exact initialise_sameWork s _ _ force
  | «show» => exact (settings_sameWork h s).bind fun _ _ _ => printResult_sameWork _ _ _ _
  | path => exact (prints_print _).sameWork (prints_print _)
  | profiles =>
      refine agrees_get_bind fun e e' he => ?_
      rw [he.files]
      refine (ofConfig_sameWork s _).bind_eq fun config => ?_
      split
      · exact (prints_notify _).sameWork (prints_notify _)
      · exact (prints_print _).sameWork (prints_print _)

theorem command_sameWork (c : Command) : SameWork (command s o c) (command s o' c) := by
  have hcontroller : ∀ {c : Command}, OnController c →
      SameWork (command s o c) (command s o' c) := by
    intro c hc
    rw [command_eq hc, command_eq hc]
    exact (settings_sameWork h s).bind fun _ _ hchosen => withSettings_sameWork hchosen s c
  cases c with
  | config c => exact configuration_sameWork h s c
  | completions shell => exact agrees_pure rfl
  | fixtures c => exact (settings_sameWork h s).bind fun _ _ hchosen => fixtures_sameWork hchosen c
  | menu => exact hcontroller .menu
  | topology => exact hcontroller .topology
  | flows c => exact hcontroller (.flows c)
  | stats => exact hcontroller .stats
  | cmts c => exact hcontroller (.cmts c)

end

/-! ## Quiet runs -/

theorem notify_silent (text : String) : Follows Effects.SameOutput (notify text) := fun _ => rfl

theorem printResult_silent {quiet : Bool} (h : quiet = true) (text : String) :
    Follows Effects.SameOutput (printResult quiet text) := by
  rw [h]
  exact follows_pure ()

theorem onSession_silent {α : Type} (settings : Settings) (action : Harness.Action α) :
    Follows Effects.SameOutput (onSession settings action) := fun _ => rfl

theorem namingProfile_silent {x : Running Unit} (h : Follows Effects.SameOutput x)
    (profile : String) : Follows Effects.SameOutput (namingProfile profile x) := fun e => h e

theorem settings_quiet (s : Surroundings) (o : Options) (e : Effects) :
    Yields (settings s o e).1 fun chosen => chosen.quiet = o.quiet := by
  rw [settings_apply]
  refine Yields.mapError (yields_bind fun c => ?_) _
  unfold Settings.ofConfig
  split
  · exact yields_error _
  · exact yields_bind fun base => yields_bind fun controller => yields_bind fun format =>
      yields_ok rfl

section

variable {chosen : Settings} (h : chosen.quiet = true)
include h

theorem fixtures_silent (c : Fixtures) : Follows Effects.SameOutput (fixtures chosen c) := by
  refine follows_get.bind fun e => (ofExcept_follows _).bind fun store => ?_
  cases c with
  | list => exact printResult_silent h _
  | «show» name =>
      dsimp only
      split
      · exact printResult_silent h _
      · exact follows_throw _

theorem change_silent (harness : Harness)
    (operation : Json.Value → Restconf.Action Restconf.Outcome) (argument : String) :
    Follows Effects.SameOutput (change harness chosen operation argument) :=
  (record_follows harness argument).bind fun _ => (onSession_silent chosen _).bind fun _ =>
    printResult_silent h _

theorem flows_silent (harness : Harness) (c : Flows) :
    Follows Effects.SameOutput (flows harness chosen c) := by
  cases c with
  | list => exact (onSession_silent chosen _).bind fun _ => printResult_silent h _
  | add argument => exact change_silent h harness _ argument
  | addSeveral => exact (onSession_silent chosen _).bind fun _ => printResult_silent h _
  | update argument => exact change_silent h harness _ argument
  | remove argument => exact change_silent h harness _ argument
  | removeAll =>
      have hsweep : Follows Effects.SameOutput
          (onSession chosen harness.removeAllFlows >>= fun removals =>
            printResult chosen.quiet (Report.removalsText chosen.format chosen.color removals)) :=
        (onSession_silent chosen _).bind fun _ => printResult_silent h _
      unfold flows
      dsimp only
      split
      · exact (follows_throw _).bind fun _ => hsweep
      · exact hsweep

theorem cmts_silent (harness : Harness) (c : Cmts) :
    Follows Effects.SameOutput (cmts harness chosen c) := by
  cases c with
  | add argument => exact change_silent h harness _ argument
  | remove argument => exact change_silent h harness _ argument

theorem topology_silent : Follows Effects.SameOutput (topology chosen) :=
  (onSession_silent chosen _).bind fun _ => printResult_silent h _

theorem statistics_silent : Follows Effects.SameOutput (statistics chosen) := by
  refine (onSession_silent chosen _).bind fun switches => ?_
  split
  · exact notify_silent _
  · exact printResult_silent h _

theorem onController_silent (s : Surroundings) (harness : Harness) {c : Command}
    (hc : c.IsSilenceable) : Follows Effects.SameOutput (onController s harness chosen c) := by
  cases hc with
  | topology => exact topology_silent h
  | flows c => exact flows_silent h harness c
  | stats => exact statistics_silent h
  | cmts c => exact cmts_silent h harness c
  | fixtures | configShow => exact follows_throw _

theorem withSettings_silent (s : Surroundings) {c : Command} (hc : c.IsSilenceable) :
    Follows Effects.SameOutput (withSettings s c chosen) :=
  follows_get.bind fun _ => namingProfile_silent (onController_silent h s _ hc) _

end

/-- A quiet run of a command that can be silenced prints nothing on output, whether or not it
fails. -/
theorem command_silent (s : Surroundings) {o : Options} (hquiet : o.quiet = true) {c : Command}
    (hc : c.IsSilenceable) : Follows Effects.SameOutput (command s o c) := by
  have hsettings : ∀ {f : Settings → Running Unit},
      (∀ chosen : Settings, chosen.quiet = true → Follows Effects.SameOutput (f chosen)) →
        Follows Effects.SameOutput (settings s o >>= f) := fun hf =>
    (settings_follows s o).bind_yields (settings_quiet s o) fun chosen hchosen =>
      hf chosen (hchosen.trans hquiet)
  cases hc with
  | topology => exact hsettings fun _ h => withSettings_silent h s .topology
  | flows c => exact hsettings fun _ h => withSettings_silent h s (.flows c)
  | stats => exact hsettings fun _ h => withSettings_silent h s .stats
  | cmts c => exact hsettings fun _ h => withSettings_silent h s (.cmts c)
  | fixtures c => exact hsettings fun _ h => fixtures_silent h c
  | configShow => exact hsettings fun _ _ => printResult_silent hquiet _

end Running

end Command

end FlowConsole
