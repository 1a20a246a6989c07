import FlowConsole.Proofs.Action
import FlowConsole.Proofs.Config.Layers
import FlowConsole.Proofs.Files.Tree
/-!
A configuration that was saved is loaded again as what it was.

Saving ends with the text of the configuration in its file, or with all files as they were. Loading
needs nothing but that text, as long as no variable gives a setting.
-/
namespace FlowConsole.Config

open Files (Tree)

/-! ## Saving -/

def withDirectory (path : String) (tree : Tree) : Except Files.Error Tree :=
  match Files.Path.parent? path with
  | none => .ok tree
  | some directory => tree.makeDirectories directory

def saveText (c : Config) (path : String) : Saving Unit :=
  match text? c with
  | none => throw .unwritable
  | some text => change fun tree => tree.write path (Text.Utf8.encode text.toList)

theorem saveText_eq (c : Config) (path : String) (tree : Tree) :
    saveText c path tree =
      match text? c with
      | none => (.error .unwritable, tree)
      | some text =>
        match tree.write path (Text.Utf8.encode text.toList) with
        | .ok written => (.ok (), written)
        | .error e => (.error (.files e), tree) := by
  unfold saveText
  cases text? c <;> rfl

theorem save_eq (c : Config) (path : String) (tree : Tree) :
    save c path tree =
      match withDirectory path tree with
      | .error e => (.error (.files e), tree)
      | .ok made => saveText c path made := by
  have hsave : save c path tree =
      (change (withDirectory path) >>= fun _ => saveText c path) tree := by
    unfold save withDirectory
    cases Files.Path.parent? path <;> rfl
  rw [hsave]
  cases hmade : withDirectory path tree with
  | error e => exact bind_error (by simp only [change, hmade]) _
  | ok made =>
      have hchange : change (withDirectory path) tree = (.ok (), made) := by
        simp only [change, hmade]
      exact bind_ok hchange _

theorem read_withDirectory {path other : String} {tree made : Tree} {bytes : List UInt8}
    (h : withDirectory path tree = .ok made) (hread : tree.read other = .ok bytes) :
    made.read other = .ok bytes := by
  unfold withDirectory at h
  split at h
  · obtain rfl := Except.ok.inj h
    exact hread
  · exact Tree.read_makeDirectories h hread

theorem exists_text_of_save {c : Config} {path : String} {tree tree' : Tree}
    (h : save c path tree = (.ok (), tree')) :
    ∃ text, text? c = some text ∧ tree'.read path = .ok (Text.Utf8.encode text.toList) := by
  rw [save_eq] at h
  split at h
  · cases h
  · rw [saveText_eq] at h
    split at h
    · cases h
    · rename_i text htext
      split at h
      · rename_i written hwritten
        obtain rfl := (Prod.ext_iff.mp h).2
        exact ⟨text, htext, Tree.read_write hwritten⟩
      · cases h

theorem kept_of_save_unwritable {c : Config} {path : String} {tree tree' : Tree}
    (h : save c path tree = (.error .unwritable, tree')) : text? c = none ∧
      ∀ {other bytes}, tree.read other = .ok bytes → tree'.read other = .ok bytes := by
  rw [save_eq] at h
  split at h
  · cases h
  · rename_i made hmade
    rw [saveText_eq] at h
    split at h
    · rename_i htext
      obtain rfl := (Prod.ext_iff.mp h).2
      exact ⟨htext, fun hread => read_withDirectory hmade hread⟩
    · split at h <;> cases h

/-! ## Loading -/

theorem fileSettings_of_read {tree : Tree} {path text : String} {table : Toml.Table}
    (hread : tree.read path = .ok (Text.Utf8.encode text.toList))
    (htable : Toml.parse? text = some table) :
    fileSettings tree path = .ok (.ofToml (.table table)) := by
  unfold fileSettings
  rw [if_pos (Tree.isFile_of_read hread), Tree.readText_of_read hread]
  simp only [htable]

/-- Whether no variable gives a setting. -/
def GivesNone (environment : Environment) : Prop :=
  ∀ v ∈ environment, Environment.keysOf v.1 = []

theorem GivesNone.settings_eq {environment : Environment} (h : GivesNone environment) :
    environment.settings = .map .environment [] := by
  unfold Environment.settings
  generalize (Setting.map .environment []) = start
  induction environment generalizing start with
  | nil => rfl
  | cons v rest ih =>
      obtain ⟨name, text⟩ := v
      have hkeys : Environment.keysOf name = [] := h (name, text) List.mem_cons_self
      simp only [List.foldl_cons, hkeys]
      exact ih (fun v hv => h v (List.mem_cons_of_mem _ hv)) start

/-- Whether a configuration says the same as another one: the same defaults, the same profiles under
the same names, the same profile for whoever asks. -/
structure SameAs (c' c : Config) : Prop where
  defaults : c'.defaults = c.defaults
  profiles : c'.profiles.Perm c.profiles
  profile? : ∀ name, c'.profile? name = c.profile? name

theorem sameAs_of_perm {c : Config} (hnames : c.profileNames.Nodup)
    {profiles : List (String × Profile)} (h : profiles.Perm c.profiles) :
    SameAs { defaultProfile := some (c.defaultProfile.getD standardProfile)
             defaults := c.defaults, profiles } c where
  defaults := rfl
  profiles := h
  profile? := by
    have hlookup := Entries.lookup_eq_of_perm hnames h
    intro name
    cases name with
    | none => simp only [Config.profile?, Option.getD_some, hlookup]
    | some name => simp only [Config.profile?, hlookup]

theorem load_of_read {c : Config} (hnames : c.profileNames.Nodup)
    (hports : ∀ e ∈ c.profiles, e.2.port < 2 ^ 16) {environment : Environment}
    (hnone : GivesNone environment) {tree : Tree} {path text : String}
    (htext : text? c = some text) (hread : tree.read path = .ok (Text.Utf8.encode text.toList)) :
    ∃ c', load tree path environment = .ok c' ∧ c'.SameAs c := by
  have hfits := (text?_eq_some htext).2
  have hdefaults : ⟨["defaults"], defaultsEntries c.defaults⟩ ∈ sections c :=
    List.mem_cons_of_mem _ List.mem_cons_self
  have hprofile : ∀ e ∈ c.profiles, profileSection e.1 e.2 ∈ sections c := by
    intro e he
    refine List.mem_cons_of_mem _ (List.mem_cons_of_mem _ ?_)
    rw [if_neg (by simpa using List.ne_nil_of_mem he)]
    exact List.mem_map_of_mem he
  obtain ⟨profiles, hperm, hconfig⟩ := config_layered hnames hports (hfits _ hdefaults).2
    (fun e he => (hfits _ (hprofile e he)).2) .environment
  refine ⟨_, ?_, sameAs_of_perm hnames hperm⟩
  unfold load
  rw [fileSettings_of_read hread (parse?_text hnames htext), hnone.settings_eq, builtinSettings_eq]
  change (Check.config (.map .environment (layered c))).mapError LoadError.misfit = _
  rw [hconfig]
  rfl

/-- Whether files refuse to take what is written to a path, or its directory. -/
def Refuses (tree : Tree) (path : String) (problem : Files.Error) : Prop :=
  withDirectory path tree = .error problem ∨
    ∃ made bytes, withDirectory path tree = .ok made ∧ made.write path bytes = .error problem

theorem refuses_of_save {c : Config} {path : String} {tree tree' : Tree} {e : Error}
    (h : save c path tree = (.error e, tree')) (hwritable : e ≠ .unwritable) :
    ∃ problem, e = .files problem ∧ Refuses tree path problem := by
  rw [save_eq] at h
  split at h
  · rename_i problem hproblem
    obtain rfl := Except.error.inj (Prod.ext_iff.mp h).1
    exact ⟨problem, rfl, .inl hproblem⟩
  · rename_i made hmade
    rw [saveText_eq] at h
    split at h
    · obtain rfl := Except.error.inj (Prod.ext_iff.mp h).1
      exact absurd rfl hwritable
    · split at h
      · cases h
      · rename_i problem hproblem
        obtain rfl := Except.error.inj (Prod.ext_iff.mp h).1
        exact ⟨problem, rfl, .inr ⟨made, _, hmade, hproblem⟩⟩

/-- A configuration whose names are all different and whose ports are ports, once saved, is loaded
again as what it was. One with a number that no file can hold is not saved, and files stay as they
are. Nothing else but the files themselves keeps a configuration from being saved. -/
theorem save_loads_again {c : Config} (hnames : c.profileNames.Nodup)
    (hports : ∀ e ∈ c.profiles, e.2.port < 2 ^ 16) {environment : Environment}
    (hnone : GivesNone environment) (path : String) (tree tree' : Tree) :
    (save c path tree = (.ok (), tree') →
      (∀ n ∈ c.numbers, n ≤ largestNumber) ∧
        ∃ c', load tree' path environment = .ok c' ∧ c'.SameAs c) ∧
    (save c path tree = (.error .unwritable, tree') →
      (∃ n ∈ c.numbers, largestNumber < n) ∧
        ∀ other bytes, tree.read other = .ok bytes → tree'.read other = .ok bytes) ∧
    ∀ e, save c path tree = (.error e, tree') → e ≠ .unwritable →
      ∃ problem, e = .files problem ∧ Refuses tree path problem := by
  refine ⟨fun h => ?_, fun h => ?_, fun e h hwritable => refuses_of_save h hwritable⟩
  · obtain ⟨text, htext, hread⟩ := exists_text_of_save h
    have hnumbers := (text?_isSome_iff hports).mp (Option.isSome_iff_exists.mpr ⟨text, htext⟩)
    exact ⟨hnumbers, load_of_read hnames hports hnone htext hread⟩
  · obtain ⟨htext, hkept⟩ := kept_of_save_unwritable h
    refine ⟨?_, fun other bytes hread => hkept hread⟩
    by_contra hnumbers
    push Not at hnumbers
    have hsome := (text?_isSome_iff hports).mpr hnumbers
    rw [htext] at hsome
    cases hsome

/-! ## A configuration in the root -/

theorem withDirectory_of_root {path : String} (hparent : Files.Path.parent? path = some "/")
    {t : Tree} (hroot : t.root.isDirectory = true) : withDirectory path t = .ok t := by
  have hplace : ∀ followLast, t.place followLast "/" = .ok { path := [], node := some t.root } :=
    fun followLast => Tree.place_eq_ok_iff.mpr ⟨by decide, by decide, .arrived _ _, by
      rintro - node ⟨⟩
      exact hroot⟩
  have hmake : t.makeDirectory "/" = .error .exists := by
    unfold Tree.makeDirectory
    rw [hplace]
  have hdirectory : t.isDirectory "/" = true := by
    unfold Tree.isDirectory Tree.find
    rw [hplace]
    exact hroot
  unfold withDirectory
  rw [hparent]
  simp only [Tree.makeDirectories, Tree.makeDirectoriesFrom, hmake, hdirectory]
  rfl

def unwritable : Config :=
  { starter with defaults := { Defaults.standard with timeout := some 0x8000000000000000 } }

/-- The starter configuration is saved and loaded again, and stays in its file when a configuration
that cannot be written is to take its place. -/
theorem save_loads_starter_again : ∃ tree₁ tree₂ : Tree,
    save starter "/config.toml" (.empty []) = (.ok (), tree₁) ∧
    (∃ c', load tree₁ "/config.toml" [("HOME", "/")] = .ok c' ∧ c'.SameAs starter) ∧
    save unwritable "/config.toml" tree₁ = (.error .unwritable, tree₂) ∧
    (∃ n ∈ unwritable.numbers, largestNumber < n) ∧
    ∀ other bytes, tree₁.read other = .ok bytes → tree₂.read other = .ok bytes := by
  have hparent : Files.Path.parent? "/config.toml" = some "/" := by decide
  have hnone : GivesNone [("HOME", "/")] := by
    unfold GivesNone
    decide
  have htext : text? starter = some (Toml.documentText (sections starter)) := by
    unfold text?
    exact if_pos (by decide)
  have hbig : text? unwritable = none := by
    unfold text?
    exact if_neg (by decide)
  generalize hbytes : Text.Utf8.encode (Toml.documentText (sections starter)).toList = bytes
  have hwrite : (Tree.empty []).write "/config.toml" bytes =
      .ok ((Tree.empty []).put ["config.toml"] (.file bytes)) := by
    have hplace : (Tree.empty []).place true "/config.toml" =
        .ok { path := ["config.toml"], node := none } :=
      Tree.place_eq_ok_iff.mpr ⟨by decide, by decide,
        .missing _ rfl (by unfold Tree.IsName; decide) rfl, by simp⟩
    unfold Tree.write
    rw [hplace]
    rfl
  have hsave : save starter "/config.toml" (.empty []) =
      (.ok (), (Tree.empty []).put ["config.toml"] (.file bytes)) := by
    rw [save_eq, withDirectory_of_root hparent rfl]
    dsimp only
    rw [saveText_eq, htext]
    dsimp only
    rw [hbytes, hwrite]
  have hsaveBig : ∀ t : Tree, t.root.isDirectory = true →
      save unwritable "/config.toml" t = (.error .unwritable, t) := by
    intro t hroot
    rw [save_eq, withDirectory_of_root hparent hroot]
    dsimp only
    rw [saveText_eq, hbig]
  obtain ⟨-, hloads⟩ := (save_loads_again (by decide) (by decide) hnone _ _ _).1 hsave
  have hbigNames : unwritable.profileNames.Nodup := by decide
  have hbigPorts : ∀ e ∈ unwritable.profiles, e.2.port < 2 ^ 16 := by decide
  obtain ⟨hlarge, hkept⟩ := (save_loads_again hbigNames hbigPorts hnone _ _ _).2.1
    (hsaveBig ((Tree.empty []).put ["config.toml"] (.file bytes)) rfl)
  exact ⟨_, _, hsave, hloads, hsaveBig _ rfl, hlarge, hkept⟩

end FlowConsole.Config
