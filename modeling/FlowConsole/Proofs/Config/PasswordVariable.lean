import FlowConsole.Config.Resolve
import FlowConsole.Proofs.Config.Environment
import FlowConsole.Proofs.Config.Notation
import FlowConsole.Proofs.Config.OneSetting
import FlowConsole.Proofs.Files.Tree
import FlowConsole.Proofs.Text.Utf8
/-!
The variable of a profile's password.

The variable that is named for it sets the password of a profile and nothing else. What it sets it to
is what its value stands for, so a password that is written like a number, a truth value or the like
is no password there.
-/
namespace FlowConsole

open Entries (Sorted)

/-! ## The name of the variable -/

namespace Environment

/-- Whether a profile's name is not changed by being written in capitals and back. -/
structure IsProfileName (name : String) : Prop where
  first : ∃ c rest, name.toList = c :: rest ∧ c.isLower = true
  chars : ∀ c ∈ name.toList, c.isLower = true ∨ c.isDigit = true

def passwordVariable (name : String) : String :=
  "CABLEFLOW_PROFILES__" ++ name.map Char.toUpper ++ "__PASSWORD"

theorem toUpper_cases {c : Char} (h : c.isLower = true ∨ c.isDigit = true) :
    c.toUpper.toLower = c ∧ c.toUpper ≠ '_' ∧ c ≠ '.' := by
  have hall : ∀ n < 0x80, (Char.ofNat n).isLower = true ∨ (Char.ofNat n).isDigit = true →
      (Char.ofNat n).toUpper.toLower = Char.ofNat n ∧ (Char.ofNat n).toUpper ≠ '_' ∧
        Char.ofNat n ≠ '.' := by decide
  have hascii : c.toNat < 0x80 := by
    rcases h with h | h
    · change (decide ('a'.val ≤ c.val) && decide (c.val ≤ 'z'.val)) = true at h
      have hz : c.toNat ≤ 122 := of_decide_eq_true (Bool.and_eq_true_iff.mp h).2
      omega
    · have := Char.isDigit_iff_toNat.mp h
      have h9 : '9'.toNat = 57 := rfl
      omega
  exact Text.of_forall_ascii (P := fun c => c.isLower = true ∨ c.isDigit = true →
    c.toUpper.toLower = c ∧ c.toUpper ≠ '_' ∧ c ≠ '.') hall hascii h

theorem splitUnderscores_append {s : List Char} (h : '_' ∉ s) (t : List Char) :
    splitUnderscores (s ++ t) = s ++ splitUnderscores t := by
  induction s with
  | nil => rfl
  | cons c s ih =>
      rw [List.mem_cons, not_or] at h
      rw [List.cons_append, splitUnderscores, ih h.2]
      · rfl
      · rintro rest rfl
        exact absurd rfl h.1

theorem toList_passwordVariable (name : String) : (passwordVariable name).toList =
    "CABLEFLOW_".toList ++ ("PROFILES__".toList ++
      (name.toList.map Char.toUpper ++ "__PASSWORD".toList)) := by
  unfold passwordVariable
  rw [String.toList_append, String.toList_append, String.toList_map, List.append_assoc]
  rfl

theorem trimChars_between {c d : Char} (hc : Text.isBlank c = false) (hd : Text.isBlank d = false)
    (front middle back : List Char) :
    Text.trimChars (c :: (front ++ (middle ++ (back ++ [d])))) =
      c :: (front ++ (middle ++ (back ++ [d]))) := by
  refine Text.trimChars_eq_self (by rintro _ ⟨⟩; exact hc) fun e he => ?_
  rw [← List.cons_append, ← List.append_assoc, ← List.append_assoc, List.getLast?_concat] at he
  rwa [← Option.some.inj he]

section

variable {name : String} (h : IsProfileName name)
include h

theorem IsProfileName.toLower_toUpper :
    (name.toList.map Char.toUpper).map Char.toLower = name.toList := by
  rw [List.map_map]
  conv_rhs => rw [← List.map_id name.toList]
  exact List.map_congr_left fun d hd => (toUpper_cases (h.chars d hd)).1

theorem IsProfileName.underscore_not_mem : '_' ∉ name.toList.map Char.toUpper := by
  intro hmem
  obtain ⟨d, hd, heq⟩ := List.mem_map.mp hmem
  exact (toUpper_cases (h.chars d hd)).2.1 heq

theorem splitUnderscores_place :
    splitUnderscores ("PROFILES__".toList ++ (name.toList.map Char.toUpper ++
        "__PASSWORD".toList)) =
      "PROFILES.".toList ++ (name.toList.map Char.toUpper ++ ".PASSWORD".toList) := by
  have hnone : '_' ∉ "PROFILES".toList := by decide
  change splitUnderscores ("PROFILES".toList ++ '_' :: '_' ::
    (name.toList.map Char.toUpper ++ '_' :: '_' :: "PASSWORD".toList)) = _
  rw [splitUnderscores_append hnone, splitUnderscores,
    splitUnderscores_append h.underscore_not_mem]
  rfl

theorem splitOn_place :
    Text.splitOn '.' (("PROFILES.".toList ++
        (name.toList.map Char.toUpper ++ ".PASSWORD".toList)).map Char.toLower) =
      ["profiles".toList, name.toList, "password".toList] := by
  have hdot : ∀ c ∈ name.toList, (c == '.') = false := fun c hc =>
    beq_eq_false_iff_ne.mpr (toUpper_cases (h.chars c hc)).2.2
  rw [List.map_append, List.map_append, h.toLower_toUpper]
  change Text.splitWhere (· == '.') ("profiles".toList ++ '.' ::
    (name.toList ++ '.' :: "password".toList)) = _
  rw [Text.splitWhere_append_cons (by decide), Text.splitWhere_append_cons (by decide),
    Text.splitWhere_eq_singleton hdot]
  rfl

theorem keysOf_passwordVariable :
    keysOf (passwordVariable name) = ["profiles", name, "password"] := by
  have htext := toList_passwordVariable name
  have htrimName : Text.trimChars (passwordVariable name).toList =
      (passwordVariable name).toList := by
    rw [htext]
    exact trimChars_between (by decide) (by decide) "ABLEFLOW_PROFILES__".toList _
      "__PASSWOR".toList
  have htrimPlace := trimChars_between (c := 'P') (d := 'D') (by decide) (by decide)
    "ROFILES.".toList (name.toList.map Char.toUpper) ".PASSWOR".toList
  have hplace := splitUnderscores_place h
  have hkeys := splitOn_place h
  generalize name.toList.map Char.toUpper = upper at htext htrimPlace hplace hkeys
  have hlength : nameStart.length = 10 := by decide
  have htake : (("CABLEFLOW_".toList ++ ("PROFILES__".toList ++
      (upper ++ "__PASSWORD".toList))).take 10).map Char.toLower =
        nameStart.toList.map Char.toLower := rfl
  have hdrop : ("CABLEFLOW_".toList ++ ("PROFILES__".toList ++
      (upper ++ "__PASSWORD".toList))).drop 10 =
        "PROFILES__".toList ++ (upper ++ "__PASSWORD".toList) := rfl
  have htrimmed : Text.trimChars ("PROFILES.".toList ++ (upper ++ ".PASSWORD".toList)) =
      "PROFILES.".toList ++ (upper ++ ".PASSWORD".toList) := htrimPlace
  have hnonempty : ∀ key ∈ ["profiles".toList, name.toList, "password".toList],
      (!key.isEmpty) = true := by
    obtain ⟨c, rest, hname, -⟩ := h.first
    rw [hname]
    simp
  unfold keysOf
  simp only [htrimName, hlength]
  rw [htext, if_pos htake, hdrop, hplace, htrimmed, hkeys,
    List.takeWhile_eq_self_iff.mpr hnonempty]
  simp only [List.map_cons, List.map_nil, String.ofList_toList]

end

theorem settings_of_one {environment : Environment} {name v key : String} {rest : List String}
    (hone : environment.filter (fun v => !(keysOf v.1).isEmpty) = [(name, v)])
    (hkeys : keysOf name = key :: rest) :
    environment.settings = .map .environment [(key, nest (settingOf v) rest)] := by
  have hfold : environment.entries =
      (environment.filter fun v => !(keysOf v.1).isEmpty).foldl giveEntry [] := by
    rw [List.foldl_filter]
    unfold entries
    congr 1
    funext entries v
    unfold giveEntry
    split
    · rename_i hnone
      simp [hnone]
    · rename_i hsome
      simp [hsome]
  rw [settings_eq, hfold, hone, List.foldl_cons, List.foldl_nil, giveEntry, hkeys]
  rfl

end Environment

/-! ## Loading -/

namespace Config

open Files (Tree)

theorem fileSettings_isOrdered {tree : Tree} {path : String} {file : Setting}
    (h : fileSettings tree path = .ok file) : file.IsOrdered := by
  unfold fileSettings at h
  split at h
  · split at h
    · cases h
    · split at h
      · rw [← Except.ok.inj h]
        exact Setting.isOrdered_ofToml _
      · cases h
  · rw [← Except.ok.inj h]
    exact .map List.Pairwise.nil (by simp)

theorem builtinSettings_isOrdered : builtinSettings.IsOrdered := by
  have hdefaults : Sorted builtinDefaults := by
    unfold Sorted builtinDefaults
    decide
  rw [builtinSettings_eq]
  refine .map builtinEntries_sorted ?_
  simp only [builtinEntries, List.forall_mem_cons, List.not_mem_nil, false_implies, implies_true,
    and_true]
  refine ⟨.scalar _ _, .map hdefaults ?_, .map List.Pairwise.nil (by simp)⟩
  simp only [builtinDefaults, List.forall_mem_cons, List.not_mem_nil, false_implies, implies_true,
    and_true]
  exact ⟨.scalar _ _, .scalar _ _, .scalar _ _⟩

/-- Where the only variable is that of a password, all that it can do is to set the password. -/
theorem load_passwordVariable {tree : Tree} {path : String} {c : Config}
    (hc : load tree path [] = .ok c) {name : String} {s : Setting} {environment : Environment}
    (henvironment : environment.settings =
      .map .environment [("profiles", .map .environment [(name, Check.passwordOf s)])]) :
    ∃ q : Profile, load tree path environment =
      ((Check.under "profiles" (Check.under name (Check.under "password" Check.text)) s).mapError
        .misfit).map fun t =>
          { c with profiles := Entries.insert name { q with password := some t } c.profiles } := by
  unfold load at hc ⊢
  cases hfile : fileSettings tree path with
  | error e =>
      rw [hfile] at hc
      cases hc
  | ok file =>
      obtain ⟨entries, rfl⟩ := fileSettings_isMap tree path hfile
      have hordered := builtinSettings_isOrdered.override (fileSettings_isOrdered hfile)
      have hsorted := (fileSettings_isOrdered hfile).sorted
      generalize hbase : Setting.overrideEntries builtinEntries entries = base
      have hbuiltin : builtinSettings.override (.map .file entries) = .map .file base := by
        rw [builtinSettings_eq, Setting.override, hbase]
      have hempty : (Setting.map .file base).override (Environment.settings []) =
          .map .environment base := by
        change (Setting.map .file base).override (.map .environment []) = _
        rw [Setting.override, Setting.overrideEntries]
      obtain ⟨old, hold⟩ : ∃ old, base.lookup "profiles" = some old := by
        rw [← hbase, Setting.lookup_overrideEntries hsorted.nodup]
        cases entries.lookup "profiles" <;> exact ⟨_, rfl⟩
      have hconfig : Check.config (.map .environment base) = .ok c := by
        rw [hfile] at hc
        change (Check.config ((builtinSettings.override (.map .file entries)).override
          (Environment.settings []))).mapError LoadError.misfit = .ok c at hc
        rw [hbuiltin, hempty] at hc
        exact ok_of_mapError_ok hc
      rw [hbuiltin] at hordered
      obtain ⟨q, hq⟩ := Check.config_over hordered hconfig hold name s
      refine ⟨q, ?_⟩
      change (Check.config ((builtinSettings.override (.map .file entries)).override
        environment.settings)).mapError LoadError.misfit = _
      rw [hbuiltin, henvironment, hq]
      cases Check.under "profiles" (Check.under name (Check.under "password" Check.text)) s <;> rfl

/-- The variable of a password, the only one that gives a setting, makes any password what it holds
unless that is in some notation. -/
theorem loads_password_iff {tree : Tree} {path : String} {c : Config}
    (hc : load tree path [] = .ok c) {name v : String} (hname : Environment.IsProfileName name)
    (htrim : Text.trim v = v) {environment : Environment}
    (hone : environment.filter (fun v => !(Environment.keysOf v.1).isEmpty) =
      [(Environment.passwordVariable name, v)]) :
    (∃ c' p, load tree path environment = .ok c' ∧ c'.profiles.lookup name = some p ∧
      p.password = some v ∧ (p.passwordEnv = none → p.chosenPassword environment = v)) ↔
        ¬ Environment.IsNotation v.toList := by
  have hsettings := Environment.settings_of_one hone (Environment.keysOf_passwordVariable hname)
  obtain ⟨q, hload⟩ := load_passwordVariable hc (s := Environment.settingOf v) hsettings
  constructor
  · rintro ⟨c', p, hc', hp, hpassword, -⟩ hnotation
    rw [hload] at hc'
    obtain ⟨t, ht, rfl⟩ := exists_of_map_ok hc'
    have htext : Check.text (Environment.settingOf v) = .ok t :=
      ok_of_mapError_ok (ok_of_mapError_ok (ok_of_mapError_ok (ok_of_mapError_ok ht)))
    rw [Entries.lookup_insert_self] at hp
    obtain rfl := Option.some.inj hp
    obtain rfl : t = v := Option.some.inj hpassword
    exact Environment.text_settingOf_ne htrim hnotation htext
  · intro hplain
    rw [hload, Environment.settingOf_of_not_isNotation htrim hplain]
    refine ⟨_, _, rfl, Entries.lookup_insert_self _ _ _, rfl, fun hnone => ?_⟩
    have henvironment : q.passwordEnv = none := hnone
    simp [Profile.chosenPassword, Profile.environmentPassword?, henvironment]

/-! ## A configuration without a file -/

theorem empty_fileSettings : fileSettings (.empty []) "/config.toml" = .ok (.map .file []) := by
  have hplace : Tree.place (.empty []) true "/config.toml" =
      .ok { path := ["config.toml"], node := none } :=
    Tree.place_eq_ok_iff.mpr ⟨by decide, by decide,
      .missing _ rfl (by unfold Tree.IsName; decide) rfl, by simp⟩
  unfold fileSettings Tree.isFile Tree.find
  rw [hplace]
  rfl

theorem empty_load : load (.empty []) "/config.toml" [] = .ok .standard := by
  unfold load
  rw [empty_fileSettings]
  rfl

theorem tiger_not_isNotation : ¬ Environment.IsNotation "tiger".toList := by
  generalize htext : "tiger".toList = s
  intro h
  have hhead : ∀ {c t}, s = c :: t → c = 't' := by
    rintro c t rfl
    exact (Option.some.inj (congrArg List.head? htext)).symm
  cases h with
  | number h =>
      refine h.not_mem (c := 't') (by decide) (by decide) ?_
      rw [← htext]
      decide
  | closed h =>
      cases h with
      | literal h =>
          cases h with
          | truth b => cases b <;> exact absurd htext (by decide)
          | quoted | character => exact absurd (hhead rfl) (by decide)
      | list | map => exact absurd (hhead rfl) (by decide)

theorem loads_password_tiger :
    ∃ c' p, load (.empty []) "/config.toml"
        [("CABLEFLOW_PROFILES__LAB__PASSWORD", "tiger"), ("HOME", "/")] = .ok c' ∧
      c'.profiles.lookup "lab" = some p ∧ p.password = some "tiger" ∧
      (p.passwordEnv = none → p.chosenPassword
        [("CABLEFLOW_PROFILES__LAB__PASSWORD", "tiger"), ("HOME", "/")] = "tiger") := by
  have hlower : ∀ c ∈ ['l', 'a', 'b'], c.isLower = true := List.all_eq_true.mp rfl
  have hname : Environment.IsProfileName "lab" :=
    ⟨⟨'l', ['a', 'b'], rfl, rfl⟩, fun c hc => .inl (hlower c hc)⟩
  have htrim : Text.trim "tiger" = "tiger" := by
    rw [← String.toList_inj, Text.trim, String.toList_ofList]
    rfl
  have hvariable : Environment.passwordVariable "lab" = "CABLEFLOW_PROFILES__LAB__PASSWORD" := by
    rw [← String.toList_inj, Environment.toList_passwordVariable]
    rfl
  have hone : [("CABLEFLOW_PROFILES__LAB__PASSWORD", "tiger"), ("HOME", "/")].filter
      (fun v => !(Environment.keysOf v.1).isEmpty) =
        [(Environment.passwordVariable "lab", "tiger")] := by
    rw [hvariable]
    rfl
  exact (loads_password_iff empty_load hname htrim hone).mpr tiger_not_isNotation

theorem digits_settings :
    Environment.settings [("CABLEFLOW_PROFILES__LAB__PASSWORD", "1234")] =
      .map .environment [("profiles", .map .environment [
        ("lab", .map .environment [("password", .scalar .environment (.unsigned 1234))])])] := rfl

/-- A password of digits leaves no configuration at all. -/
theorem loads_no_password_of_digits : load (.empty []) "/config.toml" [] = .ok .standard ∧
    ∃ misfit, load (.empty []) "/config.toml"
        [("CABLEFLOW_PROFILES__LAB__PASSWORD", "1234")] = .error (.misfit misfit) ∧
      misfit.path = ["profiles", "lab", "password"] := by
  refine ⟨empty_load, ?_⟩
  unfold load
  rw [empty_fileSettings, digits_settings]
  exact ⟨_, rfl, rfl⟩

end Config

end FlowConsole
