import FlowConsole.Proofs.Config.PasswordVariable
import FlowConsole.Proofs.Config.RoundTrip
/-!
What every loaded configuration has: profiles in ascending order of their names, none named twice, and
ports of sixteen bits. So it is one that is loaded again as it was, once it was saved.
-/
namespace FlowConsole

open Entries (Sorted)
open Config (Check Setting)

/-! ## Settings of variables -/

namespace Environment

structure ReadsOrdered (fuel : Nat) : Prop where
  value : ∀ {s rest : List Char} {v : Setting}, readValue? fuel s = some (v, rest) → v.IsOrdered
  entries : ∀ {seen : List (String × Setting)} {s rest : List Char} {v : Setting}, Sorted seen →
    (∀ e ∈ seen, e.2.IsOrdered) → readEntries? fuel seen s = some (v, rest) → v.IsOrdered

theorem ReadsOrdered.value_succ {fuel : Nat} (h : ReadsOrdered fuel) {s rest : List Char}
    {v : Setting} (hread : readValue? (fuel + 1) s = some (v, rest)) : v.IsOrdered := by
  unfold readValue? at hread
  obtain ⟨⟨value, after⟩, hcore, heq⟩ := Option.map_eq_some_iff.mp hread
  obtain ⟨rfl, -⟩ := Prod.mk.inj heq
  split at hcore
  · exact h.entries Entries.sorted_nil (fun e he => nomatch he) hcore
  · obtain ⟨items, rfl⟩ := readItems?_eq_some hcore
    exact .sequence _ _
  · obtain ⟨_, -, heq⟩ := Option.map_eq_some_iff.mp hcore
    obtain ⟨rfl, -⟩ := Prod.mk.inj heq
    exact .scalar _ _

theorem ReadsOrdered.entries_succ {fuel : Nat} (h : ReadsOrdered fuel)
    {seen : List (String × Setting)} {s rest : List Char} {v : Setting} (hsorted : Sorted seen)
    (hseen : ∀ e ∈ seen, e.2.IsOrdered) (hread : readEntries? (fuel + 1) seen s = some (v, rest)) :
    v.IsOrdered := by
  have hmore : ∀ {key value}, value.IsOrdered →
      ∀ e ∈ Entries.insert key value seen, e.2.IsOrdered := by
    intro key value hvalue e he
    rcases Entries.mem_insert he with rfl | he
    · exact hvalue
    · exact hseen e he
  unfold readEntries? at hread
  split at hread
  · obtain ⟨rfl, -⟩ := Prod.mk.inj (Option.some.inj hread)
    exact .map hsorted hseen
  · split at hread
    · cases hread
    · split at hread
      · split at hread
        · rename_i hvalue
          exact h.entries (hsorted.insert _ _) (hmore (h.value hvalue)) hread
        · rename_i hvalue
          obtain ⟨rfl, -⟩ := Prod.mk.inj (Option.some.inj hread)
          exact .map (hsorted.insert _ _) (hmore (h.value hvalue))
        · cases hread
      · cases hread

theorem readsOrdered (fuel : Nat) : ReadsOrdered fuel := by
  induction fuel with
  | zero => exact ⟨nofun, nofun⟩
  | succ fuel ih => exact ⟨ih.value_succ, ih.entries_succ⟩

theorem settingOf_isOrdered (text : String) : (settingOf text).IsOrdered := by
  unfold settingOf
  split
  · rename_i hread
    exact (readsOrdered _).value hread
  · exact .scalar _ _

theorem nest_isOrdered {value : Setting} (h : value.IsOrdered) (keys : List String) :
    (nest value keys).IsOrdered := by
  induction keys with
  | nil => exact h
  | cons key rest ih =>
      refine .map (List.pairwise_singleton _ _) ?_
      rw [List.forall_mem_singleton]
      exact ih

theorem settings_isOrdered (environment : Environment) : environment.settings.IsOrdered := by
  unfold settings
  suffices h : ∀ start : Setting, start.IsOrdered → Setting.IsOrdered (environment.foldl _ start) from
    h _ (.map Entries.sorted_nil fun e he => nomatch he)
  induction environment with
  | nil => exact fun start hstart => hstart
  | cons v rest ih =>
      intro start hstart
      refine ih _ ?_
      obtain ⟨name, text⟩ := v
      dsimp only
      split
      · exact hstart
      · exact hstart.override (nest_isOrdered (settingOf_isOrdered text) _)

end Environment

/-! ## Checks -/

namespace Config

namespace Check

section

variable {σ : Type} {P : σ → Prop} {fields : List (Field σ)} {start y : σ} (hstart : P start)
include hstart

theorem fieldsOfMap_preserves {entries : List (String × Setting)}
    (hset : ∀ f ∈ fields, ∀ e ∈ entries, ∀ x y, P x → f.set e.2 x = .ok y → P y)
    (h : fieldsOfMap fields start entries = .ok y) : P y := by
  induction entries generalizing start with
  | nil => exact Except.ok.inj h ▸ hstart
  | cons entry rest ih =>
      obtain ⟨x, hx, hrest⟩ := exists_of_bind_ok h
      refine ih ?_ (fun f hf e he => hset f hf e (List.mem_cons_of_mem _ he)) hrest
      dsimp only at hx
      split at hx
      · rename_i f hfield
        exact hset f (List.mem_of_find?_eq_some hfield) _ List.mem_cons_self _ _ hstart hx
      · exact Except.ok.inj hx ▸ hstart

theorem fieldsOfSequence_preserves {name : String} {layer : Layer} {total index : Nat}
    {items : List Setting} (hset : ∀ f ∈ fields, ∀ s x y, P x → f.set s x = .ok y → P y)
    (h : fieldsOfSequence name layer total index fields start items = .ok y) : P y := by
  induction fields generalizing index start items with
  | nil => exact Except.ok.inj h ▸ hstart
  | cons f fields ih =>
      have hrest := fun f hf => hset f (List.mem_cons_of_mem _ hf)
      cases items with
      | nil =>
          rw [fieldsOfSequence] at h
          split at h
          · exact ih hstart hrest h
          · cases h
      | cons s items =>
          obtain ⟨x, hx, hmore⟩ := exists_of_bind_ok h
          have hP := hset f List.mem_cons_self _ _ _ hstart (ok_of_mapError_ok hx)
          exact ih hP hrest hmore

theorem structured_preserves {name : String} {s : Setting}
    (hset : ∀ f ∈ fields, ∀ s x y, P x → f.set s x = .ok y → P y)
    (h : structured name fields start s = .ok y) : P y := by
  unfold structured at h
  split at h
  · exact fieldsOfMap_preserves hstart (fun f hf e _ => hset f hf e.2) h
  · exact fieldsOfSequence_preserves hstart hset h
  · cases h

end

theorem field_preserves {σ α : Type} {P : σ → Prop} {key : String} {omissible : Bool}
    {check : Check α} {set : α → σ → σ} (hset : ∀ s a, check s = .ok a → ∀ x, P x → P (set a x))
    (s : Setting) (x y : σ) (hx : P x) (h : (field key omissible check set).set s x = .ok y) :
    P y := by
  obtain ⟨a, ha, rfl⟩ := exists_of_map_ok h
  exact hset s a (ok_of_mapError_ok ha) x hx

theorem natural_lt {bits : Nat} {s : Setting} {n : Nat} (h : natural bits s = .ok n) :
    n < 2 ^ bits := by
  have hcheck : ∀ {k : Int} {e : Misfit}, (if 0 ≤ k ∧ k < Nat.pow 2 bits then .ok k.toNat
      else .error e : Except Misfit Nat) = .ok n → n < 2 ^ bits := by
    intro k e h
    split at h
    · rename_i hk
      obtain rfl := Except.ok.inj h
      have hlt : k < (2 ^ bits : Nat) := hk.2
      omega
    · cases h
  unfold natural at h
  dsimp only at h
  split at h
  · exact hcheck h
  · exact hcheck h
  · cases h

theorem profile_port {s : Setting} {p : Profile} (h : profile s = .ok p) : p.port < 2 ^ 16 := by
  refine structured_preserves (P := fun p => p.port < 2 ^ 16) (by decide) ?_ h
  simp only [profileFields, List.forall_mem_cons, List.not_mem_nil, false_implies, implies_true,
    and_true]
  refine ⟨?_, ?port, ?_, ?_, ?_, ?_, ?_, ?_, ?_⟩
  case port => exact field_preserves fun s n hn x hx => natural_lt hn
  all_goals exact field_preserves fun s a ha x hx => hx

theorem profiles_map_eq_ok {layer : Layer} {entries : List (String × Setting)}
    {ps : List (String × Profile)} (h : profiles (.map layer entries) = .ok ps) :
    ps.map Prod.fst = entries.map Prod.fst ∧ ∀ e ∈ ps, e.2.port < 2 ^ 16 := by
  change entries.mapM _ = _ at h
  induction entries generalizing ps with
  | nil =>
      obtain rfl := Except.ok.inj h
      exact ⟨rfl, fun e he => nomatch he⟩
  | cons entry entries ih =>
      rw [List.mapM_cons] at h
      obtain ⟨first, hfirst, h⟩ := exists_of_bind_ok h
      obtain ⟨rest, hrest, h⟩ := exists_of_bind_ok h
      obtain ⟨p, hp, heq⟩ := exists_of_bind_ok hfirst
      obtain rfl := Except.ok.inj heq
      obtain rfl := Except.ok.inj h
      obtain ⟨hnames, hports⟩ := ih hrest
      refine ⟨by rw [List.map_cons, List.map_cons, hnames], List.forall_mem_cons.mpr ⟨?_, hports⟩⟩
      exact profile_port (ok_of_mapError_ok hp)

end Check

/-- Whether profiles ascend by their names and all their ports are ports. -/
structure IsProper (c : Config) : Prop where
  sorted : Sorted c.profiles
  ports : ∀ e ∈ c.profiles, e.2.port < 2 ^ 16

theorem isProper_of_check {layer : Layer} {entries : List (String × Setting)} {c : Config}
    (hordered : (Setting.map layer entries).IsOrdered)
    (h : Check.config (.map layer entries) = .ok c) : c.IsProper := by
  have hentries : ∀ e ∈ entries, e.2.IsOrdered := by
    cases hordered with
    | map _ hentries => exact hentries
  have hstart : IsProper { defaultProfile := none, defaults := .standard, profiles := [] } :=
    ⟨Entries.sorted_nil, fun e he => nomatch he⟩
  refine Check.fieldsOfMap_preserves hstart ?_ h
  simp only [Check.configFields, List.forall_mem_cons, List.not_mem_nil, false_implies,
    implies_true, and_true]
  refine ⟨fun e _ => ?_, fun e _ => ?_, fun e he x y hx hset => ?profiles⟩
  case profiles =>
    obtain ⟨ps, hps, rfl⟩ := exists_of_map_ok hset
    have hps := ok_of_mapError_ok hps
    have hinner := hentries e he
    obtain ⟨key, s⟩ := e
    cases s with
    | scalar | sequence => cases hps
    | map layer inner =>
        obtain ⟨hnames, hports⟩ := Check.profiles_map_eq_ok hps
        refine ⟨List.pairwise_map.mp ?_, hports⟩
        rw [hnames, List.pairwise_map]
        exact hinner.sorted
  all_goals exact Check.field_preserves (fun s a ha x hx => ⟨hx.sorted, hx.ports⟩) e.2

theorem isProper_of_load {tree : Files.Tree} {path : String} {environment : Environment}
    {c : Config} (h : load tree path environment = .ok c) : c.IsProper := by
  unfold load at h
  cases hfile : fileSettings tree path with
  | error e =>
      rw [hfile] at h
      cases h
  | ok file =>
      rw [hfile] at h
      have hordered := (builtinSettings_isOrdered.override (fileSettings_isOrdered hfile)).override
        (Environment.settings_isOrdered environment)
      change (Check.config ((builtinSettings.override file).override
        environment.settings)).mapError LoadError.misfit = _ at h
      obtain ⟨entries, hentries⟩ : ∃ entries, (builtinSettings.override file).override
          environment.settings = .map .environment entries := by
        rw [Environment.settings_eq]
        cases builtinSettings.override file <;> exact ⟨_, rfl⟩
      rw [hentries] at h hordered
      exact isProper_of_check hordered (ok_of_mapError_ok h)

/-- A configuration that was loaded, once it was saved anywhere, is loaded from there with the very
same profiles, as long as no variable gives a setting. -/
theorem load_of_saved {tree tree₁ tree₂ : Files.Tree} {path path' : String}
    {environment environment' : Environment} {c : Config} (h : load tree path environment = .ok c)
    (hsave : save c path' tree₁ = (.ok (), tree₂)) (hnone : GivesNone environment') :
    ∃ c', load tree₂ path' environment' = .ok c' ∧ c'.SameAs c ∧ c'.profiles = c.profiles := by
  have hproper := isProper_of_load h
  obtain ⟨text, htext, hread⟩ := exists_text_of_save hsave
  obtain ⟨c', hload, hsame⟩ := load_of_read hproper.sorted.nodup hproper.ports hnone htext hread
  have hlookup := Entries.lookup_eq_of_perm hproper.sorted.nodup hsame.profiles
  exact ⟨c', hload, hsame,
    (isProper_of_load hload).sorted.eq_of_lookup_eq hproper.sorted hlookup⟩

end Config

end FlowConsole
