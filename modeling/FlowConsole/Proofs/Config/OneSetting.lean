import FlowConsole.Proofs.Config.Environment
/-!
Settings with one more setting put among them.

All that is read of the others stays as it was. What is read of the new one takes the place of what
was there, or is what is wrong with the whole.
-/
namespace FlowConsole

open Entries (Sorted)

/-- Entries with their values worked out; the first that fails ends it. -/
def Entries.mapValues {ε α β : Type} (f : String → α → Except ε β) (entries : List (String × α)) :
    Except ε (List (String × β)) :=
  entries.mapM fun entry => do
    let b ← f entry.1 entry.2
    .ok (entry.1, b)

namespace Entries

variable {ε α β : Type} {f : String → α → Except ε β}

theorem mapValues_cons (entry : String × α) (entries : List (String × α)) :
    mapValues f (entry :: entries) = (f entry.1 entry.2).bind fun b =>
      (mapValues f entries).map fun values => (entry.1, b) :: values := by
  rw [mapValues, List.mapM_cons]
  cases f entry.1 entry.2 with
  | error e => rfl
  | ok b =>
      change (mapValues f entries >>= fun values => pure ((entry.1, b) :: values)) =
        (mapValues f entries).map fun values => (entry.1, b) :: values
      cases mapValues f entries <;> rfl

theorem mapValues_cons_eq_ok {entry : String × α} {entries : List (String × α)}
    {values : List (String × β)} (h : mapValues f (entry :: entries) = .ok values) :
    ∃ b rest, f entry.1 entry.2 = .ok b ∧ mapValues f entries = .ok rest ∧
      values = (entry.1, b) :: rest := by
  rw [mapValues_cons] at h
  obtain ⟨b, hb, h⟩ := exists_of_bind_ok h
  obtain ⟨rest, hrest, rfl⟩ := exists_of_map_ok h
  exact ⟨b, rest, hb, hrest, rfl⟩

theorem lookup_mapValues {entries : List (String × α)} {values : List (String × β)}
    (h : mapValues f entries = .ok values) {key : String} {a : α}
    (hkey : entries.lookup key = some a) : ∃ b, f key a = .ok b ∧ values.lookup key = some b := by
  induction entries generalizing values with
  | nil => cases hkey
  | cons entry entries ih =>
      obtain ⟨b, rest, hb, hrest, rfl⟩ := mapValues_cons_eq_ok h
      by_cases heq : key = entry.1
      · subst heq
        rw [List.lookup_cons_self] at hkey ⊢
        obtain rfl := Option.some.inj hkey
        exact ⟨b, hb, rfl⟩
      · rw [lookup_cons_of_ne heq] at hkey ⊢
        exact ih hrest hkey

theorem mapValues_insert {entries : List (String × α)} {values : List (String × β)}
    (h : mapValues f entries = .ok values) (key : String) (a : α) :
    mapValues f (insert key a entries) = (f key a).map fun b => insert key b values := by
  induction entries generalizing values with
  | nil =>
      obtain rfl := Except.ok.inj h
      rw [insert, mapValues_cons]
      cases f key a <;> rfl
  | cons entry entries ih =>
      obtain ⟨b, rest, hb, hrest, rfl⟩ := mapValues_cons_eq_ok h
      rw [insert]
      by_cases hlt : key < entry.1
      · rw [if_pos hlt, mapValues_cons, h]
        simp only [insert, if_pos hlt]
        cases f key a <;> rfl
      · rw [if_neg hlt]
        by_cases heq : key = entry.1
        · rw [if_pos heq, mapValues_cons, hrest]
          simp only [insert, if_neg hlt, if_pos heq]
          cases f key a <;> rfl
        · rw [if_neg heq, mapValues_cons, ih hrest, hb]
          simp only [insert, if_neg hlt, if_neg heq]
          cases f key a <;> rfl

end Entries

namespace Config.Check

variable {σ α : Type}

/-- Whether an update can be done before or after a field is set. -/
def Field.LetsThrough (f : Field σ) (update : σ → σ) : Prop :=
  ∀ s x, f.set s (update x) = (f.set s x).map update

theorem field_letsThrough {key : String} {omissible : Bool} {check : Check α} {set : α → σ → σ}
    {update : σ → σ} (h : ∀ a x, set a (update x) = update (set a x)) :
    (field key omissible check set).LetsThrough update := by
  intro s x
  simp only [field]
  cases under key check s with
  | error e => rfl
  | ok a => exact congrArg Except.ok (h a x)

/-- Whether all fields but that of a key let an update through. -/
def OthersLetThrough (fields : List (Field σ)) (key : String) (update : σ → σ) : Prop :=
  ∀ f ∈ fields, f.key ≠ key → f.LetsThrough update

theorem fieldsOfMap_cons (fields : List (Field σ)) (x : σ) (entry : String × Setting)
    (entries : List (String × Setting)) :
    fieldsOfMap fields x (entry :: entries) =
      (match fields.find? fun f : Field σ => f.key == entry.1 with
        | some f => f.set entry.2 x
        | none => .ok x).bind fun y => fieldsOfMap fields y entries :=
  List.foldlM_cons ..

theorem fieldsOfMap_update {fields : List (Field σ)} {key : String} {update : σ → σ}
    (h : OthersLetThrough fields key update) {entries : List (String × Setting)}
    (hkey : key ∉ entries.map Prod.fst) (x : σ) :
    fieldsOfMap fields (update x) entries = (fieldsOfMap fields x entries).map update := by
  induction entries generalizing x with
  | nil => rfl
  | cons entry entries ih =>
      rw [List.map_cons, List.mem_cons, not_or] at hkey
      rw [fieldsOfMap_cons, fieldsOfMap_cons]
      cases hfind : fields.find? fun f => f.key == entry.1 with
      | none => exact ih hkey.2 x
      | some f =>
          have hne : f.key ≠ key := by
            rintro rfl
            exact hkey.1 (by simpa using List.find?_some hfind)
          dsimp only
          rw [h f (List.mem_of_find?_eq_some hfind) hne]
          cases f.set entry.2 x with
          | error e => rfl
          | ok y => exact ih hkey.2 y

section

variable {fields : List (Field σ)} {key : String} {omissible : Bool} {check : Check α}
  {set : α → σ → σ}
  (hfield : (fields.find? fun f => f.key == key) = some (field key omissible check set))
  (hthrough : ∀ a, OthersLetThrough fields key (set a))
include hfield hthrough

theorem fieldsOfMap_cons_field {entries : List (String × Setting)}
    (hkey : key ∉ entries.map Prod.fst) (x : σ) (s : Setting) :
    fieldsOfMap fields x ((key, s) :: entries) = (under key check s).bind fun a =>
      (fieldsOfMap fields x entries).map (set a) := by
  rw [fieldsOfMap_cons, hfield]
  simp only [field]
  cases under key check s with
  | error e => rfl
  | ok a => exact fieldsOfMap_update (hthrough a) hkey x

/-- The setting of one field, put among settings that pass, is all that can fail, and its field is all
that changes. -/
theorem fieldsOfMap_insert (hlast : ∀ a b x, set a (set b x) = set a x)
    {entries : List (String × Setting)} (hsorted : Sorted entries) {x y : σ}
    (h : fieldsOfMap fields x entries = .ok y) (s : Setting) :
    fieldsOfMap fields x (Entries.insert key s entries) =
      (under key check s).map fun a => set a y := by
  have hput : ∀ {entries x y}, key ∉ entries.map Prod.fst → fieldsOfMap fields x entries = .ok y →
      fieldsOfMap fields x ((key, s) :: entries) = (under key check s).map fun a => set a y := by
    intro entries x y hkey h
    rw [fieldsOfMap_cons_field hfield hthrough hkey, h]
    cases under key check s <;> rfl
  induction entries generalizing x with
  | nil => exact hput (by simp) h
  | cons entry entries ih =>
      obtain ⟨k, old⟩ := entry
      obtain ⟨hfirst, hrest⟩ := List.pairwise_cons.mp hsorted
      have hkept : k ∉ entries.map Prod.fst := by
        intro hmem
        obtain ⟨e, he, rfl⟩ := List.mem_map.mp hmem
        exact absurd (hfirst e he) (lt_irrefl _)
      rw [Entries.insert]
      split
      · rename_i hlt
        refine hput ?_ h
        rw [List.map_cons, List.mem_cons, not_or]
        refine ⟨ne_of_lt hlt, fun hmem => ?_⟩
        obtain ⟨e, he, rfl⟩ := List.mem_map.mp hmem
        exact absurd (String.lt_trans hlt (hfirst e he)) (lt_irrefl _)
      · split
        · rename_i heq
          subst heq
          -- the setting that was there has left no trace but in the same field
          rw [fieldsOfMap_cons_field hfield hthrough hkept] at h
          obtain ⟨b, -, h⟩ := exists_of_bind_ok h
          obtain ⟨z, hx, rfl⟩ := exists_of_map_ok h
          simp only [hput hkept hx, hlast]
        · rw [fieldsOfMap_cons] at h ⊢
          obtain ⟨w, hw, h⟩ := exists_of_bind_ok h
          rw [hw]
          exact ih hrest h

end

/-! ## The password among the settings -/

theorem profile_insert {layer layer' : Layer} {entries : List (String × Setting)}
    (hsorted : Sorted entries) {p : Profile} (h : profile (.map layer entries) = .ok p)
    (s : Setting) :
    profile (.map layer' (Entries.insert "password" s entries)) =
      (under "password" (optional text) s).map fun a => { p with password := a } := by
  have hfield : (profileFields.find? fun f => f.key == "password") =
      some (field "password" false (optional text) fun a x => { x with password := a }) := rfl
  rw [profile] at h ⊢
  refine fieldsOfMap_insert hfield (fun a => ?_) (fun _ _ _ => rfl) hsorted h s
  intro f hf hkey
  simp only [profileFields, List.mem_cons, List.not_mem_nil, or_false] at hf
  rcases hf with rfl | rfl | rfl | rfl | rfl | rfl | rfl | rfl | rfl
  all_goals
    first
    | exact absurd rfl hkey
    | exact field_letsThrough fun _ _ => rfl

theorem config_insert {layer layer' : Layer} {entries : List (String × Setting)}
    (hsorted : Sorted entries) {c : Config} (h : config (.map layer entries) = .ok c)
    (s : Setting) :
    config (.map layer' (Entries.insert "profiles" s entries)) =
      (under "profiles" profiles s).map fun a => { c with profiles := a } := by
  have hfield : (configFields.find? fun f => f.key == "profiles") =
      some (field "profiles" true profiles fun a x => { x with profiles := a }) := rfl
  rw [config] at h ⊢
  refine fieldsOfMap_insert hfield (fun a => ?_) (fun _ _ _ => rfl) hsorted h s
  intro f hf hkey
  simp only [configFields, List.mem_cons, List.not_mem_nil, or_false] at hf
  rcases hf with rfl | rfl | rfl
  · exact field_letsThrough fun _ _ => rfl
  · exact field_letsThrough fun _ _ => rfl
  · exact absurd rfl hkey

/-- Whether a setting is a text does not depend on what it was put over. -/
theorem text_override (old s : Setting) : text (old.override s) = text s := by
  cases old <;> cases s <;> rfl

theorem optional_text_elim (old : Option Setting) (s : Setting) :
    optional text (old.elim s fun old => old.override s) = optional text s := by
  cases old with
  | none => rfl
  | some old => simp only [Option.elim_some, optional, text_override]

theorem profiles_map_eq (layer : Layer) (entries : List (String × Setting)) :
    profiles (.map layer entries) = Entries.mapValues (fun key => under key profile) entries := rfl

def passwordOf (s : Setting) : Setting := .map .environment [("password", s)]

/-- A profile with a password over it, or one that has nothing else. -/
theorem profile_over {old : Option Setting} (hordered : ∀ o, old = some o → o.IsOrdered)
    (hpass : ∀ o, old = some o → ∃ q, profile o = .ok q) (s : Setting) :
    ∃ q : Profile, profile (old.elim (passwordOf s) fun o => o.override (passwordOf s)) =
      (under "password" (optional text) s).map fun a => { q with password := a } := by
  have hblank : profile (.map .environment []) = .ok .blank := rfl
  have hnew : profile (passwordOf s) =
      (under "password" (optional text) s).map fun a => { Profile.blank with password := a } :=
    profile_insert List.Pairwise.nil hblank s
  cases old with
  | none => exact ⟨.blank, hnew⟩
  | some o =>
      cases o with
      | scalar layer value => exact ⟨.blank, hnew⟩
      | sequence layer items => exact ⟨.blank, hnew⟩
      | map layer entries =>
          obtain ⟨q, hq⟩ := hpass _ rfl
          refine ⟨q, ?_⟩
          rw [Option.elim_some, passwordOf, Setting.override, Setting.overrideEntries_singleton,
            profile_insert (hordered _ rfl).sorted hq]
          simp only [under, optional_text_elim]

theorem profiles_over {old : Setting} (hordered : old.IsOrdered)
    {before : List (String × Profile)} (h : profiles old = .ok before) (name : String)
    (s : Setting) :
    ∃ q : Profile, profiles (old.override (.map .environment [(name, passwordOf s)])) =
      (under name (under "password" (optional text)) s).map fun a =>
        Entries.insert name { q with password := a } before := by
  cases old with
  | scalar layer value => cases h
  | sequence layer items => cases h
  | map layer entries =>
      rw [profiles_map_eq] at h
      have hpass : ∀ o, entries.lookup name = some o → ∃ q, profile o = .ok q := by
        intro o ho
        obtain ⟨q, hq, -⟩ := Entries.lookup_mapValues h ho
        exact ⟨q, ok_of_mapError_ok hq⟩
      obtain ⟨q, hq⟩ := profile_over (fun o ho => hordered.of_lookup ho) hpass s
      refine ⟨q, ?_⟩
      rw [Setting.override, Setting.overrideEntries_singleton, profiles_map_eq,
        Entries.mapValues_insert h]
      simp only [under, hq]
      cases optional text s <;> rfl

/-- The password of a profile, put over settings that pass, is all that can fail, and all that
changes in what they come to. -/
theorem config_over {layer layer' : Layer} {entries : List (String × Setting)}
    (hordered : (Setting.map layer entries).IsOrdered) {c : Config}
    (h : config (.map layer' entries) = .ok c) {old : Setting}
    (hold : entries.lookup "profiles" = some old) (name : String) (s : Setting) :
    ∃ q : Profile, config ((Setting.map layer entries).override
        (.map .environment [("profiles", .map .environment [(name, passwordOf s)])])) =
      (under "profiles" (under name (under "password" text)) s).map fun t =>
        { c with profiles := Entries.insert name { q with password := some t } c.profiles } := by
  -- what was there gave the profiles that there are
  have hbefore : profiles old = .ok c.profiles := by
    have hsame : config (.map layer' (Entries.insert "profiles" old entries)) = .ok c := by
      rw [hordered.sorted.insert_eq_self hold, h]
    rw [config_insert hordered.sorted h] at hsame
    obtain ⟨before, hprofiles, hc⟩ := exists_of_map_ok hsame
    rw [ok_of_mapError_ok hprofiles, ← hc]
  obtain ⟨q, hq⟩ := profiles_over (hordered.of_lookup hold) hbefore name s
  refine ⟨q, ?_⟩
  rw [Setting.override, Setting.overrideEntries_singleton, hold, Option.elim_some,
    config_insert hordered.sorted h]
  simp only [under, hq, optional]
  cases text s <;> rfl

end Config.Check

end FlowConsole
