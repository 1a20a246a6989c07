import FlowConsole.Config.Extract
import FlowConsole.Proofs.Action
import FlowConsole.Proofs.Config.Setting
/-!
Settings that pass their checks.

The fields of a structure do not get into each other's way. So where all settings fit, it does not
matter in which order they are checked, and a structure comes out as its fields say one after the
other.
-/
namespace FlowConsole.Config.Check

section

variable {σ α β : Type}

def Field.Commutes (f g : Field σ) : Prop :=
  ∀ s t x y z, f.set s x = .ok y → g.set t y = .ok z →
    ∃ w, g.set t x = .ok w ∧ f.set s w = .ok z

theorem field_commutes {key key' : String} {omissible omissible' : Bool} {check : Check α}
    {check' : Check β} {set : α → σ → σ} {set' : β → σ → σ}
    (h : ∀ a b x, set' b (set a x) = set a (set' b x)) :
    (field key omissible check set).Commutes (field key' omissible' check' set') := by
  intro s t x y z hy hz
  simp only [field] at hy hz ⊢
  obtain ⟨a, ha, rfl⟩ := exists_of_map_ok hy
  obtain ⟨b, hb, rfl⟩ := exists_of_map_ok hz
  exact ⟨set' b x, by rw [hb]; rfl, by rw [ha]; exact congrArg Except.ok (h a b x).symm⟩

/-- The settings that are there, field after field. -/
def fieldsInOrder (entries : List (String × Setting)) : List (Field σ) → σ → Except Misfit σ
  | [], x => .ok x
  | f :: fields, x =>
    match entries.lookup f.key with
    | none => fieldsInOrder entries fields x
    | some s => (f.set s x).bind (fieldsInOrder entries fields)

theorem fieldsInOrder_none {entries : List (String × Setting)} {f : Field σ}
    (h : entries.lookup f.key = none) (fields : List (Field σ)) (x : σ) :
    fieldsInOrder entries (f :: fields) x = fieldsInOrder entries fields x := by
  rw [fieldsInOrder, h]

theorem fieldsInOrder_some {entries : List (String × Setting)} {f : Field σ} {s : Setting}
    (h : entries.lookup f.key = some s) (fields : List (Field σ)) (x : σ) :
    fieldsInOrder entries (f :: fields) x = (f.set s x).bind (fieldsInOrder entries fields) := by
  rw [fieldsInOrder, h]

theorem fieldsInOrder_cons_of_forall_ne {entries : List (String × Setting)} {key : String}
    {s : Setting} {fields : List (Field σ)} (h : ∀ f ∈ fields, f.key ≠ key) (x : σ) :
    fieldsInOrder ((key, s) :: entries) fields x = fieldsInOrder entries fields x := by
  induction fields generalizing x with
  | nil => rfl
  | cons f fields ih =>
      have hrest := ih fun g hg => h g (List.mem_cons_of_mem f hg)
      rw [fieldsInOrder, fieldsInOrder, Entries.lookup_cons_of_ne (h f List.mem_cons_self)]
      cases entries.lookup f.key with
      | none => exact hrest x
      | some t => exact congrArg _ (funext hrest)

theorem fieldsInOrder_cons {entries : List (String × Setting)} {key : String} {s : Setting}
    (hnew : entries.lookup key = none) {fields : List (Field σ)}
    (hkeys : (fields.map Field.key).Nodup) (hcommute : fields.Pairwise Field.Commutes)
    {f : Field σ} (hf : f ∈ fields) (hkey : f.key = key) {x y : σ}
    (h : fieldsInOrder ((key, s) :: entries) fields x = .ok y) :
    ∃ w, f.set s x = .ok w ∧ fieldsInOrder entries fields w = .ok y := by
  induction fields generalizing x with
  | nil => cases hf
  | cons g fields ih =>
      rw [List.map_cons, List.nodup_cons] at hkeys
      obtain ⟨hg, hrest⟩ := List.pairwise_cons.mp hcommute
      rcases List.mem_cons.mp hf with rfl | hf
      · have hothers : ∀ g ∈ fields, g.key ≠ key := by
          rintro g hg rfl
          exact hkeys.1 (List.mem_map.mpr ⟨g, hg, hkey.symm⟩)
        rw [fieldsInOrder_some (by rw [hkey, List.lookup_cons_self])] at h
        obtain ⟨w, hw, h⟩ := exists_of_bind_ok h
        rw [fieldsInOrder_cons_of_forall_ne hothers] at h
        exact ⟨w, hw, (fieldsInOrder_none (hkey ▸ hnew) fields w).trans h⟩
      · have hne : g.key ≠ key := by
          rintro rfl
          exact hkeys.1 (List.mem_map.mpr ⟨f, hf, hkey⟩)
        have hlookup : ((key, s) :: entries).lookup g.key = entries.lookup g.key :=
          Entries.lookup_cons_of_ne hne s entries
        cases hother : entries.lookup g.key with
        | none =>
            rw [fieldsInOrder_none (hlookup.trans hother)] at h
            obtain ⟨w, hw, h⟩ := ih hkeys.2 hrest hf h
            exact ⟨w, hw, (fieldsInOrder_none hother fields w).trans h⟩
        | some t =>
            rw [fieldsInOrder_some (hlookup.trans hother)] at h
            obtain ⟨u, hu, h⟩ := exists_of_bind_ok h
            obtain ⟨v, hv, h⟩ := ih hkeys.2 hrest hf h
            obtain ⟨w, hw, hset⟩ := hg f hf t s x u v hu hv
            refine ⟨w, hw, ?_⟩
            rw [fieldsInOrder_some hother, hset]
            exact h

theorem fieldsInOrder_nil (fields : List (Field σ)) (x : σ) : fieldsInOrder [] fields x = .ok x := by
  induction fields with
  | nil => rfl
  | cons f fields ih => exact ih

theorem structured_map {name : String} {fields : List (Field σ)} {start y : σ} {layer : Layer}
    {entries : List (String × Setting)} (hkeys : (fields.map Field.key).Nodup)
    (hcommute : fields.Pairwise Field.Commutes) (hnodup : (entries.map Prod.fst).Nodup)
    (h : fieldsInOrder entries fields start = .ok y) :
    structured name fields start (.map layer entries) = .ok y := by
  change fieldsOfMap fields start entries = .ok y
  induction entries generalizing start with
  | nil => exact (fieldsInOrder_nil fields start).symm.trans h
  | cons entry entries ih =>
      obtain ⟨key, s⟩ := entry
      rw [List.map_cons, List.nodup_cons] at hnodup
      rw [fieldsOfMap, List.foldlM_cons]
      cases hfind : fields.find? fun f => f.key == key with
      | none =>
          have hothers : ∀ f ∈ fields, f.key ≠ key := by simpa using hfind
          rw [fieldsInOrder_cons_of_forall_ne hothers] at h
          exact ih hnodup.2 h
      | some f =>
          have hkey : f.key = key := by simpa using List.find?_some hfind
          obtain ⟨w, hw, hrest⟩ := fieldsInOrder_cons (Entries.lookup_eq_none_iff.mpr hnodup.1)
            hkeys hcommute (List.mem_of_find?_eq_some hfind) hkey h
          simp only [hw]
          exact ih hnodup.2 hrest

section

variable {entries : List (String × Setting)} {key : String} {omissible : Bool} {check : Check α}
  {set : α → σ → σ}

theorem fieldsInOrder_field {s : Setting} {a : α} (hlookup : entries.lookup key = some s)
    (hcheck : check s = .ok a) (fields : List (Field σ)) (x : σ) :
    fieldsInOrder entries (field key omissible check set :: fields) x =
      fieldsInOrder entries fields (set a x) := by
  have hset : (field key omissible check set).set s x = .ok (set a x) := by
    simp only [field, under, hcheck]
    rfl
  have hsome : entries.lookup (field key omissible check set).key = some s := hlookup
  rw [fieldsInOrder_some hsome, hset]
  rfl

theorem fieldsInOrder_optional {set : Option α → σ → σ} {f : α → Setting} {v : Option α}
    (hlookup : entries.lookup key = v.map f) (hcheck : ∀ a, v = some a → check (f a) = .ok a)
    (fields : List (Field σ)) {x : σ} (hnone : v = none → set none x = x) :
    fieldsInOrder entries (field key omissible (optional check) set :: fields) x =
      fieldsInOrder entries fields (set v x) := by
  cases v with
  | none =>
      rw [hnone rfl]
      exact fieldsInOrder_none hlookup fields x
  | some a =>
      refine fieldsInOrder_field (s := f a) hlookup ?_ fields x
      simp only [optional, hcheck a rfl]
      rfl

end

end

end FlowConsole.Config.Check
