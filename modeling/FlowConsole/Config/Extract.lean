import FlowConsole.Config.Basic
import FlowConsole.Config.Setting
/-!
Settings with their types checked.

The entries of a map are checked in ascending order of their keys, and the first that does not fit
is the error. Entries that no field is named for are ignored. A map of fields may also be written as
a sequence, in the order of the fields.
-/
namespace FlowConsole.Config

inductive Mismatch
  | kind (found expected : String)
  | range (found expected : String)
  | length (found : Nat) (expected : String)
deriving DecidableEq, Repr

def Mismatch.message : Mismatch → String
  | .kind found expected => s!"invalid type: found {found}, expected {expected}"
  | .range found expected => s!"invalid value {found}, expected {expected}"
  | .length found expected => s!"invalid length {found}, expected {expected}"

structure Misfit where
  path : List String
  layer : Layer
  mismatch : Mismatch
deriving DecidableEq, Repr

abbrev Check (α : Type) := Setting → Except Misfit α

namespace Check

def refuse {α : Type} (expected : String) : Check α := fun s =>
  .error { path := [], layer := s.layer, mismatch := .kind s.description expected }

def under {α : Type} (key : String) (check : Check α) : Check α := fun s =>
  (check s).mapError fun e => { e with path := key :: e.path }

/-- A text; a single character is one too. -/
def textOf (expected : String) : Check String := fun s =>
  match s with
  | .scalar _ (.text t) => .ok t
  | .scalar _ (.character c) => .ok (String.singleton c)
  | s => refuse expected s

def text : Check String := textOf "a string"

def path : Check String := textOf "path string"

def boolean : Check Bool := fun s =>
  match s with
  | .scalar _ (.boolean b) => .ok b
  | s => refuse "a boolean" s

def natural (bits : Nat) : Check Nat := fun s =>
  let expected := s!"u{bits}"
  let check (n : Int) : Except Misfit Nat :=
    if 0 ≤ n ∧ n < Nat.pow 2 bits then .ok n.toNat
    else .error { path := [], layer := s.layer, mismatch := .range s.description expected }
  match s with
  | .scalar _ (.unsigned n) => check n
  | .scalar _ (.signed n) => check n
  | s => refuse expected s

def optional {α : Type} (check : Check α) : Check (Option α) := fun s =>
  (check s).map some

/-- A field: its key, whether a sequence may end before it, and what it does to the structure. -/
structure Field (σ : Type) where
  key : String
  omissible : Bool
  set : Setting → σ → Except Misfit σ

def field {σ α : Type} (key : String) (omissible : Bool) (check : Check α) (set : α → σ → σ) :
    Field σ :=
  { key, omissible, set := fun s x => (under key check s).map fun a => set a x }

def fieldsOfMap {σ : Type} (fields : List (Field σ)) (start : σ)
    (entries : List (String × Setting)) : Except Misfit σ :=
  entries.foldlM (fun x entry =>
    match fields.find? fun f => f.key == entry.1 with
    | some f => f.set entry.2 x
    | none => .ok x) start

/-- The fields that a sequence gives. In paths its elements go by their numbers. -/
def fieldsOfSequence {σ : Type} (name : String) (layer : Layer) (total : Nat) :
    (index : Nat) → List (Field σ) → σ → List Setting → Except Misfit σ
  | _, [], x, _ => .ok x
  | index, f :: fields, x, [] =>
    if f.omissible then fieldsOfSequence name layer total (index + 1) fields x []
    else
      .error { path := [], layer
               mismatch := .length index s!"struct {name} with {total} elements" }
  | index, f :: fields, x, s :: rest => do
    let numbered (e : Misfit) : Misfit := { e with path := toString index :: e.path.drop 1 }
    let x ← (f.set s x).mapError numbered
    fieldsOfSequence name layer total (index + 1) fields x rest

/-- A structure of fields, as a map or as a sequence. -/
def structured {σ : Type} (name : String) (fields : List (Field σ)) (start : σ) : Check σ :=
  fun s => match s with
  | .map _ entries => fieldsOfMap fields start entries
  | .sequence layer items => fieldsOfSequence name layer fields.length 0 fields start items
  | s => refuse s!"struct {name}" s

def defaultsFields : List (Field Defaults) := [
  field "output" true text fun a x => { x with output := a },
  field "timeout" false (optional (natural 64)) fun a x => { x with timeout := a },
  field "fixtures_dir" true path fun a x => { x with fixturesDir := a },
  field "extension" true text fun a x => { x with extension := a }]

def defaults : Check Defaults :=
  structured "Defaults" defaultsFields .standard

def profileFields : List (Field Profile) := [
  field "host" true text fun a x => { x with host := a },
  field "port" true (natural 16) fun a x => { x with port := a },
  field "auth" true boolean fun a x => { x with auth := a },
  field "username" false (optional text) fun a x => { x with username := a },
  field "password" false (optional text) fun a x => { x with password := a },
  field "password_env" false (optional text) fun a x => { x with passwordEnv := a },
  field "timeout" false (optional (natural 64)) fun a x => { x with timeout := a },
  field "node" true (natural 64) fun a x => { x with node := a },
  field "table" true (natural 64) fun a x => { x with table := a }]

def profile : Check Profile :=
  structured "Profile" profileFields .blank

def profiles : Check (List (String × Profile)) := fun s =>
  match s with
  | .map _ entries => entries.mapM fun entry => do
    let p ← under entry.1 profile entry.2
    .ok (entry.1, p)
  | s => refuse "a map" s

def configFields : List (Field Config) := [
  field "default_profile" false (optional text) fun a x => { x with defaultProfile := a },
  field "defaults" true defaults fun a x => { x with defaults := a },
  field "profiles" true profiles fun a x => { x with profiles := a }]

def config : Check Config :=
  structured "Config" configFields
    { defaultProfile := none, defaults := .standard, profiles := [] }

end Check

end FlowConsole.Config
