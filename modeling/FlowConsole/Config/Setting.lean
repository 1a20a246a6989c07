import FlowConsole.Entries
import FlowConsole.Toml.Value
import FlowConsole.Text.Quoted
/-!
Settings before their types are checked: values that remember the layer they come from, so that an
error can say where to look.
-/
namespace FlowConsole.Config

open Text

/-- Where a setting comes from. Later layers override earlier ones. -/
inductive Layer
  | builtin
  | file
  | environment
deriving DecidableEq, Repr

/-- A setting that holds no others. Whole numbers of the environment that are not negative are kept
apart from those of the file. -/
inductive Scalar
  | boolean (value : Bool)
  | unsigned (value : Nat)
  | signed (value : Int)
  | float (value : Toml.Floating)
  | text (value : String)
  | character (value : Char)
deriving DecidableEq, Repr

/-- A setting. The entries of a map stand in ascending order of their keys. -/
inductive Setting
  | scalar (layer : Layer) (value : Scalar)
  | sequence (layer : Layer) (items : List Setting)
  | map (layer : Layer) (entries : List (String × Setting))
deriving Repr

namespace Setting

def layer : Setting → Layer
  | .scalar layer _ => layer
  | .sequence layer _ => layer
  | .map layer _ => layer

def description : Setting → String
  | .scalar _ (.boolean b) => s!"bool {b}"
  | .scalar _ (.unsigned n) => s!"unsigned int `{n}`"
  | .scalar _ (.signed n) => s!"signed int `{n}`"
  | .scalar _ (.float f) => s!"float `{f.text}`"
  | .scalar _ (.text s) => s!"string {Quoted.quote s}"
  | .scalar _ (.character c) => s!"char {Quoted.quoteChar c}"
  | .sequence _ _ => "sequence"
  | .map _ _ => "map"

mutual

/-- The second setting over the first: maps are merged key by key, anything else is replaced. -/
def override : Setting → Setting → Setting
  | .map _ below, .map layer above => .map layer (overrideEntries below above)
  | _, above => above

def overrideEntries (below : List (String × Setting)) :
    List (String × Setting) → List (String × Setting)
  | [] => below
  | (key, above) :: rest =>
    let merged := match below.lookup key with
      | some old => override old above
      | none => above
    overrideEntries (Entries.insert key merged below) rest

end

/-- The key under which a date or a time stands in its map. -/
def datetimeKey : String := "$__toml_private_datetime"

mutual

/-- A value of a document as a setting. Dates and times are maps of one entry. -/
def ofToml : Toml.Value → Setting
  | .string s => .scalar .file (.text s)
  | .integer n => .scalar .file (.signed n)
  | .float f => .scalar .file (.float f)
  | .boolean b => .scalar .file (.boolean b)
  | .datetime text => .map .file [(datetimeKey, .scalar .file (.text text))]
  | .array items => .sequence .file (ofTomlItems items)
  | .table entries => .map .file (ofTomlEntries entries)

def ofTomlItems : List Toml.Value → List Setting
  | [] => []
  | v :: rest => ofToml v :: ofTomlItems rest

def ofTomlEntries : List (String × Toml.Value) → List (String × Setting)
  | [] => []
  | (k, v) :: rest => Entries.insert k (ofToml v) (ofTomlEntries rest)

end

end Setting

end FlowConsole.Config
