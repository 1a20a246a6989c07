import FlowConsole.Decimal.Shortest
/-!
TOML values.
-/
namespace FlowConsole.Toml

open Decimal

inductive Floating
  | finite (value : Binary64)
  | infinite (negative : Bool)
  | nan
deriving DecidableEq, Repr

/-- The plain decimal text of a number, never with an exponent and without a point unless there are
digits after it. -/
def Floating.text : Floating → String
  | .nan => "NaN"
  | .infinite negative => if negative then "-inf" else "inf"
  | .finite x =>
    let p := x.shortest.positional
    let sign := if x.negative then ['-'] else []
    String.ofList (sign ++ p.1 ++ if p.2.isEmpty then [] else '.' :: p.2)

/-- A value. A table lists its entries in the order in which they were written. -/
inductive Value
  | string (value : String)
  | integer (value : Int)
  | float (value : Floating)
  | boolean (value : Bool)
  | datetime (text : String)
  | array (items : List Value)
  | table (entries : List (String × Value))
deriving Repr, Inhabited

abbrev Table := List (String × Value)

end FlowConsole.Toml
