/-!
UTF-8: the bytes of a text, strict decoding, and decoding that replaces ill-formed input.

An ill-formed stretch is a maximal prefix of a well-formed sequence, or one byte that starts none;
`decodeLossy` puts one U+FFFD for each, `decode?` refuses the input.
-/
namespace FlowConsole.Text.Utf8

def encode (s : List Char) : List UInt8 :=
  s.flatMap String.utf8EncodeChar

/-- What a leading byte announces: its payload bits, how many bytes follow, and the range of the
first of them. The ranges keep overlong forms, surrogates and values past U+10FFFF out. -/
structure Lead where
  payload : Nat
  count : Nat
  low : Nat := 0x80
  high : Nat := 0xBF

def Lead.of? (b : Nat) : Option Lead :=
  if b < 0x80 then some { payload := b, count := 0 }
  else if b < 0xC2 then none
  else if b < 0xE0 then some { payload := b - 0xC0, count := 1 }
  else if b = 0xE0 then some { payload := 0, count := 2, low := 0xA0 }
  else if b = 0xED then some { payload := 13, count := 2, high := 0x9F }
  else if b < 0xF0 then some { payload := b - 0xE0, count := 2 }
  else if b = 0xF0 then some { payload := 0, count := 3, low := 0x90 }
  else if b < 0xF4 then some { payload := b - 0xF0, count := 3 }
  else if b = 0xF4 then some { payload := 4, count := 3, high := 0x8F }
  else none

/-- Reads `count` more bytes, the first within `low` to `high`; stops in front of one that does not
fit. -/
def continuation : (count low high value : Nat) → List UInt8 → Option Nat × List UInt8
  | 0, _, _, value, rest => (some value, rest)
  | _ + 1, _, _, _, [] => (none, [])
  | count + 1, low, high, value, b :: rest =>
    if low ≤ b.toNat ∧ b.toNat ≤ high then
      continuation count 0x80 0xBF (value * 64 + (b.toNat - 0x80)) rest
    else (none, b :: rest)

theorem length_continuation_le (count low high value : Nat) (s : List UInt8) :
    (continuation count low high value s).2.length ≤ s.length := by
  induction s generalizing count low high value with
  | nil => cases count <;> simp [continuation]
  | cons b rest ih =>
    cases count with
    | zero => simp [continuation]
    | succ n =>
      simp only [continuation]
      split
      · exact Nat.le_trans (ih _ _ _ _) (Nat.le_succ _)
      · exact Nat.le_refl _

/-- The characters of a byte string in order, `none` for each ill-formed stretch. -/
def decodeSteps : List UInt8 → List (Option Char)
  | [] => []
  | b :: rest =>
    match Lead.of? b.toNat with
    | none => none :: decodeSteps rest
    | some lead =>
      let step := continuation lead.count lead.low lead.high lead.payload rest
      step.1.map Char.ofNat :: decodeSteps step.2
termination_by s => s.length
decreasing_by
  all_goals first
    | exact Nat.lt_succ_self _
    | exact Nat.lt_succ_of_le (length_continuation_le _ _ _ _ _)

def decode? (bytes : List UInt8) : Option String :=
  ((decodeSteps bytes).mapM id).map String.ofList

/-- The text of a byte string, with U+FFFD for each ill-formed stretch. A byte order mark stays. -/
def decodeLossy (bytes : List UInt8) : String :=
  String.ofList ((decodeSteps bytes).map fun c => c.getD (Char.ofNat 0xFFFD))

end FlowConsole.Text.Utf8
