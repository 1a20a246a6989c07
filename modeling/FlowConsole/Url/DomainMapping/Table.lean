import FlowConsole.Text.CharSet
/-!
How the tables of what characters are mapped to are written: in words of hexadecimal code points,
such as `c0+17>e0` for a run of neighbours and `132>69,6a` for one character mapped to a text.
-/
namespace FlowConsole.Url

open Text

/-- A run of characters, each `step` after the one before, that are mapped by one distance. -/
structure MappedRun where
  first : Nat
  count : Nat
  step : Nat
  target : Nat

def splitAt (sep : Char) (word : List Char) : List Char × List Char :=
  (word.takeWhile (· != sep), (word.dropWhile (· != sep)).drop 1)

namespace MappedRun

/-- Reads `a>t`, `a+n>t` and `a/n>t`: one character, `n` neighbours, or every second of them. -/
def ofWord (word : List Char) : MappedRun :=
  let halves := splitAt '>' word
  let target := CharSet.hexNat halves.2
  let run (sep : Char) (step : Nat) : MappedRun :=
    let p := splitAt sep halves.1
    { first := CharSet.hexNat p.1, count := CharSet.hexNat p.2, step, target }
  if '+' ∈ halves.1 then run '+' 1
  else if '/' ∈ halves.1 then run '/' 2
  else { first := CharSet.hexNat halves.1, count := 1, step := 1, target }

def ofTable (lines : List String) : List MappedRun :=
  (CharSet.words lines).map ofWord

def image? (run : MappedRun) (n : Nat) : Option Nat :=
  if run.first ≤ n ∧ n < run.first + run.count * run.step ∧ (n - run.first) % run.step = 0 then
    some (run.target + (n - run.first))
  else none

end MappedRun

structure MappedText where
  source : Nat
  target : List Char

namespace MappedText

/-- Reads `a>t,u`: a character and those it is mapped to. -/
def ofWord (word : List Char) : MappedText :=
  let halves := splitAt '>' word
  { source := CharSet.hexNat halves.1
    target := (splitOn ',' halves.2).map fun digits => Char.ofNat (CharSet.hexNat digits) }

def ofTable (lines : List String) : List MappedText :=
  (CharSet.words lines).map ofWord

end MappedText

end FlowConsole.Url
