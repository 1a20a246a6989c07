import FlowConsole.Json.Value
/-!
The built-in records: two CMTS nodes and five flows. Flows 1, 3 and 5 sit on the switch in front of
the first CMTS, flows 2 and 4 on that in front of the second.
-/
namespace FlowConsole.Record

open Json

inductive Builtin
  | cmts1
  | cmts2
  | flow1
  | flow2
  | flow3
  | flow4
  | flow5
deriving DecidableEq, Repr

namespace Builtin

def all : List Builtin :=
  [.cmts1, .cmts2, .flow1, .flow2, .flow3, .flow4, .flow5]

def name : Builtin → String
  | .cmts1 => "cmts1"
  | .cmts2 => "cmts2"
  | .flow1 => "flow1"
  | .flow2 => "flow2"
  | .flow3 => "flow3"
  | .flow4 => "flow4"
  | .flow5 => "flow5"

def ofName? (s : String) : Option Builtin :=
  all.find? fun b => b.name == s

end Builtin

def pcmmPort : Nat := 3918

def cmtsRecord (id : Nat) (address : String) : Value :=
  .ofMembers [("cmts-node", .ofMembers [
    ("id", .ofNat id),
    ("address", .string address),
    ("port", .ofNat pcmmPort)])]

def flowRecord (node id : Nat) (name destination : String) (tos : Nat) : Value :=
  .ofMembers [("flow", .ofMembers [
    ("id", .ofNat id),
    ("table_id", .ofNat 0),
    ("flow-name", .string name),
    ("node", .ofMembers [("id", .string s!"openflow:{node}")]),
    ("priority", .ofNat 100),
    ("match", .ofMembers [
      ("ethernet-match", .ofMembers [("ethernet-type", .ofMembers [("type", .ofNat 2048)])]),
      ("ipv4-destination", .string destination)]),
    ("instructions", .ofMembers [("instruction", .array [.ofMembers [
      ("order", .ofNat 0),
      ("apply-actions", .ofMembers [("action", .array [
        .ofMembers [
          ("order", .ofNat 0),
          ("set-nw-tos-action", .ofMembers [("tos", .ofNat tos)])],
        .ofMembers [
          ("order", .ofNat 1),
          ("output-action", .ofMembers [("output-node-connector", .string "NORMAL")])]])])]])])])]

def Builtin.record : Builtin → Value
  | .cmts1 => cmtsRecord 1 "10.200.90.3"
  | .cmts2 => cmtsRecord 2 "10.200.90.4"
  | .flow1 => flowRecord 1 1 "cableflow-voice-1" "10.0.1.10/32" 46
  | .flow2 => flowRecord 2 2 "cableflow-voice-2" "10.0.2.10/32" 46
  | .flow3 => flowRecord 1 3 "cableflow-video-1" "10.0.1.20/32" 34
  | .flow4 => flowRecord 2 4 "cableflow-video-2" "10.0.2.20/32" 34
  | .flow5 => flowRecord 1 5 "cableflow-data-1" "10.0.1.30/32" 0

end FlowConsole.Record
