import FlowConsole.Proofs.Http.PlainClient
import FlowConsole.Proofs.Restconf.Path
import FlowConsole.Proofs.Url.Segments
import FlowConsole.Restconf.Session
/-!
Which flow the URL of a flow names.

The id of a flow is put into the path as it is. The URL names the flow with that id exactly for ids
that mean themselves in a URL; any other id names another flow, or no flow at all.
-/
namespace FlowConsole.Restconf

open Http Record
open Client (ofLocalhost ofLocalhost_isPlain)
open Url (IsPlainSegment IsOneSegment slashed)

def Path.segments (path : String) : List (List Char) :=
  Text.splitOn '/' (path.toList.drop 1)

def Path.tableSegments (node table : Nat) : List (List Char) :=
  ["restconf".toList, "config".toList, "opendaylight-inventory:nodes".toList, "node".toList,
    "openflow:".toList ++ Nat.toDigits 10 node, "table".toList, Nat.toDigits 10 table]

/-- Whether a URL names a flow: behind the segments of the flow's table stand `flow` and one segment
that decodes to the id, and nothing else. -/
def NamesFlow (u : Url) (key : FlowKey) : Prop :=
  u.query = none ∧ u.fragment = none ∧
    ∃ segment,
      Url.pathSegments u =
        Path.segments (Path.flowTable key.node key.table) ++ ["flow".toList, segment] ∧
      Url.percentDecode segment = Text.Utf8.encode key.id.toList

namespace Path

/-! ## The segments in front of the id -/

theorem nodes_slashed :
    nodes.toList =
      slashed ["restconf".toList, "config".toList, "opendaylight-inventory:nodes".toList,
        "node".toList] := by decide

theorem flowTable_slashed (node table : Nat) :
    (flowTable node table).toList = slashed (tableSegments node table) := by
  rw [flowTable_toList, nodes_slashed]
  simp [slashed, tableSegments]

theorem flow_slashed (node table : Nat) (id : String) :
    (flow node table id).toList =
      slashed (tableSegments node table ++ ["flow".toList]) ++ '/' :: id.toList := by
  rw [flow_toList, flowTable_slashed]
  simp [slashed]

theorem isPlainSegment_of_head {c : Char} {rest : List Char} (hdot : c.toLower ≠ '.')
    (hpercent : c.toLower ≠ '%')
    (hchars : ∀ d ∈ c :: rest, Url.isSlash d = false ∧ Url.encodedInPath d = false) :
    IsPlainSegment (c :: rest) where
  chars := hchars
  notDouble := by simp [Url.isDoubleDot, hdot, hpercent]
  notSingle := by
    have hc : c ≠ '.' := by
      rintro rfl
      exact hdot rfl
    simp [Url.isSingleDot, hc, hpercent]

def isWordChar (c : Char) : Bool := c.isAlphanum || c == '-' || c == '_'

theorem isWordChar_of_isDigit {c : Char} (hc : c.isDigit = true) : isWordChar c = true := by
  simp [isWordChar, Char.isAlphanum, hc]

theorem wordChar_plain {c : Char} (hc : isWordChar c = true) :
    Url.isSlash c = false ∧ Url.encodedInPath c = false ∧ c.toLower ≠ '.' ∧ c.toLower ≠ '%' := by
  have hall : ∀ n < 0x80, isWordChar (Char.ofNat n) = true →
      Url.isSlash (Char.ofNat n) = false ∧ Url.encodedInPath (Char.ofNat n) = false ∧
        (Char.ofNat n).toLower ≠ '.' ∧ (Char.ofNat n).toLower ≠ '%' := by
    decide +kernel
  have hascii : c.toNat < 0x80 := by
    simp only [isWordChar, Bool.or_eq_true, beq_iff_eq] at hc
    rcases hc with (h | rfl) | rfl
    · exact Url.lt_of_isAlphanum h
    · decide
    · decide
  exact Text.of_forall_ascii (P := fun c => isWordChar c = true → Url.isSlash c = false ∧
    Url.encodedInPath c = false ∧ c.toLower ≠ '.' ∧ c.toLower ≠ '%') hall hascii hc

structure IsWord (s : List Char) : Prop where
  ne_nil : s ≠ []
  chars : ∀ c ∈ s, isWordChar c = true

instance (s : List Char) : Decidable (IsWord s) :=
  decidable_of_iff (s ≠ [] ∧ s.all isWordChar = true) <| by
  rw [List.all_eq_true]
  constructor
  · rintro ⟨hne, hchars⟩
    exact ⟨hne, hchars⟩
  · rintro ⟨hne, hchars⟩
    exact ⟨hne, hchars⟩

theorem isWord_toDigits (n : Nat) : IsWord (Nat.toDigits 10 n) :=
  ⟨Nat.toDigits_ne_nil, fun _ hc => isWordChar_of_isDigit (Url.isDigit_of_mem_toDigits_ten hc)⟩

theorem IsWord.isPlainSegment {s : List Char} (h : IsWord s) : IsPlainSegment s := by
  obtain ⟨c, rest, rfl⟩ := List.exists_cons_of_ne_nil h.ne_nil
  have hc := wordChar_plain (h.chars c List.mem_cons_self)
  apply isPlainSegment_of_head hc.2.2.1 hc.2.2.2
  intro d hd
  have hplain := wordChar_plain (h.chars d hd)
  exact ⟨hplain.1, hplain.2.1⟩

theorem isPlainSegment_toDigits (n : Nat) : IsPlainSegment (Nat.toDigits 10 n) :=
  (isWord_toDigits n).isPlainSegment

theorem isPlainSegment_numbered {c : Char} {rest : List Char} (hdot : c.toLower ≠ '.')
    (hpercent : c.toLower ≠ '%') (hname : IsPlainSegment (c :: rest)) (n : Nat) :
    IsPlainSegment (c :: rest ++ Nat.toDigits 10 n) := by
  apply isPlainSegment_of_head hdot hpercent
  intro d hd
  have hmem : d ∈ (c :: rest) ++ Nat.toDigits 10 n := hd
  rcases List.mem_append.mp hmem with hd | hd
  · exact hname.chars d hd
  · exact (isPlainSegment_toDigits n).chars d hd

theorem isPlainSegment_openflow (n : Nat) :
    IsPlainSegment ("openflow:".toList ++ Nat.toDigits 10 n) :=
  isPlainSegment_numbered (c := 'o') (by decide) (by decide) (by decide) n

theorem flowSegments_plain (node table : Nat) :
    ∀ part ∈ tableSegments node table ++ ["flow".toList], IsPlainSegment part := by
  intro part hpart
  simp only [tableSegments, List.cons_append, List.nil_append, List.mem_cons, List.not_mem_nil,
    or_false] at hpart
  rcases hpart with rfl | rfl | rfl | rfl | rfl | rfl | rfl | rfl
  case inr.inr.inr.inr.inl => exact isPlainSegment_openflow node
  case inr.inr.inr.inr.inr.inr.inl => exact isPlainSegment_toDigits table
  all_goals decide

theorem segments_flowTable (node table : Nat) :
    segments (flowTable node table) = tableSegments node table := by
  have hsplit := Text.splitWhere_flatMap_cons (p := (· == '/')) (c := '/') (by decide)
    (tableSegments node table) (by
      intro part hpart c hc
      have hplain := (flowSegments_plain node table part
        (List.mem_append_left _ hpart)).chars c hc
      have hslash := hplain.1
      simp only [Url.isSlash, Bool.or_eq_false_iff] at hslash
      exact hslash.1)
  have hcons : slashed (tableSegments node table) =
      '/' :: (slashed (tableSegments node table)).tail := by
    simp [tableSegments, Url.slashed_cons]
  rw [show (tableSegments node table).flatMap (fun part => '/' :: part) =
    slashed (tableSegments node table) from rfl, hcons, Text.splitWhere_cons_sep _ (by decide)]
    at hsplit
  unfold segments Text.splitOn
  rw [flowTable_slashed, List.drop_one]
  exact (List.cons.inj hsplit).2

end Path

/-! ## The URL of a flow -/

theorem namesFlow_iff (site : Url) (key : FlowKey) :
    NamesFlow (Url.locate site true (Url.cleanEnd (Session.flowPath key).toList)) key ↔
      IsOneSegment key.id.toList := by
  have hpath : Url.locate site true (Url.cleanEnd (Session.flowPath key).toList) =
      Url.locate site true (Url.cleanEnd
        (slashed (Path.tableSegments key.node key.table ++ ["flow".toList]) ++
          '/' :: key.id.toList)) := by
    rw [Session.flowPath, Path.flow_slashed]
  rw [← Url.isOneSegment_iff (Path.flowSegments_plain key.node key.table) (by simp) hpath]
  unfold NamesFlow
  rw [Path.segments_flowTable]
  simp only [List.append_assoc, List.singleton_append]

/-- At a plain host every flow has a URL, and it names that flow exactly if the id means itself in a
URL. -/
theorem url_namesFlow_iff {c : Client} {host : Url.Host}
    (hhost : Url.IsPlainHost c.host.toList host) (hport : c.port < 65536) (key : FlowKey) :
    ∃ u, (c.pointedAt (Session.flowPath key)).url = .ok u ∧
      (NamesFlow u key ↔ IsOneSegment key.id.toList) :=
  ⟨_, Client.url_pointedAt hhost hport (Path.isAbsolute_flow key.node key.table key.id),
    namesFlow_iff _ key⟩

def upstreamKey : FlowKey := { node := 1, table := 0, id := "voice-upstream", name := none }

theorem url_names_upstream :
    ∃ u, (ofLocalhost.pointedAt (Session.flowPath upstreamKey)).url = .ok u ∧
      NamesFlow u upstreamKey := by
  obtain ⟨u, hurl, hiff⟩ := url_namesFlow_iff ofLocalhost_isPlain.isHost (by decide) upstreamKey
  refine ⟨u, hurl, hiff.mpr ?_⟩
  decide

/-- A flow record whose id climbs out of the segment it stands in. -/
def climbingRecord : Json.Value :=
  .object [("id", .string "x/../.."), ("node", .number (.integer 1))]

/-- The URL of that flow is the one of the table it would be in, with a slash. -/
theorem url_climbs_to_table :
    ∃ key u, FlowKey.ofRecord climbingRecord = .ok key ∧
      (ofLocalhost.pointedAt (Session.flowPath key)).url = .ok u ∧
      u.path = Path.flowTable key.node key.table ++ "/" ∧ ¬ NamesFlow u key := by
  have hkey : FlowKey.ofRecord climbingRecord =
      .ok { node := 1, table := 0, id := "x/../..", name := none } := rfl
  refine ⟨_, _, hkey, Client.url_pointedAt ofLocalhost_isPlain.isHost (by decide)
    (Path.isAbsolute_flow 1 0 "x/../.."), rfl, ?_⟩
  rw [namesFlow_iff]
  decide

end FlowConsole.Restconf
