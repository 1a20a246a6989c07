import FlowConsole.Proofs.Restconf.FlowAddress
import FlowConsole.Record.Builtin
/-!
The resources of the controller and their URLs.

Each template of a path has a number of segments of its own, and what is filled in stays within one
segment. So no two resources share a URL, unless the id of a flow holds more than letters, digits,
hyphens and underscores.
-/
namespace FlowConsole

theorem Url.text_eq {u : Url} (hquery : u.query = none) (hfragment : u.fragment = none) :
    u.text = u.originText ++ u.path := by
  simp [Url.text, hquery, hfragment]

namespace Restconf

open Http Record
open Client (ofLocalhost ofLocalhost_isPlain)
open Url (IsPlainSegment slashed)

namespace Path

theorem toDigits_injective : Function.Injective (Nat.toDigits 10) := by
  apply Function.LeftInverse.injective (g := fun ds => Nat.ofDigitChars 10 ds 0)
  intro n
  exact Nat.ofDigitChars_ten_toDigits

theorem tableSegments_inj {node table node' table' : Nat} :
    tableSegments node table = tableSegments node' table' ↔
      node = node' ∧ table = table' := by
  simp [tableSegments, toDigits_injective.eq_iff]

end Path

/-- What the controller is asked for, with all that is filled into its path. -/
inductive Resource
  | topology
  | statistics
  | flowTable (node table : Nat)
  | flow (node table : Nat) (id : String)
  | cmts (id : Nat)
deriving DecidableEq

namespace Resource

def path : Resource → String
  | topology => Path.topology
  | statistics => Path.statistics
  | flowTable node table => Path.flowTable node table
  | flow node table id => Path.flow node table id
  | cmts id => Path.cmts id

/-- Whether the id of a flow, if it is one, is a word. -/
def IsNamedByWord : Resource → Prop
  | flow _ _ id => Path.IsWord id.toList
  | _ => True

/-! ## The segments of a path -/

def segments : Resource → List (List Char)
  | topology => ["restconf".toList, "operational".toList, "opendaylight-inventory:nodes".toList]
  | statistics => ["controller".toList, "nb".toList, "v2".toList, "statistics".toList,
      "default".toList, "flow".toList]
  | flowTable node table => Path.tableSegments node table
  | flow node table id => Path.tableSegments node table ++ ["flow".toList, id.toList]
  | cmts id => ["restconf".toList, "config".toList, "opendaylight-inventory:nodes".toList,
      "node".toList, "cmts:".toList ++ Nat.toDigits 10 id]

theorem path_slashed (r : Resource) : r.path.toList = slashed r.segments := by
  cases r with
  | topology => decide
  | statistics => decide
  | flowTable node table => exact Path.flowTable_slashed node table
  | flow node table id =>
      rw [path, segments, Path.flow_slashed]
      simp [slashed]
  | cmts id =>
      rw [path, Path.cmts_toList, Path.nodes_slashed]
      simp [slashed, segments]

theorem segments_ne_nil (r : Resource) : r.segments ≠ [] := by
  cases r <;> simp [segments, Path.tableSegments]

theorem segments_plain {r : Resource} (h : r.IsNamedByWord) :
    ∀ part ∈ r.segments, IsPlainSegment part := by
  cases r with
  | topology => decide
  | statistics => decide
  | flowTable node table =>
      intro part hpart
      exact Path.flowSegments_plain node table part (List.mem_append_left _ hpart)
  | flow node table id =>
      have hflow := List.forall_mem_append.mp (Path.flowSegments_plain node table)
      have hid : IsPlainSegment id.toList := Path.IsWord.isPlainSegment h
      rw [segments, List.forall_mem_append, List.forall_mem_cons, List.forall_mem_singleton]
      exact ⟨hflow.1, hflow.2 _ List.mem_cons_self, hid⟩
  | cmts id =>
      have hname : IsPlainSegment ('c' :: "mts:".toList) := by decide
      have hid := Path.isPlainSegment_numbered (by decide) (by decide) hname id
      have hfront : ∀ part ∈ ["restconf".toList, "config".toList,
          "opendaylight-inventory:nodes".toList, "node".toList], IsPlainSegment part := by decide
      exact List.forall_mem_append.mpr ⟨hfront, List.forall_mem_singleton.mpr hid⟩

theorem segments_injective : Function.Injective segments := by
  intro r r' h
  have hlength := congrArg List.length h
  cases r with
  | topology =>
      cases r' with
      | topology => rfl
      | _ => simp [segments, Path.tableSegments] at hlength
  | statistics =>
      cases r' with
      | statistics => rfl
      | _ => simp [segments, Path.tableSegments] at hlength
  | flowTable node table =>
      cases r' with
      | flowTable node' table' =>
          obtain ⟨rfl, rfl⟩ := Path.tableSegments_inj.mp h
          rfl
      | _ => simp [segments, Path.tableSegments] at hlength
  | flow node table id =>
      cases r' with
      | flow node' table' id' =>
          obtain ⟨htable, hid⟩ := List.append_inj h (by simp [Path.tableSegments])
          obtain ⟨rfl, rfl⟩ := Path.tableSegments_inj.mp htable
          simp only [List.cons.injEq, String.toList_inj, true_and, and_true] at hid
          rw [hid]
      | _ => simp [segments, Path.tableSegments] at hlength
  | cmts id =>
      cases r' with
      | cmts id' =>
          simp only [segments, List.cons.injEq, true_and, and_true] at h
          rw [Path.toDigits_injective (List.append_cancel_left h)]
      | _ => simp [segments, Path.tableSegments] at hlength

/-! ## The URL of a resource -/

theorem url_eq {c : Client} {host : Url.Host} (hhost : Url.IsPlainHost c.host.toList host)
    (hport : c.port < 65536) {r : Resource} (h : r.IsNamedByWord) :
    (c.pointedAt r.path).url = .ok { Url.httpSite host c.port with path := r.path } := by
  have hplain := segments_plain h
  have habsolute : IsAbsolute r.path := by
    obtain ⟨part, rest, hcons⟩ := List.exists_cons_of_ne_nil r.segments_ne_nil
    exact ⟨part ++ slashed rest, by rw [path_slashed, hcons, Url.slashed_cons]⟩
  rw [Client.url_pointedAt hhost hport habsolute, path_slashed, Url.cleanEnd_slashed_eq hplain,
    Url.locate_slashed_eq hplain r.segments_ne_nil, ← path_slashed, String.ofList_toList]
  rfl

theorem path_inj {r r' : Resource} (h : r.IsNamedByWord) (h' : r'.IsNamedByWord)
    (hpath : r.path = r'.path) : r = r' := by
  have hslashed : slashed r.segments = slashed r'.segments := by
    rw [← path_slashed, hpath, path_slashed]
  exact segments_injective (Url.eq_of_slashed_eq (segments_plain h) (segments_plain h') hslashed)

end Resource

theorem isWord_toString (n : Nat) : Path.IsWord (toString n).toList := by
  rw [Nat.toString_eq_repr, Nat.toList_repr]
  exact Path.isWord_toDigits n

theorem exists_key_of_builtin (b : Builtin) :
    (∃ key, CmtsKey.ofRecord b.record = .ok key) ∨
      ∃ key, ∃ n : Nat, FlowKey.ofRecord b.record = .ok key ∧ key.id = toString n := by
  cases b with
  | cmts1 | cmts2 => exact .inl ⟨_, rfl⟩
  | flow1 => exact .inr ⟨_, 1, rfl, rfl⟩
  | flow2 => exact .inr ⟨_, 2, rfl, rfl⟩
  | flow3 => exact .inr ⟨_, 3, rfl, rfl⟩
  | flow4 => exact .inr ⟨_, 4, rfl, rfl⟩
  | flow5 => exact .inr ⟨_, 5, rfl, rfl⟩

/-- At a plain host the URLs of two resources are the same text exactly if the resources are the
same, as long as the ids of flows are words. Numbers are words, and so are the ids of the built-in
records. -/
theorem url_text_eq_iff {c : Client} {host : Url.Host} (hhost : Url.IsPlainHost c.host.toList host)
    (hport : c.port < 65536) :
    (∀ r r' : Resource, r.IsNamedByWord → r'.IsNamedByWord →
      ∃ u u', (c.pointedAt r.path).url = .ok u ∧ (c.pointedAt r'.path).url = .ok u' ∧
        (u.text = u'.text ↔ r = r')) ∧
      (∀ n : Nat, Path.IsWord (toString n).toList) ∧
      ∀ b : Builtin, (∃ key, CmtsKey.ofRecord b.record = .ok key) ∨
        ∃ key, FlowKey.ofRecord b.record = .ok key ∧ Path.IsWord key.id.toList := by
  refine ⟨?resources, isWord_toString, ?builtin⟩
  case resources =>
    intro r r' h h'
    refine ⟨_, _, Resource.url_eq hhost hport h, Resource.url_eq hhost hport h', ?_, ?_⟩
    · intro htext
      rw [Url.text_eq rfl rfl, Url.text_eq rfl rfl] at htext
      have hpath := congrArg String.toList htext
      rw [String.toList_append, String.toList_append] at hpath
      exact Resource.path_inj h h' (String.toList_injective (List.append_cancel_left hpath))
    · rintro rfl
      rfl
  case builtin =>
    intro b
    rcases exists_key_of_builtin b with hkey | ⟨key, n, hkey, hid⟩
    · exact .inl hkey
    · exact .inr ⟨key, hkey, hid ▸ isWord_toString n⟩

/-- A node and a table that share their digits with another node and table. -/
theorem url_text_ne_of_shared_digits :
    ∃ u u', (ofLocalhost.pointedAt (Path.flow 1 12 "a-1")).url = .ok u ∧
      (ofLocalhost.pointedAt (Path.flow 11 2 "a-1")).url = .ok u' ∧ u.text ≠ u'.text := by
  have hword : Path.IsWord "a-1".toList := by decide
  obtain ⟨u, u', hu, hu', htext⟩ := (url_text_eq_iff ofLocalhost_isPlain.isHost (by decide)).1
    (.flow 1 12 "a-1") (.flow 11 2 "a-1") hword hword
  exact ⟨u, u', hu, hu', fun h => absurd (htext.mp h) (by decide)⟩

end Restconf

end FlowConsole
