import FlowConsole.Proofs.Record.FlowKey
import FlowConsole.Proofs.Restconf.FlowAddress
import FlowConsole.Proofs.Restconf.Sweep
import FlowConsole.Report.Text
/-!
The flows of a listing: which of them have a key, which are shown with an id, and where the
deletions of a sweep go.

All of it is as it should be exactly for listings in which every flow without an id has a name that
can stand in for one.
-/
namespace FlowConsole

open Http Record Text
open Json (Value)
open Report (flowTable)

def Report.Table.cell? (t : Table) (column : String) (row : List String) : Option String :=
  (t.header.zip row).lookup column

namespace Restconf

/-! ## Requests for one flow -/

theorem NamesFlow.segment_ne_nil {u : Url} {key : FlowKey} (h : NamesFlow u key)
    (hid : IsUsable key.id) :
    ∃ segment, segment ≠ [] ∧
      Url.pathSegments u =
        Path.segments (Path.flowTable key.node key.table) ++ ["flow".toList, segment] := by
  obtain ⟨-, -, segment, hsegments, hdecode⟩ := h
  refine ⟨segment, ?_, hsegments⟩
  rintro rfl
  obtain ⟨c, rest, hcons⟩ := List.exists_cons_of_ne_nil hid.notEmpty
  rw [hcons, Utf8.encode_cons] at hdecode
  have hpos := Utf8.encode_length_pos c
  have hlength := congrArg List.length hdecode
  rw [List.length_append] at hlength
  simp only [Url.percentDecode, List.length_nil] at hlength
  omega

theorem namesFlow_withoutUserInfo (u : Url) (key : FlowKey) :
    NamesFlow u.withoutUserInfo key ↔ NamesFlow u key := Iff.rfl

theorem namesFlow_of_asksFor {c : Client} {host : Url.Host} {method : Method} {key : FlowKey}
    {request : Request} (h : c.AsksFor method (Session.flowPath key) request)
    (hhost : Url.IsPlainHost c.host.toList host) (hport : c.port < 65536)
    (hid : Url.IsOneSegment key.id.toList) : NamesFlow request.url key := by
  obtain ⟨-, -, url, hurl, hrequest⟩ := h
  rw [Session.flowPath,
    Client.url_pointedAt hhost hport (Path.isAbsolute_flow key.node key.table key.id)] at hurl
  obtain rfl := Except.ok.inj hurl
  have hnames := (namesFlow_iff (Url.httpSite host c.port) key).mpr hid
  rcases hrequest with hrequest | hrequest
  · rwa [hrequest]
  · rwa [hrequest, namesFlow_withoutUserInfo]

namespace Session

theorem removeKeys_sends (keys : List FlowKey) (s : Session) :
    ∃ requests, (removeKeys keys s).2.controller = s.controller.after requests ∧
      ∀ request ∈ requests, ∃ key ∈ keys, s.client.AsksFor .delete (flowPath key) request := by
  induction keys generalizing s with
  | nil => exact ⟨[], rfl, by simp⟩
  | cons key rest ih =>
      have hstep := removeFlowKey_apply key s
      rw [removeKeys_cons]
      cases hprepare : s.client.prepare .delete (flowPath key) none with
      | error e =>
          rw [exchange_error hprepare] at hstep
          rw [hstep]
          exact ⟨[], rfl, by simp⟩
      | ok request =>
          have hasks := Client.asksFor_of_prepare hprepare
          rw [exchange_ok hprepare] at hstep
          rw [hstep]
          cases s.client.answer request (s.controller.receive request).1 with
          | error e => exact ⟨[request], rfl, by simpa using .inl hasks⟩
          | ok reply =>
              obtain ⟨requests, hafter, hall⟩ :=
                ih ⟨s.client.pointedAt (flowPath key), (s.controller.receive request).2⟩
              refine ⟨request :: requests, hafter, ?_⟩
              rw [List.forall_mem_cons]
              refine ⟨⟨key, List.mem_cons_self, hasks⟩, ?_⟩
              intro next hnext
              obtain ⟨key', hkey', hasks'⟩ := hall next hnext
              exact ⟨key', List.mem_cons_of_mem key hkey', hasks'⟩

theorem removeKeys_keys {keys : List FlowKey} {s : Session} {removals : List Removal}
    (h : (removeKeys keys s).1 = .ok removals) : removals.map Removal.key = keys := by
  induction keys generalizing s removals with
  | nil =>
      obtain rfl : [] = removals := Except.ok.inj h
      rfl
  | cons key rest ih =>
      rw [removeKeys_cons] at h
      cases hstep : removeFlowKey key s with
      | mk r s' =>
          rw [hstep] at h
          cases r with
          | error e => simp at h
          | ok outcome =>
              simp only at h
              cases hrest : (removeKeys rest s').1 with
              | error e => simp [hrest, Except.map] at h
              | ok rest' =>
                  rw [hrest] at h
                  obtain rfl := Except.ok.inj h
                  rw [List.map_cons, ih hrest]

end Session

/-! ## Listings -/

/-- Whether a flow neither gives itself an id nor has a name that is more than blanks. -/
def IsNameless (record : Value) : Prop :=
  ownId? record = none ∧ ∀ name ∈ ownName? record, isBlankText name = true

/-- Whether a listing addresses its flows as it should. -/
structure AddressesFlows (l : Listing) : Prop where
  /-- No key has an id that is empty or has blanks around it. -/
  usable : ∀ key ∈ l.keys, IsUsable key.id
  /-- The flows without a key are those without an id and without a name. -/
  entries : List.Forall₂ (fun flow entry => entry = none ↔ IsNameless flow) l.flows l.entries
  /-- A blank id is shown for the flows without a key, and for no others. -/
  shown : List.Forall₂
    (fun entry row => ∃ cell, (flowTable l).cell? "ID" row = some cell ∧
      (isBlankText cell = true ↔ entry = none))
    l.entries (flowTable l).rows
  /-- A sweep that ends well has passed over the flows without a key, and over no others. -/
  swept : ∀ s removals, (Session.removeKeys l.keys s).1 = .ok removals →
    removals.map (some ·.key) = l.entries.filter Option.isSome
  /-- A sweep sends nothing but deletions, and each goes to a flow of the table: the segment of its
  path, and that of its URL where the id can be one, is not empty. -/
  deletes : ∀ s, ∃ requests,
    (Session.removeKeys l.keys s).2.controller = s.controller.after requests ∧
    ∀ request ∈ requests, ∃ id, IsUsable id ∧
      s.client.AsksFor .delete (Path.flow l.node l.table id) request ∧
      ∀ host, Url.IsPlainHost s.client.host.toList host → s.client.port < 65536 →
        Url.IsOneSegment id.toList →
        ∃ segment, segment ≠ [] ∧ Url.pathSegments request.url =
          Path.segments (Path.flowTable l.node l.table) ++ ["flow".toList, segment]

theorem forall₂_flows_entries {l : Listing} {R : Value → Option FlowKey → Prop}
    (h : ∀ flow ∈ l.flows, R flow (FlowKey.ofListed flow l.node l.table).toOption) :
    List.Forall₂ R l.flows l.entries := by
  rw [Listing.entries, List.forall₂_map_right_iff, List.forall₂_same]
  exact h

theorem cell?_id (l : Listing) (node table name priority : String) (entry : Option FlowKey) :
    (flowTable l).cell? "ID" [node, table, entry.elim "" (·.id), name, priority] =
      some (entry.elim "" (·.id)) := by
  rfl

theorem isBlankText_elim_iff {entry : Option FlowKey} (h : ∀ key ∈ entry, IsUsable key.id) :
    isBlankText (entry.elim "" (·.id)) = true ↔ entry = none := by
  cases entry with
  | none => simp [isBlankText]
  | some key => simp [(h key rfl).isBlankText_eq_false]

theorem shown_of_usable {l : Listing} (h : ∀ key ∈ l.keys, IsUsable key.id) :
    List.Forall₂
      (fun entry row => ∃ cell, (flowTable l).cell? "ID" row = some cell ∧
        (isBlankText cell = true ↔ entry = none))
      l.entries (flowTable l).rows := by
  have hrows : ∀ pair ∈ l.entries.zip l.flows, ∀ key ∈ pair.1, IsUsable key.id := by
    intro pair hpair key hkey
    apply h
    rw [Listing.keys, List.mem_filterMap]
    exact ⟨pair.1, (List.of_mem_zip hpair).1, hkey⟩
  have hentries : l.entries = (l.entries.zip l.flows).map Prod.fst := by
    rw [List.map_fst_zip (by simp [Listing.entries])]
  rw [hentries]
  simp only [flowTable]
  rw [List.forall₂_map_left_iff, List.forall₂_map_right_iff, List.forall₂_same]
  intro pair hpair
  exact ⟨_, cell?_id l _ _ _ _ pair.1, isBlankText_elim_iff (hrows pair hpair)⟩

theorem deletes_of_usable {l : Listing} (h : ∀ key ∈ l.keys, IsUsable key.id) (s : Session) :
    ∃ requests,
      (Session.removeKeys l.keys s).2.controller = s.controller.after requests ∧
      ∀ request ∈ requests, ∃ id, IsUsable id ∧
        s.client.AsksFor .delete (Path.flow l.node l.table id) request ∧
        ∀ host, Url.IsPlainHost s.client.host.toList host → s.client.port < 65536 →
          Url.IsOneSegment id.toList →
          ∃ segment, segment ≠ [] ∧ Url.pathSegments request.url =
            Path.segments (Path.flowTable l.node l.table) ++ ["flow".toList, segment] := by
  obtain ⟨requests, hafter, hall⟩ := Session.removeKeys_sends l.keys s
  refine ⟨requests, hafter, ?_⟩
  intro request hrequest
  obtain ⟨key, hkey, hasks⟩ := hall request hrequest
  obtain ⟨hnode, htable⟩ := Listing.mem_keys_address hkey
  refine ⟨key.id, h key hkey, ?_, ?_⟩
  · rw [← hnode, ← htable]
    exact hasks
  · intro host hhost hport hid
    rw [← hnode, ← htable]
    exact (namesFlow_of_asksFor hasks hhost hport hid).segment_ne_nil (h key hkey)

/-- A listing addresses its flows as it should exactly if each flow without an id has a name that
can stand in for one, or none. -/
theorem AddressesFlows.iff (l : Listing) :
    AddressesFlows l ↔ ∀ flow ∈ l.flows, NameWillDo flow := by
  rw [← l.keys_isUsable_iff]
  refine ⟨AddressesFlows.usable, fun h => ?_⟩
  have hnames := l.keys_isUsable_iff.mp h
  constructor
  case usable => exact h
  case entries =>
    exact forall₂_flows_entries fun flow hflow =>
      (hnames flow hflow).toOption_eq_none_iff l.node l.table
  case shown => exact shown_of_usable h
  case swept =>
    intro s removals hswept
    have hkeys := congrArg (List.map some) (Session.removeKeys_keys hswept)
    rw [List.map_map] at hkeys
    exact hkeys.trans l.map_some_keys
  case deletes => exact deletes_of_usable h

/-- The key of a record that stands alone can always be used. The key of a listed flow can be used,
and the listing addresses its flows as it should, exactly if names that stand in for ids can. -/
theorem flowKeys_isUsable (record : Value) (node table : Nat) (l : Listing) :
    (∀ key, FlowKey.ofRecord record = .ok key → IsUsable key.id) ∧
    ((∀ key, FlowKey.ofListed record node table = .ok key → IsUsable key.id) ↔
      NameWillDo record) ∧
    (AddressesFlows l ↔ ∀ flow ∈ l.flows, NameWillDo flow) :=
  ⟨fun _ => FlowKey.ofRecord_isUsable, FlowKey.ofListed_isUsable_iff record node table,
    AddressesFlows.iff l⟩

def namedListing : Listing :=
  { node := 1, table := 0, raw := .null
    flows := [.object [("flow-name", .string "voice")], .object [("priority", .string "100")]] }

theorem namedListing_addressesFlows :
    namedListing.keys = [{ node := 1, table := 0, id := "voice", name := some "voice" }] ∧
      AddressesFlows namedListing := by
  refine ⟨rfl, (flowKeys_isUsable (.object []) 1 0 namedListing).2.2.mpr ?_⟩
  intro flow hflow hid name hname
  simp only [namedListing, List.mem_cons, List.not_mem_nil, or_false] at hflow
  rcases hflow with rfl | rfl
  · obtain rfl : "voice" = name := Option.some.inj hname
    decide
  · exact absurd hname (Option.not_mem_none name)

def emptyNamed : Value :=
  .object [("name", .string "")]

/-- It has a key, with which a deletion goes to all flows of the table. -/
theorem ofListed_emptyNamed :
    ∃ key, FlowKey.ofListed emptyNamed 1 0 = .ok key ∧ ¬ IsUsable key.id ∧
      Session.flowPath key = Path.flowTable 1 0 ++ "/flow/" :=
  ⟨{ node := 1, table := 0, id := "", name := some "" }, rfl, by decide, rfl⟩

end Restconf

end FlowConsole
