import FlowConsole.Config.Resolve
import FlowConsole.Proofs.Http.Traffic
import FlowConsole.Proofs.Restconf.Resource
import FlowConsole.Proofs.Url.AnyPort
/-!
Where the calls to an accepted host lead.

A host is accepted if the URL made of it and a port has a host and no path of its own. That much is
enough for every call to have a URL. The URL leads to the path of the call, at the port, exactly if
the host is bare.
-/
namespace FlowConsole

open Http (Client IsAbsolute)
open Url (IsBareHost IsPlainHost IsPlainSegment LeadsTo slashed)

namespace Config

theorem probe_toList (host : String) (port : Nat) :
    s!"http://{host}:{port}/".toList = Url.httpText host.toList port ++ ['/'] := by
  simp [Url.httpText, toString, Nat.repr]

theorem exists_probe_of_checkHost {host : String} {port : Nat} (h : checkHost host port = .ok ()) :
    ∃ probe, Url.parseChars (Url.httpText host.toList port ++ ['/']) = .ok probe ∧
      probe.path = "/" := by
  unfold checkHost Url.parse at h
  rw [probe_toList] at h
  split at h
  · simp at h
  · split at h
    · simp at h
    · rename_i probe hprobe
      refine ⟨probe, hprobe, ?_⟩
      by_contra hpath
      rw [if_pos (.inr hpath)] at h
      simp at h

theorem checkHost_ok {host : String} {port : Nat} (hne : host ≠ "") {probe : Url}
    (hprobe : Url.parseChars (Url.httpText host.toList port ++ ['/']) = .ok probe)
    (hhost : probe.host.isSome) (hpath : probe.path = "/") : checkHost host port = .ok () := by
  obtain ⟨name, hname⟩ := Option.isSome_iff_exists.mp hhost
  unfold checkHost Url.parse
  rw [probe_toList, hprobe, if_neg (by simpa using hne)]
  simp [hname, hpath]

/-- An accepted host has a URL for each path, at its own port and at every other. -/
theorem exists_url_of_checkHost {c : Client} {port : Nat}
    (haccept : checkHost c.host port = .ok ()) (hport : c.port = port ∨ c.port < 65536)
    {path : String} (hpath : IsAbsolute path) : ∃ url, Url.parse (c.urlText path) = .ok url := by
  obtain ⟨rest, hpath⟩ := hpath
  obtain ⟨probe, hprobe, -⟩ := exists_probe_of_checkHost haccept
  rw [Url.parseChars_httpText_eq] at hprobe
  unfold Url.parse
  rw [Client.urlText_toList c hpath, Url.parseChars_httpText_eq]
  cases hsite : Url.siteOfFront (Url.front (Url.hostPortText c.host.toList port)) with
  | error e => simp [hsite, Except.map] at hprobe
  | ok site =>
      obtain ⟨site', hsite'⟩ : ∃ site', Url.siteOfFront
          (Url.front (Url.hostPortText c.host.toList c.port)) = .ok site' := by
        rcases hport with hport | hport
        · exact ⟨site, hport ▸ hsite⟩
        · exact Url.exists_siteOfFront hsite hport
      exact ⟨_, by rw [hsite']; rfl⟩

theorem checkHost_of_isPlainHost {host : String} {name : Url.Host}
    (h : IsPlainHost host.toList name) {port : Nat} (hport : port < 65536) :
    checkHost host port = .ok () := by
  have hprobe := h.parseChars_eq hport []
  apply checkHost_ok _ hprobe rfl rfl
  rintro rfl
  exact h.ne_nil rfl

end Config

namespace Restconf

/-- The resources that the program calls by their own path, flows apart. -/
inductive Path.IsResource : String → Prop
  | topology : IsResource Path.topology
  | statistics : IsResource Path.statistics
  | flowTable (node table : Nat) : IsResource (Path.flowTable node table)
  | cmts (id : Nat) : IsResource (Path.cmts id)

theorem Path.IsResource.exists_slashed {path : String} (h : IsResource path) :
    ∃ parts, path.toList = slashed parts ∧ parts ≠ [] ∧ ∀ part ∈ parts, IsPlainSegment part := by
  obtain ⟨r, rfl, hword⟩ : ∃ r : Resource, r.path = path ∧ r.IsNamedByWord := by
    cases h with
    | topology => exact ⟨.topology, rfl, trivial⟩
    | statistics => exact ⟨.statistics, rfl, trivial⟩
    | flowTable node table => exact ⟨.flowTable node table, rfl, trivial⟩
    | cmts id => exact ⟨.cmts id, rfl, trivial⟩
  exact ⟨r.segments, r.path_slashed, r.segments_ne_nil, Resource.segments_plain hword⟩

/-- At an accepted host every resource has a URL, and it leads to the resource exactly if the host
is bare. -/
theorem url_leadsTo_iff {c : Client} (hport : c.port < 65536)
    (haccept : Config.checkHost c.host c.port = .ok ()) {path : String}
    (hpath : Path.IsResource path) :
    ∃ u, (c.pointedAt path).url = .ok u ∧ (LeadsTo u path c.port ↔ IsBareHost c.host.toList) := by
  obtain ⟨probe, hprobe, hslash⟩ := Config.exists_probe_of_checkHost haccept
  obtain ⟨parts, hparts, hne, hplain⟩ := hpath.exists_slashed
  obtain ⟨u, hu, hleads⟩ := Url.parseChars_leadsTo_iff hport hprobe hslash hplain hne
  obtain ⟨part, rest, rfl⟩ := List.exists_cons_of_ne_nil hne
  have habsolute : path.toList = '/' :: (part ++ slashed rest) := by
    rw [hparts, Url.slashed_cons]
  refine ⟨u, ?_, ?_⟩
  · rw [Client.url_eq, Url.parse, Client.urlText_toList c habsolute, ← Url.slashed_cons, hu]
    rfl
  · rwa [← hparts, String.ofList_toList] at hleads

theorem hostCredentials?_eq_none {c : Client} (hport : c.port < 65536)
    (haccept : Config.checkHost c.host c.port = .ok ()) (hbare : IsBareHost c.host.toList) :
    c.hostCredentials? = none := by
  obtain ⟨probe, hprobe, hslash⟩ := Config.exists_probe_of_checkHost haccept
  have hroot : ∀ part ∈ [([] : List Char)], IsPlainSegment part := by decide
  obtain ⟨u, hu, hleads⟩ := Url.parseChars_leadsTo_iff hport hprobe hslash hroot (by simp)
  obtain ⟨-, -, -, -, husername, hpassword⟩ := hleads.mpr hbare
  have hparse : Url.parse (c.urlText "/") = .ok u := by
    rw [Url.parse, Client.urlText_toList c (show "/".toList = '/' :: [] from rfl)]
    exact hu
  unfold Client.hostCredentials?
  rw [hparse]
  exact Client.urlCredentials?_eq_none husername hpassword

theorem url_leadsTo_localhost :
    ∃ u, (Client.ofLocalhost.pointedAt (Path.flowTable 1 0)).url = .ok u ∧
      LeadsTo u (Path.flowTable 1 0) 8181 := by
  have haccept : Config.checkHost "localhost" 8181 = .ok () :=
    Config.checkHost_of_isPlainHost Client.ofLocalhost_isPlain.isHost (by decide)
  obtain ⟨u, hu, hleads⟩ := url_leadsTo_iff (c := Client.ofLocalhost) (by decide) haccept
    (.flowTable 1 0)
  exact ⟨u, hu, hleads.mpr ⟨by decide, by decide, Url.hasNoUserInfo_of_not_mem (by decide)⟩⟩

def queryingClient : Client :=
  { host := "controller.lab?x", port := 8181, path := none, credentials := none, timeout := none }

def queryingSite : Url :=
  Url.siteOf [] (.domain "controller.lab") none

theorem queryingClient_parse (t : List Char) :
    Url.parseChars (Url.httpText queryingClient.host.toList queryingClient.port ++ '/' :: t) =
      .ok (Url.locate queryingSite true ("?x:8181".toList ++ '/' :: Url.cleanEnd t)) := by
  have hfront : Url.front (Url.hostPortText queryingClient.host.toList queryingClient.port) =
      "controller.lab".toList := by decide
  have hsplit : Url.splitUserInfo true "controller.lab".toList = none := by decide
  have htake : Url.takeHost true false "controller.lab".toList =
      ("controller.lab".toList, []) := by decide
  have hname : Url.IsHostName "controller.lab".toList := by decide
  have hhost := (hname.isPlainHost_domain (by decide) (by decide)).isHost
  have hsite : Url.siteOfFront "controller.lab".toList = .ok queryingSite := by
    unfold Url.siteOfFront Url.hostOfTaken
    simp only [hsplit, Option.getD_none, htake, hhost]
    rfl
  rw [Url.parseChars_httpText_eq, hfront, hsite]
  rfl

/-- Its host is accepted, and every call goes to the root of another port. -/
theorem url_loses_path :
    Config.checkHost queryingClient.host queryingClient.port = .ok () ∧
      ∃ u, (queryingClient.pointedAt Path.topology).url = .ok u ∧ u.path = "/" ∧
        u.effectivePort? = some 80 ∧ u.query = some ("x:8181" ++ Path.topology) ∧
        ¬ LeadsTo u Path.topology queryingClient.port := by
  obtain ⟨rest, hrest⟩ := Path.isAbsolute_topology
  have hclean : '/' :: Url.cleanEnd rest = Path.topology.toList := by
    have hcons := Url.cleanEnd_append_slash [] rest
    rw [List.nil_append, ← hrest] at hcons
    exact hcons.symm.trans (by decide)
  refine ⟨Config.checkHost_ok (by decide) (queryingClient_parse []) rfl rfl,
    Url.locate queryingSite true ("?x:8181".toList ++ Path.topology.toList), ?_, rfl, rfl, ?_, ?_⟩
  · rw [Client.url_eq, Url.parse, Client.urlText_toList queryingClient hrest,
      queryingClient_parse, hclean]
    rfl
  · rfl
  · intro hleads
    exact absurd hleads.path (by decide)

end Restconf

end FlowConsole
