import FlowConsole.Proofs.Restconf.AcceptedHost
/-!
Hosts that are refused.

What a refusal says is up to the host, not to the port, and it says which host it is about: no two
hosts are refused in the same words.
-/
namespace FlowConsole.Config

/-- A host is accepted or refused in the same words whatever the port. -/
theorem checkHost_anyPort (host : String) {port port' : Nat} (hport : port < 65536)
    (hport' : port' < 65536) : checkHost host port = checkHost host port' := by
  have hmatch := Url.parseChars_anyPort host.toList hport hport'
  unfold checkHost Url.parse
  rw [probe_toList, probe_toList]
  generalize Url.parseChars (Url.httpText host.toList port ++ ['/']) = x at hmatch ⊢
  generalize Url.parseChars (Url.httpText host.toList port' ++ ['/']) = x' at hmatch ⊢
  cases hmatch with
  | error e => rfl
  | ok h =>
      obtain ⟨hhost, hhost', hpath⟩ := h
      simp only [Option.isNone_eq_false_iff.mpr hhost, Option.isNone_eq_false_iff.mpr hhost', ne_eq,
        hpath]

def refusals : List String :=
  [" is not a bare host name", ": empty host", ": invalid port number", ": invalid IPv4 address",
    ": invalid IPv6 address", ": invalid international domain name", ": invalid domain character",
    ": relative URL without a base"]

theorem checkHost_error_cases {host : String} {port : Nat} {e : Error}
    (h : checkHost host port = .error e) :
    (host = "" ∧ e = .invalid "host" "host is empty") ∨
      ∃ refusal ∈ refusals, e = .invalid "host" ("'" ++ host ++ "'" ++ refusal) := by
  unfold checkHost at h
  split at h
  · rename_i hempty
    exact .inl ⟨by simpa using hempty, (Except.error.inj h).symm⟩
  · refine .inr ?_
    split at h
    · rename_i fault _
      refine ⟨": " ++ fault.message, ?_, ?_⟩
      · cases fault <;> decide
      · rw [← Except.error.inj h]
        simp [toString, ← String.toList_inj]
    · split at h
      · exact ⟨" is not a bare host name", by decide, by
          rw [← Except.error.inj h]
          simp [toString, String.append_assoc]⟩
      · simp at h

theorem eq_of_refusals_suffix : ∀ r ∈ refusals, ∀ r' ∈ refusals, r.toList <:+ r'.toList → r = r' := by
  decide

theorem eq_of_checkHost_error {host host' : String} {port port' : Nat} {e : Error}
    (h : checkHost host port = .error e) (h' : checkHost host' port' = .error e) : host = host' := by
  have hquote : ∀ (s : String) r, "host is empty" ≠ "'" ++ s ++ "'" ++ r := by
    intro s r heq
    have hlist := congrArg String.toList heq
    simp [String.toList_append] at hlist
  rcases checkHost_error_cases h with ⟨rfl, rfl⟩ | ⟨r, hr, rfl⟩ <;>
    rcases checkHost_error_cases h' with ⟨rfl, he⟩ | ⟨r', hr', he⟩
  · rfl
  · exact absurd (Error.invalid.inj he).2 (hquote host' r')
  · exact absurd (Error.invalid.inj he).2.symm (hquote host r)
  · have htext : "'" ++ host ++ "'" ++ r = "'" ++ host' ++ "'" ++ r' := (Error.invalid.inj he).2
    have hlist := congrArg String.toList htext
    simp only [String.toList_append] at hlist
    obtain rfl : r = r' := by
      have hsuffix := List.suffix_append ("'".toList ++ host.toList ++ "'".toList) r.toList
      have hsuffix' := List.suffix_append ("'".toList ++ host'.toList ++ "'".toList) r'.toList
      rw [hlist] at hsuffix
      rcases List.suffix_or_suffix_of_suffix hsuffix hsuffix' with hin | hin
      · exact eq_of_refusals_suffix r hr r' hr' hin
      · exact (eq_of_refusals_suffix r' hr' r hr hin).symm
    rw [← String.toList_inj]
    simpa using hlist

def isRefused (host : String) : Bool := !(checkHost host Restconf.defaultPort).isOk

def refused? (hosts : List String) : Option String := hosts.find? isRefused

theorem isRefused_iff (host : String) :
    isRefused host = true ↔ ∃ e, checkHost host Restconf.defaultPort = .error e := by
  unfold isRefused
  cases checkHost host Restconf.defaultPort <;> simp [Except.isOk, Except.toBool]

theorem checkHost_of_not_isRefused {host : String} (h : ¬ isRefused host = true) :
    checkHost host Restconf.defaultPort = .ok () := by
  rw [isRefused_iff] at h
  cases hcheck : checkHost host Restconf.defaultPort with
  | error e => exact absurd ⟨e, hcheck⟩ h
  | ok _ => rfl

theorem refused?_eq_none_iff {hosts : List String} :
    refused? hosts = none ↔ ∀ host ∈ hosts, checkHost host Restconf.defaultPort = .ok () := by
  rw [refused?, List.find?_eq_none]
  refine forall₂_congr fun host _ => ⟨checkHost_of_not_isRefused, fun haccepted hrefused => ?_⟩
  obtain ⟨e, he⟩ := (isRefused_iff host).mp hrefused
  rw [haccepted] at he
  cases he

/-- Checking hosts one after the other is checking the first that is refused. -/
theorem forM_checkHost (hosts : List String) :
    (forM hosts fun host => checkHost host Restconf.defaultPort) =
      (refused? hosts).elim (.ok ()) fun host => checkHost host Restconf.defaultPort := by
  induction hosts with
  | nil => rfl
  | cons host hosts ih =>
      rw [List.forM_cons, ih]
      by_cases hrefused : isRefused host = true
      · obtain ⟨e, he⟩ := (isRefused_iff host).mp hrefused
        rw [show refused? (host :: hosts) = some host from List.find?_cons_of_pos hrefused,
          Option.elim_some, he]
        rfl
      · rw [show refused? (host :: hosts) = refused? hosts from List.find?_cons_of_neg hrefused,
          checkHost_of_not_isRefused hrefused]
        rfl

/-- Two lists of hosts fare the same exactly if the first host refused is the same. -/
theorem forM_checkHost_bind_eq_iff {α : Type} (hosts hosts' : List String) (a : α) :
    ((forM hosts fun host => checkHost host Restconf.defaultPort) >>= fun _ => Except.ok a) =
        ((forM hosts' fun host => checkHost host Restconf.defaultPort) >>= fun _ => .ok a) ↔
      refused? hosts = refused? hosts' := by
  have hfails : ∀ {hosts host}, refused? hosts = some host →
      ∃ e, checkHost host Restconf.defaultPort = .error e := fun h =>
    (isRefused_iff _).mp (List.find?_some h)
  rw [forM_checkHost, forM_checkHost]
  cases hfirst : refused? hosts with
  | none =>
      cases hfirst' : refused? hosts' with
      | none => simp
      | some host' =>
          obtain ⟨e', he'⟩ := hfails hfirst'
          simp [he', Bind.bind, Except.bind]
  | some host =>
      obtain ⟨e, he⟩ := hfails hfirst
      cases hfirst' : refused? hosts' with
      | none => simp [he, Bind.bind, Except.bind]
      | some host' =>
          obtain ⟨e', he'⟩ := hfails hfirst'
          simp only [Option.elim_some, he, he', Option.some.injEq]
          constructor
          · intro h
            obtain rfl := Except.error.inj h
            exact eq_of_checkHost_error he he'
          · rintro rfl
            rw [← he, ← he']

end FlowConsole.Config
