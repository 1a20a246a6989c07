import FlowConsole.Proofs.TwoRuns
import FlowConsole.Proofs.Url.BareHost
/-!
Ports that do not matter.

Whether a URL can be made of a host and a port, what is wrong if it cannot, and whether it has a path
of its own is all up to the host.
-/
namespace FlowConsole.Url

theorem isSome_host_of_siteOfFront {s : List Char} {site : Url} (h : siteOfFront s = .ok site) :
    site.host.isSome := by
  unfold siteOfFront at h
  cases hhost : hostOfTaken (takeHost true false ((splitUserInfo true s).getD ([], s)).2).1 with
  | error e => simp [hhost, Except.bind] at h
  | ok read =>
      cases hport : portAfter (takeHost true false ((splitUserInfo true s).getD ([], s)).2).2 with
      | error e => simp [hhost, hport, Except.bind, Except.map] at h
      | ok port =>
          simp only [hhost, hport, Except.bind, Except.map] at h
          rw [← Except.ok.inj h]
          rfl

/-- In front of a port stands a host that is read with the port, or a text that is read the same
whatever the port. -/
theorem siteOfFront_cases (host : List Char) :
    (∃ info read, ∀ port, siteOfFront (front (hostPortText host port)) =
        (portAfter (':' :: Nat.toDigits 10 port)).map (siteOf info read)) ∨
      ∃ result, ∀ port, siteOfFront (front (hostPortText host port)) = result := by
  by_cases hnil : behindFront (hostLeft host) = []
  · have hleft : IsFront (hostLeft host) := by
      have hself := front_append_behindFront (hostLeft host)
      rw [hnil, List.append_nil] at hself
      exact hself ▸ isFront_front _
    obtain ⟨info, rest, hparts, hrest, -⟩ := splitUserInfo_hostPort hleft
    have hsite : ∀ port, siteOfFront (front (hostPortText host port)) =
        (hostOfTaken (takeHost true false (rest ++ ':' :: Nat.toDigits 10 port)).1).bind fun read =>
          (portAfter (takeHost true false (rest ++ ':' :: Nat.toDigits 10 port)).2).map
            (siteOf info read) := by
      intro port
      rw [front_eq_self (isFront_hostPortText hleft port)]
      unfold siteOfFront
      simp only [hparts port]
    simp only [hsite]
    rcases takeHost_port_cases hrest false with htaken | ⟨name, htaken⟩ | htaken
    · simp only [htaken]
      cases hostOfTaken rest with
      | error e => exact .inr ⟨.error e, fun port => rfl⟩
      | ok read => exact .inl ⟨info, read, fun port => rfl⟩
    · refine .inr ⟨(hostOfTaken name).bind fun _ => .error .invalidPort, fun port => ?_⟩
      obtain ⟨t, ht, hcolon⟩ := htaken port
      simp only [ht, portAfter_colon hcolon]
      rfl
    · simp only [htaken, hostOfTaken_port]
      exact .inr ⟨_, fun port => rfl⟩
  · exact .inr ⟨siteOfFront (front (hostLeft host)), fun port => by rw [front_hostPortText hnil]⟩

theorem siteOfFront_anyPort (host : List Char) {port port' : Nat} (hport : port < 65536)
    (hport' : port' < 65536) :
    Matches (fun site site' => site.host.isSome ∧ site'.host.isSome)
      (siteOfFront (front (hostPortText host port)))
      (siteOfFront (front (hostPortText host port'))) := by
  rcases siteOfFront_cases host with ⟨info, read, h⟩ | ⟨result, h⟩
  · rw [h, h, portAfter_toDigits hport, portAfter_toDigits hport']
    exact .ok ⟨rfl, rfl⟩
  · rw [h, h]
    cases hresult : result with
    | error e => exact .error e
    | ok site =>
        have hsome := isSome_host_of_siteOfFront ((h port).trans hresult)
        exact .ok ⟨hsome, hsome⟩

theorem exists_siteOfFront {host : List Char} {port : Nat} {site : Url}
    (h : siteOfFront (front (hostPortText host port)) = .ok site) {port' : Nat}
    (hport : port' < 65536) :
    ∃ site', siteOfFront (front (hostPortText host port')) = .ok site' := by
  rcases siteOfFront_cases host with ⟨info, read, hcase⟩ | ⟨result, hcase⟩
  · rw [hcase, portAfter_toDigits hport]
    exact ⟨_, rfl⟩
  · exact ⟨site, by rw [hcase, ← hcase port, h]⟩

theorem readPath_congr {s t : List Char} (h : s.takeWhile inPath = t.takeWhile inPath) :
    (readPath true s).1 = (readPath true t).1 := by
  have hin : (fun c => !(c == '?' || c == '#')) = inPath := rfl
  unfold readPath
  simp only [hin, h]
  split <;> rfl

/-- Whether a host leaves the path empty is the same for all ports. -/
theorem readPath_anyPort (host : List Char) (port port' : Nat) :
    (readPath true (behindFront (hostPortText host port) ++ ['/'])).1 = "/" ↔
      (readPath true (behindFront (hostPortText host port') ++ ['/'])).1 = "/" := by
  simp only [behindFront_hostPortText]
  by_cases hnil : behindFront (hostLeft host) = []
  · simp only [if_pos hnil]
  · simp only [if_neg hnil]
    obtain ⟨c, s, hcons⟩ := List.exists_cons_of_ne_nil hnil
    by_cases hin : ∀ d ∈ c :: s, inPath d = true
    · -- The path takes the port along.
      have hends := endsFront_behindFront_append (hostLeft host) (t := []) (by simp [EndsFront]) c
        (by simp [hcons])
      have hc := hin c List.mem_cons_self
      simp only [inPath, Bool.not_eq_true', Bool.or_eq_false_iff] at hc
      simp only [endsAuthority, hc, Bool.or_false, Bool.true_and] at hends
      have hne := readPath_port_slash hends fun d hd => hin d (List.mem_cons_of_mem c hd)
      rw [hcons]
      exact iff_of_false (hne port) (hne port')
    · -- A query or fragment takes it.
      have hcut : ∀ t, (behindFront (hostLeft host) ++ t).takeWhile inPath =
          (behindFront (hostLeft host)).takeWhile inPath := by
        intro t
        rw [List.takeWhile_append, if_neg]
        rw [hcons]
        intro hlength
        exact hin (List.takeWhile_eq_self_iff.mp
          ((List.takeWhile_prefix inPath).eq_of_length hlength))
      rw [List.append_assoc, List.append_assoc, readPath_congr ((hcut _).trans (hcut _).symm)]

/-- At the root every port gives a URL to a host or none does, and then for the same reason. -/
theorem parseChars_anyPort (host : List Char) {port port' : Nat} (hport : port < 65536)
    (hport' : port' < 65536) :
    Matches (fun u u' => u.host.isSome ∧ u'.host.isSome ∧ (u.path = "/" ↔ u'.path = "/"))
      (parseChars (httpText host port ++ ['/'])) (parseChars (httpText host port' ++ ['/'])) := by
  rw [parseChars_httpText_eq, parseChars_httpText_eq]
  have hmatch := siteOfFront_anyPort host hport hport'
  generalize siteOfFront (front (hostPortText host port)) = x at hmatch ⊢
  generalize siteOfFront (front (hostPortText host port')) = x' at hmatch ⊢
  cases hmatch with
  | error e => exact .error e
  | ok h => exact .ok ⟨h.1, h.2, readPath_anyPort host port port'⟩

end FlowConsole.Url
