import FlowConsole.Proofs.Url.HostColon
import FlowConsole.Proofs.Url.PlainHost
import FlowConsole.Proofs.Url.Segments
/-!
Hosts that are a host wherever a URL has its host.

The text of a host stands between `http://` and a port. Where the URL made so has no path but a
slash, the port is the one given, whatever the text was. Path, query, fragment and user information
of any URL made with that text are as they should be exactly if the text is bare.
-/
namespace FlowConsole.Url

open Text

/-- Whether nothing is said in front of the last `@`. A colon alone says nothing. -/
def HasNoUserInfo (s : List Char) : Prop :=
  ∀ info rest, s = info ++ '@' :: rest → '@' ∉ rest → info = [] ∨ info = [':']

/-- A text that adds neither user information nor query nor fragment to a URL. -/
structure IsBareHost (s : List Char) : Prop where
  noQuery : '?' ∉ s
  noFragment : '#' ∉ s
  noUserInfo : HasNoUserInfo (hostLeft s)

/-- A URL that leads to a path at a port, with nothing said besides. -/
structure LeadsTo (u : Url) (path : String) (port : Nat) : Prop where
  path : u.path = path
  port : u.effectivePort? = some port
  noQuery : u.query = none
  noFragment : u.fragment = none
  noUsername : u.username = ""
  noPassword : u.password = none

/-! ## What is left of a host -/

theorem mem_hostLeft {c : Char} (hslash : isSlash c = false) (hbreak : isBreak c = false)
    {s : List Char} (h : c ∈ s) : c ∈ hostLeft s := by
  have hfilter : c ∈ s.filter fun d => !isBreak d := List.mem_filter.mpr ⟨h, by simp [hbreak]⟩
  rw [← List.takeWhile_append_dropWhile (p := isSlash) (l := s.filter fun d => !isBreak d),
    List.mem_append] at hfilter
  rcases hfilter with htake | hdrop
  · exact absurd (List.mem_takeWhile_imp htake) (by simp [hslash])
  · exact hdrop

theorem mem_of_mem_hostLeft {c : Char} {s : List Char} (h : c ∈ hostLeft s) : c ∈ s :=
  List.mem_of_mem_filter ((List.dropWhile_sublist _).subset h)

theorem isFront_port (port : Nat) : IsFront (':' :: Nat.toDigits 10 port) := by
  intro c hc
  rcases List.mem_cons.mp hc with rfl | hc
  · decide
  · exact ((isSign_eq_false_iff c).mp (toDigits_noSigns port c hc)).1

theorem not_mem_port {c : Char} (hsign : isSign c = true) (hc : c ≠ ':') (port : Nat) :
    c ∉ ':' :: Nat.toDigits 10 port := by
  intro h
  rcases List.mem_cons.mp h with rfl | h
  · exact hc rfl
  · exact absurd (toDigits_noSigns port c h) (by simp [hsign])

theorem behindFront_hostPortText (host : List Char) (port : Nat) :
    behindFront (hostPortText host port) =
      if behindFront (hostLeft host) = [] then []
      else behindFront (hostLeft host) ++ ':' :: Nat.toDigits 10 port := by
  have hport := behindFront_eq_nil (isFront_port port)
  unfold behindFront hostPortText at *
  rw [List.dropWhile_append, hport]
  simp only [List.isEmpty_iff]

/-! ## Path, query and fragment -/

theorem readPath_port_slash {c : Char} (hc : isSlash c = true) {s : List Char}
    (hs : ∀ d ∈ s, inPath d = true) (port : Nat) :
    (readPath true (c :: s ++ ':' :: Nat.toDigits 10 port ++ ['/'])).1 ≠ "/" := by
  have hportPath : ∀ d ∈ ':' :: Nat.toDigits 10 port, inPath d = true ∧ isSlash d = false := by
    intro d hd
    have hfront := isFront_port port d hd
    simp only [endsAuthority, Bool.true_and, Bool.or_eq_false_iff] at hfront
    simp [inPath, isSlash, hfront]
  have hall : ∀ d ∈ s ++ ':' :: Nat.toDigits 10 port ++ ['/'], inPath d = true := by
    intro d hd
    rcases List.mem_append.mp hd with hd | hd
    · exact (List.mem_append.mp hd).elim (hs d) fun hd => (hportPath d hd).1
    · rw [List.mem_singleton.mp hd]
      decide
  obtain ⟨before, last, hsplit⟩ :=
    exists_splitWhere_append (p := isSlash) s fun d hd => (hportPath d hd).2
  have hcolon : ':' ∈ last ++ ':' :: Nat.toDigits 10 port := by simp
  obtain ⟨hdouble, hsingle⟩ := not_dot_of_mem_colon hcolon
  obtain ⟨kept, hkept⟩ := exists_resolve_append [] before
    [last ++ ':' :: Nat.toDigits 10 port, []]
  have hnil : isDoubleDot [] = false ∧ isSingleDot [] = false := by decide
  rw [List.append_assoc, List.cons_append, ← List.append_assoc, readPath_slash hc,
    List.takeWhile_eq_self_iff.mpr hall, splitWhere_append_cons (by decide), hsplit,
    List.append_assoc, List.singleton_append, splitWhere_eq_singleton (s := []) (by simp), hkept,
    resolve_cons, if_neg (by simp [hdouble]), if_neg (by simp [hsingle]), resolve_cons,
    if_neg (by simp [hnil]), if_neg (by simp [hnil]), resolve_nil]
  intro h
  have hlength := congrArg (fun t : String => t.toList.length) h
  simp [pathText] at hlength
  omega

theorem tail_ne_none {s : List Char} {c : Char} (hc : inPath c = false) (h : c ∈ s) (site : Url) :
    ¬ ((locate site true s).query = none ∧ (locate site true s).fragment = none) := by
  intro hnone
  have htail : readQueryFragment true (s.dropWhile inPath) = (none, none) := by
    rw [← readPath_snd s]
    exact Prod.ext hnone.1 hnone.2
  have hdrop := (readQueryFragment_eq_none_iff s).mp htail
  exact absurd (List.dropWhile_eq_nil_iff.mp hdrop c h) (by simp [hc])

/-- A host that leaves the path empty is read up to the port, or it has a query or fragment. -/
theorem isFront_of_readPath {host : List Char} {port : Nat}
    (hpath : (readPath true (behindFront (hostPortText host port) ++ ['/'])).1 = "/")
    (hquery : '?' ∉ host) (hfragment : '#' ∉ host) : behindFront (hostPortText host port) = [] := by
  rw [behindFront_hostPortText] at hpath ⊢
  by_cases hnil : behindFront (hostLeft host) = []
  · exact if_pos hnil
  · exfalso
    have hin : ∀ d ∈ behindFront (hostLeft host), inPath d = true := by
      intro d hd
      have hmem : d ∈ host := mem_of_mem_hostLeft ((List.dropWhile_sublist _).subset hd)
      have hq : d ≠ '?' := fun h => hquery (h ▸ hmem)
      have hf : d ≠ '#' := fun h => hfragment (h ▸ hmem)
      simp [inPath, hq, hf]
    obtain ⟨c, s, hcons⟩ := List.exists_cons_of_ne_nil hnil
    have hends := endsFront_behindFront_append (hostLeft host) (t := []) (by simp [EndsFront]) c
      (by simp [hcons])
    rw [if_neg hnil, hcons] at hpath
    rw [hcons] at hin
    have hc := hin c List.mem_cons_self
    simp only [inPath, Bool.not_eq_true', Bool.or_eq_false_iff] at hc
    simp only [endsAuthority, hc, Bool.or_false, Bool.true_and] at hends
    exact readPath_port_slash hends (fun d hd => hin d (List.mem_cons_of_mem c hd)) port hpath

/-! ## Port and user information -/

theorem takeHost_eq_self {s : List Char} (h : ∀ c ∈ s, isSign c = false) (bracketed : Bool) :
    takeHost true bracketed s = (s, []) := by
  induction s generalizing bracketed with
  | nil => rfl
  | cons c s ih =>
      have hc := (isSign_eq_false_iff c).mp (h c List.mem_cons_self)
      simp [takeHost, hc, ih fun d hd => h d (List.mem_cons_of_mem c hd)]

/-- Where the host in front of a port ends: there, or at a colon before it, or not at all because a
bracket stands open. Which of them it is does not depend on the port. -/
theorem takeHost_port_cases {s : List Char} (hs : IsFront s) (bracketed : Bool) :
    (∀ port, takeHost true bracketed (s ++ ':' :: Nat.toDigits 10 port) =
        (s, ':' :: Nat.toDigits 10 port)) ∨
      (∃ name, ∀ port, ∃ t, takeHost true bracketed (s ++ ':' :: Nat.toDigits 10 port) =
        (name, ':' :: t) ∧ ':' ∈ t) ∨
      ∀ port, takeHost true bracketed (s ++ ':' :: Nat.toDigits 10 port) =
        (s ++ ':' :: Nat.toDigits 10 port, []) := by
  induction s generalizing bracketed with
  | nil =>
      cases bracketed with
      | false => exact .inl fun port => rfl
      | true =>
          refine .inr (.inr fun port => ?_)
          simp [takeHost, takeHost_eq_self (toDigits_noSigns port), endsAuthority]
  | cons c s ih =>
      have hc := hs c List.mem_cons_self
      by_cases hstop : c = ':' ∧ (!bracketed) = true
      · refine .inr (.inl ⟨[], fun port => ?_⟩)
        rw [List.cons_append, takeHost, if_pos (.inl hstop)]
        exact ⟨_, by rw [hstop.1], by simp⟩
      · have hgo : ∀ t, takeHost true bracketed (c :: t) =
            (c :: (takeHost true (if c = '[' then true else if c = ']' then false else bracketed)
              t).1, (takeHost true (if c = '[' then true else if c = ']' then false else bracketed)
              t).2) := by
          intro t
          rw [takeHost, hc, if_neg (by simpa using hstop)]
        simp only [List.cons_append, hgo]
        rcases ih hs.of_cons (if c = '[' then true else if c = ']' then false else bracketed) with
          h | ⟨name, h⟩ | h
        · exact .inl fun port => by rw [h port]
        · refine .inr (.inl ⟨c :: name, fun port => ?_⟩)
          obtain ⟨t, ht, hcolon⟩ := h port
          exact ⟨t, by rw [ht], hcolon⟩
        · exact .inr (.inr fun port => by rw [h port])

/-- A host that would take the port along is a fault, and which one is up to how it begins. -/
theorem hostOfTaken_port (s : List Char) (port : Nat) :
    hostOfTaken (s ++ ':' :: Nat.toDigits 10 port) =
      .error (if s.head? = some '[' then .invalidIpv6 else .invalidDomain) := by
  have hmem : ':' ∈ s ++ ':' :: Nat.toDigits 10 port := by simp
  unfold hostOfTaken
  rw [if_neg (by simp)]
  cases s with
  | nil => exact hostOfText_colon hmem (by simp)
  | cons c s =>
      by_cases hbracket : c = '['
      · subst hbracket
        -- A host in brackets ends in one, and this ends in a digit.
        have hlast : (s ++ ':' :: Nat.toDigits 10 port).getLast? ≠ some ']' := by
          rw [List.getLast?_append_cons]
          intro h
          exact not_mem_port (by decide) (by decide) port (List.mem_of_getLast? h)
        change bracketedHost (s ++ ':' :: Nat.toDigits 10 port) = .error .invalidIpv6
        unfold bracketedHost
        split
        · exact absurd ‹_› hlast
        · rfl
      · rw [List.head?_cons, if_neg fun h => hbracket (Option.some.inj h)]
        exact hostOfText_colon hmem fun h => hbracket (Option.some.inj h)

theorem portAfter_colon {t : List Char} (h : ':' ∈ t) : portAfter (':' :: t) = .error .invalidPort := by
  have hall : ¬ t.all Char.isDigit = true := by
    intro hall
    exact absurd (List.all_eq_true.mp hall ':' h) (by decide)
  exact if_neg fun hboth => hall hboth.1

/-- A host in front of a port is read with that port, or not at all. -/
theorem port_eq_of_read {port : Nat} (hport : port < 65536) {s : List Char} (hs : IsFront s)
    {host : Host} {read : Option Nat}
    (hhost : hostOfTaken (takeHost true false (s ++ ':' :: Nat.toDigits 10 port)).1 = .ok host)
    (hread : portAfter (takeHost true false (s ++ ':' :: Nat.toDigits 10 port)).2 = .ok read) :
    read = if port = 80 then none else some port := by
  rcases takeHost_port_cases hs false with h | h | h
  · rw [h port, portAfter_toDigits hport] at hread
    exact (Except.ok.inj hread).symm
  · obtain ⟨name, h⟩ := h
    obtain ⟨t, ht, hcolon⟩ := h port
    rw [ht, portAfter_colon hcolon] at hread
    simp at hread
  · rw [h port, hostOfTaken_port] at hhost
    simp at hhost

theorem percentEncode_eq_nil_iff {p : Char → Bool} {s : List Char} :
    percentEncode p s = [] ↔ s = [] := by
  constructor
  · intro h
    cases s with
    | nil => rfl
    | cons c s =>
        by_cases hc : p c = true
        · obtain ⟨rest, hrest⟩ := percentEncode_cons_head hc s
          simp [hrest] at h
        · rw [percentEncode_cons_of_not (by simpa using hc)] at h
          simp at h
  · rintro rfl
    rfl

theorem userInfoOf_eq_iff (info : List Char) :
    (userInfoOf info).1 = "" ∧ (userInfoOf info).2 = none ↔ info = [] ∨ info = [':'] := by
  constructor
  · rintro ⟨hname, hpassword⟩
    have hname : info.takeWhile (· != ':') = [] := by
      apply (percentEncode_eq_nil_iff (p := encodedInUserInfo)).mp
      exact String.ofList_inj.mp hname
    cases info with
    | nil => exact .inl rfl
    | cons c rest =>
        have hc : c = ':' := by
          by_contra hne
          simp [hne] at hname
        subst hc
        simp [userInfoOf] at hpassword
        exact .inr (by rw [hpassword])
  · rintro (rfl | rfl) <;> exact ⟨rfl, rfl⟩

theorem hasNoUserInfo_append {info rest : List Char} (hrest : '@' ∉ rest) :
    HasNoUserInfo (info ++ '@' :: rest) ↔ info = [] ∨ info = [':'] := by
  constructor
  · exact fun h => h info rest rfl hrest
  · intro h info' rest' heq hrest'
    obtain ⟨rfl, -⟩ := append_last_inj hrest hrest' heq
    exact h

theorem hasNoUserInfo_of_not_mem {s : List Char} (h : '@' ∉ s) : HasNoUserInfo s := by
  rintro info rest rfl -
  exact absurd (by simp) h

theorem isFront_hostPortText {host : List Char} (h : IsFront (hostLeft host)) (port : Nat) :
    IsFront (hostPortText host port) := by
  intro c hc
  exact (List.mem_append.mp hc).elim (h c) (isFront_port port c)

theorem splitUserInfo_hostPort {host : List Char} (hfront : IsFront (hostLeft host)) :
    ∃ info rest, (∀ port,
        (splitUserInfo true (hostPortText host port)).getD ([], hostPortText host port) =
          (info, rest ++ ':' :: Nat.toDigits 10 port)) ∧
      IsFront rest ∧ (HasNoUserInfo (hostLeft host) ↔ info = [] ∨ info = [':']) := by
  have hat : ∀ {s : List Char}, '@' ∉ s → ∀ port, '@' ∉ s ++ ':' :: Nat.toDigits 10 port := by
    intro s hs port
    rw [List.mem_append]
    exact not_or.mpr ⟨hs, not_mem_port (by decide) (by decide) port⟩
  have htext := isFront_hostPortText hfront
  unfold hostPortText at *
  by_cases hmem : '@' ∈ hostLeft host
  · obtain ⟨info, rest, hleft, hrest⟩ := exists_eq_append_last hmem
    rw [hleft] at hfront
    refine ⟨info, rest, fun port => ?_, hfront.of_append_right.of_cons, ?_⟩
    · have htext := htext port
      rw [hleft, List.append_assoc, List.cons_append] at htext ⊢
      rw [splitUserInfo_append_at htext (hat hrest port)]
      rfl
    · rw [hleft]
      exact hasNoUserInfo_append hrest
  · refine ⟨[], hostLeft host, fun port => ?_, hfront,
      iff_of_true (hasNoUserInfo_of_not_mem hmem) (.inl rfl)⟩
    rw [splitUserInfo_of_not_mem (htext port) (hat hmem port)]
    rfl

theorem siteOfFront_hostPort {host : List Char} {port : Nat} (hport : port < 65536)
    (hfront : IsFront (hostLeft host)) {site : Url}
    (hsite : siteOfFront (hostPortText host port) = .ok site) :
    site.effectivePort? = some port ∧
      (site.username = "" ∧ site.password = none ↔ HasNoUserInfo (hostLeft host)) := by
  obtain ⟨info, rest, hparts, hrest, hinfo⟩ := splitUserInfo_hostPort hfront
  unfold siteOfFront at hsite
  simp only [hparts port] at hsite
  cases hhost : hostOfTaken (takeHost true false (rest ++ ':' :: Nat.toDigits 10 port)).1 with
  | error e => simp [hhost, Except.bind] at hsite
  | ok read =>
      cases hread : portAfter (takeHost true false (rest ++ ':' :: Nat.toDigits 10 port)).2 with
      | error e => simp [hhost, hread, Except.bind, Except.map] at hsite
      | ok readPort =>
          simp only [hhost, hread, Except.bind, Except.map] at hsite
          obtain rfl := Except.ok.inj hsite
          obtain rfl := port_eq_of_read hport hrest hhost hread
          refine ⟨?_, (userInfoOf_eq_iff info).trans hinfo.symm⟩
          have hdefault : defaultPort? "http" = some 80 := rfl
          simp only [effectivePort?, siteOf, hdefault]
          by_cases h80 : port = 80
          · simp [h80]
          · simp [h80]

theorem front_hostPortText {host : List Char} (h : behindFront (hostLeft host) ≠ []) (port : Nat) :
    front (hostPortText host port) = front (hostLeft host) := by
  have hends : EndsFront (behindFront (hostLeft host) ++ ':' :: Nat.toDigits 10 port) := by
    obtain ⟨c, s, hcons⟩ := List.exists_cons_of_ne_nil h
    intro d hd
    apply endsFront_behindFront_append (hostLeft host) (t := []) (by simp [EndsFront]) d
    simpa [hcons] using hd
  rw [hostPortText]
  conv_lhs => rw [← front_append_behindFront (hostLeft host), List.append_assoc]
  exact front_append (isFront_front _) hends

/-- In front of a plain host a user information is read as that, whatever the path. -/
theorem IsPlainHost.parseChars_userInfo {s : List Char} {host : Host} (h : IsPlainHost s host)
    {info : List Char} (hinfo : ∀ c ∈ info, c = ':' ∨ isSign c = false) {port : Nat}
    (hport : port < 65536) (t : List Char) :
    parseChars (httpText (info ++ '@' :: s) port ++ '/' :: t) =
      .ok (locate (siteOf info host (if port = 80 then none else some port)) true
        ('/' :: cleanEnd t)) := by
  have hchars : ∀ c ∈ info ++ '@' :: s, endsAuthority true c = false ∧ isBreak c = false := by
    have hnot : ∀ c, isSign c = false → endsAuthority true c = false ∧ isBreak c = false := by
      intro c hc
      have hsign := (isSign_eq_false_iff c).mp hc
      exact ⟨hsign.1, hsign.2.2.2.2.2⟩
    intro c hc
    rcases List.mem_append.mp hc with hc | hc
    · rcases hinfo c hc with rfl | hc
      · decide
      · exact hnot c hc
    · rcases List.mem_cons.mp hc with rfl | hc
      · decide
      · exact hnot c (h.noSigns c hc)
  obtain ⟨-, hat⟩ := h.isFront_hostPort port
  have hfront : IsFront (info ++ '@' :: (s ++ ':' :: Nat.toDigits 10 port)) := by
    rw [← List.cons_append, ← List.append_assoc]
    intro c hc
    exact (List.mem_append.mp hc).elim (fun hc => (hchars c hc).1) (isFront_port port c)
  have hhost : hostOfTaken s = .ok host := by
    simp [hostOfTaken, h.ne_nil, h.isHost]
  have hsite : siteOfFront (info ++ '@' :: (s ++ ':' :: Nat.toDigits 10 port)) =
      .ok (siteOf info host (if port = 80 then none else some port)) := by
    unfold siteOfFront
    simp only [splitUserInfo_append_at hfront hat, Option.getD_some,
      takeHost_of_noSigns h.noSigns, hhost, portAfter_toDigits hport]
    rfl
  rw [parseChars_httpText_eq, hostPortText, hostLeft_eq_self hchars, List.append_assoc, List.cons_append,
    front_eq_self hfront, behindFront_eq_nil hfront, hsite]
  rfl

/-! ## The URLs of a host -/

theorem mem_behindFront {c : Char} (hc : endsAuthority true c = true) {s : List Char} (h : c ∈ s) :
    c ∈ behindFront s := by
  rw [← front_append_behindFront s, List.mem_append] at h
  rcases h with h | h
  · exact absurd (isFront_front s c h) (by simp [hc])
  · exact h

theorem tail_ne_none_of_mem {c : Char} (hc : c = '?' ∨ c = '#') {host : List Char} (h : c ∈ host)
    (port : Nat) (site : Url) (t : List Char) :
    let u := locate site true (behindFront (hostPortText host port) ++ t)
    ¬ (u.query = none ∧ u.fragment = none) := by
  have hsign : isSlash c = false ∧ isBreak c = false ∧ endsAuthority true c = true ∧
      inPath c = false := by
    rcases hc with rfl | rfl <;> decide
  obtain ⟨hslash, hbreak, hends, hin⟩ := hsign
  have hmem : c ∈ hostPortText host port := List.mem_append_left _ (mem_hostLeft hslash hbreak h)
  exact tail_ne_none hin (List.mem_append_left t (mem_behindFront hends hmem)) site

/-- A URL made of a host that leaves the path empty, a port and segments that stand as they are
leads to these segments exactly if the host is bare. -/
theorem parseChars_leadsTo_iff {host : List Char} {port : Nat} (hport : port < 65536) {probe : Url}
    (hprobe : parseChars (httpText host port ++ ['/']) = .ok probe) (hpath : probe.path = "/")
    {parts : List (List Char)} (h : ∀ part ∈ parts, IsPlainSegment part) (hne : parts ≠ []) :
    ∃ u, parseChars (httpText host port ++ slashed parts) = .ok u ∧
      (LeadsTo u (String.ofList (slashed parts)) port ↔ IsBareHost host) := by
  obtain ⟨part, rest, rfl⟩ := List.exists_cons_of_ne_nil hne
  have hclean : '/' :: cleanEnd (part ++ slashed rest) = slashed (part :: rest) := by
    have hcons := cleanEnd_append_slash [] (part ++ slashed rest)
    rw [List.nil_append, ← slashed_cons, cleanEnd_slashed_eq h] at hcons
    exact hcons.symm
  rw [parseChars_httpText_eq] at hprobe
  rw [slashed_cons, parseChars_httpText_eq, hclean, ← slashed_cons]
  cases hsite : siteOfFront (front (hostPortText host port)) with
  | error e => simp [hsite, Except.map] at hprobe
  | ok site =>
      rw [hsite] at hprobe
      obtain rfl := Except.ok.inj hprobe
      have hfront : '?' ∉ host → '#' ∉ host →
          behindFront (hostPortText host port) = [] ∧ (site.effectivePort? = some port ∧
            (site.username = "" ∧ site.password = none ↔ HasNoUserInfo (hostLeft host))) := by
        intro hquery hfragment
        have hbehind := isFront_of_readPath hpath hquery hfragment
        have hself := front_append_behindFront (hostPortText host port)
        rw [hbehind, List.append_nil] at hself
        rw [hself] at hsite
        have hleft : IsFront (hostLeft host) := by
          have hall : IsFront (hostPortText host port) := hself ▸ isFront_front _
          exact hall.of_append_left
        exact ⟨hbehind, siteOfFront_hostPort hport hleft hsite⟩
      refine ⟨locate site true (behindFront (hostPortText host port) ++ slashed (part :: rest)), rfl,
        ?_, ?_⟩
      · intro hleads
        have hquery : '?' ∉ host := fun hmem => tail_ne_none_of_mem (.inl rfl) hmem port site _
          ⟨hleads.noQuery, hleads.noFragment⟩
        have hfragment : '#' ∉ host := fun hmem => tail_ne_none_of_mem (.inr rfl) hmem port site _
          ⟨hleads.noQuery, hleads.noFragment⟩
        obtain ⟨-, -, hinfo⟩ := hfront hquery hfragment
        exact ⟨hquery, hfragment, hinfo.mp ⟨hleads.noUsername, hleads.noPassword⟩⟩
      · intro hbare
        obtain ⟨hbehind, heffective, hinfo⟩ := hfront hbare.noQuery hbare.noFragment
        obtain ⟨husername, hpassword⟩ := hinfo.mpr hbare.noUserInfo
        rw [hbehind, List.nil_append, locate_slashed_eq h hne]
        exact ⟨rfl, heffective, rfl, rfl, husername, hpassword⟩

end FlowConsole.Url
